import SentryWms.Core.Transition

/-!
# The state of a sync

The row of `sync_state` of one connector, warehouse and sync type. A worker marks it
running, syncs, and completes with the run id it was given; an admin may reset it. Each
call is a transaction of one or two statements: a read sees what is committed, a write
locks the row until the commit, and a write that finds the row locked waits.
-/

namespace SentryWms.Sync

/-! ## Rows -/

inductive SyncStatus where
  | idle
  | running
  | error
deriving DecidableEq

/-- The columns of `sync_state` that the transitions read. Times are in microseconds. -/
structure SyncState where
  syncStatus : SyncStatus
  runningSince : Option ℕ
  runId : Option ℕ
  consecutiveErrors : ℕ

def runningTimeout : ℕ := 3600 * 1000000

def errorThreshold : ℕ := 3

/-- The check of `_set_running_impl`, which raises `DuplicateRunError`: the row is running
and not since longer than the timeout. A missing `running_since` counts as fresh. -/
def isDuplicate (now : ℕ) : Option SyncState → Bool
  | none => false
  | some row =>
      row.syncStatus == .running &&
        match row.runningSince with
        | none => true
        | some runningSince => decide (now < runningSince + runningTimeout)

/-- The upsert of `_set_running_impl`. -/
def startRun (startedAt runId : ℕ) : Option SyncState → SyncState
  | none =>
      { syncStatus := .running, runningSince := some startedAt, runId := some runId,
        consecutiveErrors := 0 }
  | some row =>
      { row with
        syncStatus := .running, runningSince := some startedAt, runId := some runId }

/-- The update of `set_success_standalone`. -/
def finishSuccess (row : SyncState) : SyncState :=
  { row with
    syncStatus := .idle, runningSince := none, runId := none, consecutiveErrors := 0 }

/-- The update of `set_error_standalone`, given the count that it read. -/
def finishError (currentErrors : ℕ) (row : SyncState) : SyncState :=
  { row with
    syncStatus := if errorThreshold ≤ currentErrors + 1 then .error else .idle
    runningSince := none
    runId := none
    consecutiveErrors := currentErrors + 1 }

/-- The update of `reset_running`. -/
def clearRunning (row : SyncState) : SyncState :=
  { row with syncStatus := .idle, runningSince := none, runId := none }

/-! ## Transactions -/

/-- What a write will have done once it commits. -/
inductive Effect where
  | started (runId : ℕ)
  | succeeded (runId : ℕ)
  | failed (runId : ℕ)
  | reset (runId : Option ℕ)

/-- A row that its transaction has written and not committed. -/
structure Written where
  txn : ℕ
  effect : Effect
  row : SyncState

/-- Where a call stands: after the read of `_set_running_impl`, before its upsert, after
the read of `set_error_standalone`, or before the commit. -/
inductive Stage where
  | checked (startedAt : ℕ) (row : Option SyncState)
  | starting (startedAt : ℕ)
  | errorRead (runId currentErrors : ℕ)
  | writing

/-- A run id that was returned, when, and the runs that were still going then. -/
structure Start where
  runId : ℕ
  returnedAt : ℕ
  others : List ℕ

/-- A completion that was applied, and the run id of the row before it. -/
structure Completion where
  failed : Bool
  runId : ℕ
  owner : Option ℕ

/-- The row as committed and as written, the calls in progress, the clock, the next run
id, and what has happened, with the newest first. -/
structure SyncStore where
  row : Option SyncState
  written : Option Written
  calls : ℕ → Option Stage
  now : ℕ
  nextRunId : ℕ
  starts : List Start
  ended : List ℕ
  completions : List Completion

def SyncStore.goto (store : SyncStore) (txn : ℕ) (stage : Option Stage) : SyncStore :=
  { store with calls := fun other => if other = txn then stage else store.calls other }

def SyncStore.owned (store : SyncStore) (runId : ℕ) : Option SyncState :=
  store.row.filter fun row => row.runId == some runId

/-- Write the row, which nobody else may have locked. -/
def SyncStore.write (store : SyncStore) (txn : ℕ) (effect : Effect) (row : SyncState) :
    Option SyncStore :=
  match store.written with
  | some _ => none
  | none => some { store.goto txn (some .writing) with written := some ⟨txn, effect, row⟩ }

/-- The run was returned less than the timeout ago and is neither completed nor reset. -/
def SyncStore.Live (store : SyncStore) (start : Start) : Prop :=
  store.now < start.returnedAt + runningTimeout ∧ start.runId ∉ store.ended

instance (store : SyncStore) (start : Start) : Decidable (store.Live start) := by
  unfold SyncStore.Live
  infer_instance

/-- The runs that are still going. -/
def SyncStore.liveRuns (store : SyncStore) : List ℕ :=
  (store.starts.filter fun start => decide (store.Live start)).map Start.runId

def SyncStore.complete (store : SyncStore) (failed : Bool) (runId : ℕ) : Completion :=
  { failed, runId, owner := store.row.bind SyncState.runId }

def SyncStore.commit (store : SyncStore) (written : Written) : SyncStore :=
  let committed : SyncStore :=
    { store.goto written.txn none with row := some written.row, written := none }
  match written.effect with
  | .started runId =>
      { committed with starts := ⟨runId, store.now, store.liveRuns⟩ :: store.starts }
  | .succeeded runId =>
      { committed with
        ended := runId :: store.ended
        completions := store.complete false runId :: store.completions }
  | .failed runId =>
      { committed with
        ended := runId :: store.ended
        completions := store.complete true runId :: store.completions }
  | .reset runId => { committed with ended := runId.toList ++ store.ended }

/-! ## Calls -/

/-- `set_running_standalone` reads the row. -/
def setRunning (store : SyncStore) (txn : ℕ) : SyncStore :=
  store.goto txn (some (.checked store.now store.row))

/-- `set_success_standalone`. -/
def setSuccess (store : SyncStore) (txn runId : ℕ) : Option SyncStore :=
  match store.owned runId with
  | none => some store
  | some row => store.write txn (.succeeded runId) (finishSuccess row)

/-- `set_error_standalone` reads the count of errors. -/
def setError (store : SyncStore) (txn runId : ℕ) : SyncStore :=
  match store.owned runId with
  | none => store
  | some row => store.goto txn (some (.errorRead runId row.consecutiveErrors))

def resetRunning (store : SyncStore) (txn : ℕ) : Option SyncStore :=
  match store.row with
  | none => some store
  | some row =>
      if row.syncStatus = .running then store.write txn (.reset row.runId) (clearRunning row)
      else some store

/-- The next step of a call. -/
def advance (store : SyncStore) (txn : ℕ) : Stage → Option SyncStore
  | .checked startedAt row =>
      some (store.goto txn (if isDuplicate store.now row then none else some (.starting startedAt)))
  | .starting startedAt =>
      ({ store with nextRunId := store.nextRunId + 1 } : SyncStore).write txn
        (.started store.nextRunId) (startRun startedAt store.nextRunId store.row)
  | .errorRead runId currentErrors =>
      match store.owned runId with
      | none => some (store.goto txn none)
      | some row => store.write txn (.failed runId) (finishError currentErrors row)
  | .writing =>
      match store.written with
      | none => none
      | some written => if written.txn = txn then some (store.commit written) else none

/-- A call begins or goes on, a worker dies in a call, or time passes. -/
inductive Event where
  | setRunning (txn : ℕ)
  | setSuccess (txn runId : ℕ)
  | setError (txn runId : ℕ)
  | resetRunning (txn : ℕ)
  | advance (txn : ℕ)
  | crash (txn : ℕ)
  | tick (elapsed : ℕ)

/-- The transaction of a dead worker is rolled back. -/
def crash (store : SyncStore) (txn : ℕ) : SyncStore :=
  { store.goto txn none with
    written := store.written.filter fun written => written.txn != txn }

def step (store : SyncStore) : Event → Option SyncStore
  | .setRunning txn => if store.calls txn = none then some (setRunning store txn) else none
  | .setSuccess txn runId =>
      if store.calls txn = none then setSuccess store txn runId else none
  | .setError txn runId =>
      if store.calls txn = none then some (setError store txn runId) else none
  | .resetRunning txn => if store.calls txn = none then resetRunning store txn else none
  | .advance txn => (store.calls txn).bind (advance store txn)
  | .crash txn => some (crash store txn)
  | .tick elapsed => some { store with now := store.now + elapsed }

/-! ## One owner -/

/-- How many of the last completions failed, back to the last success. -/
def errorsSinceSuccess (completions : List Completion) : ℕ :=
  (completions.takeWhile Completion.failed).length

/-- No run was returned while another was going, every completion that was applied came
from the run of the row, and the errors are counted. -/
structure OneOwner (store : SyncStore) : Prop where
  alone : ∀ start ∈ store.starts, start.others = []
  owner : ∀ completion ∈ store.completions, completion.owner = some completion.runId
  counted : (store.row.elim 0 SyncState.consecutiveErrors) =
    errorsSinceSuccess store.completions

end SentryWms.Sync
