import SentryWms.Core.Transition
import SentryWms.Snapshot.Scan

/-!
# The keeper of snapshot scans

A first-page request counts the scans of its token, inserts a pending row and polls it. The
keeper promotes pending rows, holds their exporting transactions, and reaps them: what is
done or aborted, what was promoted too long ago, and what has lost its row.
-/

namespace SentryWms.Snapshot

open Relational Transition

/-! ## The state -/

/-- A row of `snapshot_scans` with its timestamps. -/
structure TimedScan extends SnapshotScan where
  startedAt : ℕ
  lastAccessedAt : ℕ

/-- An entry of `self.active`: a scan whose exporting transaction is open. -/
structure HeldScan where
  scanId : ℕ
  promotedAtMonotonic : ℕ
  pgSnapshotId : ℕ
  snapshotEventId : ℕ

inductive FinalStatus where
  | done
  | aborted
  | expired
  | deleted
deriving DecidableEq

inductive KeeperPhase where
  | draining
  | promoting (pendingIds : List ℕ)
  | closing (toClose : List (ℕ × FinalStatus))
  | deleting (scanId : ℕ) (toClose : List (ℕ × FinalStatus))

/-- `SnapshotKeeper`. The timeout is in milliseconds. -/
structure SnapshotKeeper where
  poolSize : ℕ
  idleTimeout : ℕ
  active : List HeldScan
  phase : KeeperPhase

/-- Where a request is: its count was low enough, its row is inserted and not committed, it
polls its row, or it reads a page of an active scan. -/
inductive RequestPhase where
  | counted
  | inserted
  | polling (scanId deadline : ℕ)
  | serving (scanId : ℕ)
deriving DecidableEq

/-- A request in progress. `NOW()` is the time its transaction began. -/
structure SnapshotRequest where
  tokenId : ℕ
  warehouseId : ℕ
  beganAt : ℕ
  phase : RequestPhase

/-- The committed scans, the requests in progress and the keeper. -/
structure ScanState where
  scans : Table TimedScan
  requests : Table SnapshotRequest
  keeper : SnapshotKeeper
  now : ℕ

/-- `KEEPER_PROMOTION_TIMEOUT_S`, in milliseconds. -/
def keeperPromotionTimeout : ℕ := 5000

/-! ## Requests -/

/-- The row counts against the cap of a token. -/
def TimedScan.countsFor (tokenId : ℕ) (scan : TimedScan) : Bool :=
  scan.createdByTokenId == tokenId && (scan.status == .pending || scan.status == .active)

def scansInFlight (tokenId : ℕ) (scans : Table TimedScan) : ℕ :=
  (scans.select (TimedScan.countsFor tokenId)).length

def ScanState.openRequest (state : ScanState) (tokenId warehouseId : ℕ) (phase : RequestPhase) :
    ScanState :=
  { state with requests := state.requests.insert ⟨tokenId, warehouseId, state.now, phase⟩ }

/-- A request takes its next step. -/
def ScanState.setPhase (state : ScanState) (requestId : ℕ) (phase : RequestPhase) : ScanState :=
  { state with
    requests := state.requests.modify requestId fun request => { request with phase } }

def ScanState.answer (state : ScanState) (requestId : ℕ) : ScanState :=
  { state with requests := state.requests.delete requestId }

/-- The count of a first-page request. -/
def ScanState.count (state : ScanState) (token : SnapshotToken) (warehouseId : ℕ) : ScanState :=
  if warehouseId ∉ token.warehouseIds then state
  else if maxConcurrentScansPerToken ≤ scansInFlight token.tokenId state.scans then state
  else state.openRequest token.tokenId warehouseId .counted

/-- The pending row of a first-page request. -/
def SnapshotRequest.pendingScan (request : SnapshotRequest) : TimedScan where
  warehouseId := request.warehouseId
  status := .pending
  pgSnapshotId := none
  snapshotEventId := none
  createdByTokenId := request.tokenId
  startedAt := request.beganAt
  lastAccessedAt := request.beganAt

/-- The checks of a request with a cursor. -/
def ScanState.load (state : ScanState) (token : SnapshotToken) (warehouseId : ℕ)
    (cursor : ScanCursor) : ScanState :=
  if warehouseId ∉ token.warehouseIds ∨ cursor.warehouseId ≠ warehouseId then state
  else
    match state.scans.get? cursor.scanId with
    | none => state
    | some scan =>
        if scan.createdByTokenId ≠ token.tokenId ∨ scan.status ≠ .active then state
        else state.openRequest token.tokenId warehouseId (.serving cursor.scanId)

/-- One SELECT of `_wait_for_promotion`. -/
def ScanState.poll (state : ScanState) (requestId scanId : ℕ) : ScanState :=
  match state.scans.get? scanId with
  | some scan =>
      if scan.status = .active ∧ scan.pgSnapshotId.isSome then
        { state with
          requests := state.requests.modify requestId fun request =>
            { request with beganAt := state.now, phase := .serving scanId } }
      else state
  | none => state

/-- What a served page writes to the row of its scan. -/
def TimedScan.touch (now : ℕ) (partialPage : Bool) (scan : TimedScan) : TimedScan :=
  { scan with
    toSnapshotScan := if partialPage then scan.toSnapshotScan.finish else scan.toSnapshotScan
    lastAccessedAt := now }

def SnapshotKeeper.holds (keeper : SnapshotKeeper) (scanId : ℕ) : Bool :=
  keeper.active.any fun held => held.scanId == scanId

/-- The scan that a request reads a page of. The query imports the exported snapshot, and
fails where the exporting transaction is over. -/
def ScanState.servedScan (state : ScanState) (requestId : ℕ) : Option (ℕ × ℕ) :=
  (state.requests.get? requestId).bind fun request =>
    match request.phase with
    | .serving scanId =>
        if state.keeper.holds scanId then some (scanId, request.beganAt) else none
    | _ => none

def ScanState.serve (state : ScanState) (requestId : ℕ) (partialPage : Bool) : ScanState :=
  match state.servedScan requestId with
  | some (scanId, beganAt) =>
      { state with scans := state.scans.modify scanId (TimedScan.touch beganAt partialPage) }
        |>.answer requestId
  | none => state.answer requestId

/-! ## The keeper -/

/-- `_promote_pending` reads the ids it has room for. -/
def ScanState.pendingIds (state : ScanState) : List ℕ :=
  ((orderBy (fun entry => entry.2.startedAt)
    (state.scans.select fun scan => scan.status == .pending)).take
      (state.keeper.poolSize - state.keeper.active.length)).map Prod.fst

/-- The UPDATE of `_promote`, with its condition on the status. -/
def TimedScan.promote (pgSnapshotId snapshotEventId now : ℕ) (scan : TimedScan) : TimedScan :=
  if scan.status = .pending then
    { scan with
      status := .active
      pgSnapshotId := some pgSnapshotId
      snapshotEventId := some snapshotEventId
      lastAccessedAt := now }
  else scan

/-- `_promote`. A scan that is not pending any more is left alone. -/
def ScanState.promote (state : ScanState) (scanId pgSnapshotId snapshotEventId : ℕ) :
    ScanState :=
  if (state.scans.get? scanId).any fun scan => scan.status == .pending then
    { state with
      scans := state.scans.modify scanId
        (TimedScan.promote pgSnapshotId snapshotEventId state.now)
      keeper := { state.keeper with
        active := state.keeper.active ++
          [⟨scanId, state.now, pgSnapshotId, snapshotEventId⟩] } }
  else state

/-- What `_reap_completed_or_timed_out` decides for a scan whose row it has read. The age of
the scan is counted from its promotion. -/
def SnapshotKeeper.finalStatus (keeper : SnapshotKeeper) (now : ℕ) (held : HeldScan)
    (scan : TimedScan) : Option FinalStatus :=
  match scan.status with
  | .done => some .done
  | .aborted => some .aborted
  | _ =>
      if keeper.idleTimeout < now - held.promotedAtMonotonic then some .expired else none

def ScanState.toClose (state : ScanState) : List (ℕ × FinalStatus) :=
  (state.keeper.active.filterMap fun held =>
    (state.scans.get? held.scanId).bind fun scan =>
      (state.keeper.finalStatus state.now held scan).map fun status => (held.scanId, status)) ++
  (state.keeper.active.filter fun held => (state.scans.get? held.scanId).isNone).map
    fun held => (held.scanId, .deleted)

def ScanState.setKeeperPhase (state : ScanState) (phase : KeeperPhase) : ScanState :=
  { state with keeper := { state.keeper with phase } }

/-- `_close` up to its DELETE: the transaction ends, and an expired scan is marked. -/
def ScanState.close (state : ScanState) (scanId : ℕ) (finalStatus : FinalStatus) : ScanState :=
  { state with
    scans :=
      if finalStatus = .expired then
        state.scans.modify scanId fun scan => { scan with status := .expired }
      else state.scans
    keeper := { state.keeper with
      active := state.keeper.active.filter fun held => held.scanId != scanId } }

/-! ## Steps -/

/-- A statement or a commit of a request, a step of the loop of the keeper, or the passing of
time. A page is partial when the query finds fewer rows than it may return, and a promotion
that raises has no outcome. -/
inductive ScanAct where
  | count (token : SnapshotToken) (warehouseId : ℕ)
  | insert (requestId : ℕ)
  | commit (requestId : ℕ)
  | poll (requestId : ℕ)
  | giveUp (requestId : ℕ)
  | load (token : SnapshotToken) (warehouseId : ℕ) (cursor : ScanCursor)
  | serve (requestId : ℕ) (partialPage : Bool)
  | crash (requestId : ℕ)
  | selectPending
  | promote (outcome : Option (ℕ × ℕ))
  | reap
  | close
  | delete
  | drain
  | wait (elapsed : ℕ)

def scanStep (state : ScanState) : ScanAct → Option ScanState
  | .count token warehouseId => some (state.count token warehouseId)
  | .insert requestId =>
      match state.requests.get? requestId with
      | some request =>
          if request.phase = .counted then
            some (state.setPhase requestId .inserted)
          else none
      | none => none
  | .commit requestId =>
      match state.requests.get? requestId with
      | some request =>
          if request.phase = .inserted then
            some ({ state with scans := state.scans.insert request.pendingScan }.setPhase
              requestId (.polling state.scans.next (state.now + keeperPromotionTimeout)))
          else none
      | none => none
  | .poll requestId =>
      match (state.requests.get? requestId).map SnapshotRequest.phase with
      | some (.polling scanId _) => some (state.poll requestId scanId)
      | _ => none
  | .giveUp requestId =>
      match (state.requests.get? requestId).map SnapshotRequest.phase with
      | some (.polling scanId deadline) =>
          if deadline ≤ state.now then
            some ({ state with scans := state.scans.delete scanId }.answer requestId)
          else none
      | _ => none
  | .load token warehouseId cursor => some (state.load token warehouseId cursor)
  | .serve requestId partialPage =>
      match (state.requests.get? requestId).map SnapshotRequest.phase with
      | some (.serving _) => some (state.serve requestId partialPage)
      | _ => none
  | .crash requestId => some (state.answer requestId)
  | .selectPending =>
      match state.keeper.phase with
      | .draining => some (state.setKeeperPhase (.promoting state.pendingIds))
      | _ => none
  | .promote outcome =>
      match state.keeper.phase with
      | .promoting (scanId :: pendingIds) =>
          match outcome with
          | some (pgSnapshotId, snapshotEventId) =>
              some ((state.promote scanId pgSnapshotId snapshotEventId).setKeeperPhase
                (.promoting pendingIds))
          | none => some (state.setKeeperPhase (.promoting pendingIds))
      | _ => none
  | .reap =>
      match state.keeper.phase with
      | .promoting [] => some (state.setKeeperPhase (.closing state.toClose))
      | _ => none
  | .close =>
      match state.keeper.phase with
      | .closing ((scanId, finalStatus) :: toClose) =>
          if state.keeper.holds scanId then
            some ((state.close scanId finalStatus).setKeeperPhase (.deleting scanId toClose))
          else some (state.setKeeperPhase (.closing toClose))
      | _ => none
  | .delete =>
      match state.keeper.phase with
      | .deleting scanId toClose =>
          some ({ state with scans := state.scans.delete scanId }.setKeeperPhase
            (.closing toClose))
      | _ => none
  | .drain =>
      match state.keeper.phase with
      | .closing [] => some (state.setKeeperPhase .draining)
      | _ => none
  | .wait elapsed => some { state with now := state.now + elapsed }

end SentryWms.Snapshot
