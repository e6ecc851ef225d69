import SentryWms.Core.Transition

/-!
# Turbo receiving

In turbo mode a scan is counted at once and buffered; the buffer is posted in batches, one
at a time, when a timer fires or the buffer is full. A drain waits until nothing is buffered
or in flight; the screen drains before it loads the next PO, and resets the buffer when the
PO has been loaded.
-/

namespace SentryWms.Receiving.Turbo

open Transition

/-! ## Batches -/

/-- A line of a scan: the item and its bin. -/
structure Payload where
  itemId : ℕ
  binId : ℕ
deriving DecidableEq

/-- A buffered scan. Its number and the PO that was on screen are kept beside what the
program stores. -/
structure Scan where
  serial : ℕ
  payload : Payload
  poId : ℕ

structure ReceiveLine where
  payload : Payload
  quantity : ℕ

/-- One more scan of a line, in first-seen order. -/
def addScan (payload : Payload) : List ReceiveLine → List ReceiveLine
  | [] => [⟨payload, 1⟩]
  | line :: lines =>
      if line.payload = payload then ⟨payload, line.quantity + 1⟩ :: lines
      else line :: addScan payload lines

def aggregateReceiveBatch (entries : List Scan) : List ReceiveLine :=
  entries.foldl (fun lines scan => addScan scan.payload lines) []

def quantityOf (payload : Payload) (lines : List ReceiveLine) : ℕ :=
  (lines.map fun line => if line.payload = payload then line.quantity else 0).sum

theorem quantityOf_addScan (payload scanned : Payload) (lines : List ReceiveLine) :
    quantityOf payload (addScan scanned lines) =
      quantityOf payload lines + if scanned = payload then 1 else 0 := by
  induction lines with
  | nil => simp [addScan, quantityOf]
  | cons line lines ih =>
      rw [addScan]
      by_cases hline : line.payload = scanned
      · rw [if_pos hline]
        simp only [quantityOf, List.map_cons, List.sum_cons, hline]
        split <;> omega
      · rw [if_neg hline]
        simp only [quantityOf] at ih
        simp only [quantityOf, List.map_cons, List.sum_cons, ih]
        omega

theorem quantityOf_aggregateReceiveBatch (payload : Payload) (entries : List Scan) :
    quantityOf payload (aggregateReceiveBatch entries) =
      entries.countP fun scan => scan.payload = payload := by
  have hfold : ∀ lines, quantityOf payload
      (entries.foldl (fun lines scan => addScan scan.payload lines) lines) =
      quantityOf payload lines + entries.countP fun scan => scan.payload = payload := by
    induction entries with
    | nil => exact fun _ => rfl
    | cons scan entries ih =>
        intro lines
        rw [List.foldl_cons, ih, quantityOf_addScan, List.countP_cons]
        simp only [decide_eq_true_eq]
        omega
  rw [aggregateReceiveBatch, hfold]
  simp [quantityOf]

/-! ## The screen -/

/-- A batch that has been posted, with the scans it was made of. -/
structure Submission where
  poId : ℕ
  items : List ReceiveLine
  scans : List Scan

/-- The refs of the batcher and the state of the screen; `submitted`, `accepted` and `early`
only record what has happened. -/
structure Screen where
  buffer : List Scan
  /-- The batches whose submission has not settled. -/
  inFlight : List (List Scan)
  flushing : Bool
  timer : Bool
  /-- The drains that wait, each with the PO that is loaded after it, if one is. -/
  drainWaiters : List (Option ℕ)
  pending : ℕ → ℕ
  /-- The PO on screen, for which `submitRef` posts. -/
  po : ℕ
  /-- The PO that has been set but not rendered. -/
  staged : Option ℕ
  /-- The POs whose load has been requested. -/
  loads : List ℕ
  submitted : List Submission
  accepted : ℕ
  early : Bool

/-- A PO is on screen and nothing has been scanned. -/
def Screen.start (po : ℕ) : Screen where
  buffer := []
  inFlight := []
  flushing := false
  timer := false
  drainWaiters := []
  pending := fun _ => 0
  po := po
  staged := none
  loads := []
  submitted := []
  accepted := 0
  early := false

/-- `bumpPending(key, +1)`. -/
def bumpUp (pending : ℕ → ℕ) (key : ℕ) : ℕ → ℕ :=
  Function.update pending key (pending key + 1)

/-- `bumpPending(key, -1)`. A count that is gone stays at zero. -/
def bumpDown (pending : ℕ → ℕ) (key : ℕ) : ℕ → ℕ :=
  Function.update pending key (pending key - 1)

/-- `for (const { key } of batch) bumpPending(key, -1)`. -/
def clearCounts (pending : ℕ → ℕ) (batch : List Scan) : ℕ → ℕ :=
  batch.foldl (fun (pending : ℕ → ℕ) (scan : Scan) => bumpDown pending scan.payload.itemId)
    pending

/-- A drain resolves, and the screen goes on to load its PO. -/
def Screen.resolve (screen : Screen) (waiters : List (Option ℕ)) : Screen :=
  { screen with
    loads := screen.loads ++ waiters.filterMap id
    early := screen.early || !waiters.isEmpty &&
      !(screen.buffer.isEmpty && screen.inFlight.isEmpty) }

def Screen.maybeSettleDrain (screen : Screen) : Screen :=
  if screen.buffer.isEmpty && !screen.flushing then
    { screen.resolve screen.drainWaiters with drainWaiters := [] }
  else screen

/-- `flush`, up to the response of the submission. -/
def Screen.flush (screen : Screen) : Screen :=
  if screen.flushing || screen.buffer.isEmpty then screen.maybeSettleDrain
  else
    { screen with
      flushing := true
      timer := false
      buffer := []
      inFlight := screen.inFlight ++ [screen.buffer]
      submitted := screen.submitted ++
        [⟨screen.po, aggregateReceiveBatch screen.buffer, screen.buffer⟩] }

/-- `flush`, from the response on. The batch settles alike on success and on failure. -/
def Screen.settled (screen : Screen) (batch : List Scan) : Screen :=
  let screen := { screen with
    pending := clearCounts screen.pending batch
    flushing := false }
  if screen.buffer.isEmpty then screen.maybeSettleDrain else screen.flush

def Screen.scheduleFlush (batchMax : ℕ) (screen : Screen) : Screen :=
  if batchMax ≤ screen.buffer.length then screen.flush
  else if screen.timer then screen
  else { screen with timer := true }

def Screen.enqueue (batchMax : ℕ) (payload : Payload) (screen : Screen) : Screen :=
  Screen.scheduleFlush batchMax { screen with
    buffer := screen.buffer ++ [⟨screen.accepted, payload, screen.po⟩]
    pending := bumpUp screen.pending payload.itemId
    accepted := screen.accepted + 1 }

/-- `drain`, with what follows it. -/
def Screen.drain (next : Option ℕ) (screen : Screen) : Screen :=
  if screen.buffer.isEmpty && !screen.flushing then screen.resolve [next]
  else Screen.flush { screen with drainWaiters := screen.drainWaiters ++ [next] }

def Screen.reset (screen : Screen) : Screen :=
  { screen with timer := false, buffer := [], pending := fun _ => 0 }

/-- What can happen next. -/
inductive Act where
  | enqueue (payload : Payload)
  | timer
  /-- A submission settles. -/
  | settle (index : ℕ)
  /-- `handleNextPO`, where the next PO is this one. -/
  | nextPO (poId : ℕ)
  /-- A drain before the screen is left or the session is submitted. -/
  | drain
  /-- `loadPO` has its response: the PO is set and the batcher reset. -/
  | loaded (index : ℕ)
  | loadFailed (index : ℕ)
  /-- The screen renders the PO that has been set. -/
  | render
  /-- `resetAll`. -/
  | reset

/-- One event. -/
def step (batchMax : ℕ) (screen : Screen) : Act → Option Screen
  | .enqueue payload => some (screen.enqueue batchMax payload)
  | .timer =>
      if screen.timer then some (Screen.flush { screen with timer := false }) else none
  | .settle index =>
      match screen.inFlight[index]? with
      | some batch =>
          some (Screen.settled { screen with inFlight := screen.inFlight.eraseIdx index } batch)
      | none => none
  | .nextPO poId => some (screen.drain (some poId))
  | .drain => some (screen.drain none)
  | .loaded index =>
      match screen.loads[index]? with
      | some poId =>
          some { screen.reset with loads := screen.loads.eraseIdx index, staged := some poId }
      | none => none
  | .loadFailed index =>
      if index < screen.loads.length then
        some { screen with loads := screen.loads.eraseIdx index }
      else none
  | .render =>
      match screen.staged with
      | some poId => some { screen with po := poId, staged := none }
      | none => none
  | .reset => some screen.reset

/-- A reset finds nothing buffered or in flight, and no scan comes between the response of a
load and the rendering of its PO. -/
def guard (screen : Screen) : Act → Prop
  | .loaded _ | .reset => screen.buffer = [] ∧ screen.inFlight = []
  | .enqueue _ => screen.staged = none
  | _ => True

instance (screen : Screen) (act : Act) : Decidable (guard screen act) :=
  match act with
  | .loaded _ | .reset => inferInstanceAs (Decidable (screen.buffer = [] ∧ screen.inFlight = []))
  | .enqueue _ => inferInstanceAs (Decidable (screen.staged = none))
  | .timer | .settle _ | .nextPO _ | .drain | .loadFailed _ | .render => isTrue trivial

/-! ## No scan is lost -/

def Screen.unsettled (screen : Screen) : List Scan :=
  screen.buffer ++ screen.inFlight.flatten

/-- What holds of the batcher at any moment. -/
structure Lossless (screen : Screen) : Prop where
  /-- Every accepted scan is buffered or in one batch, once. -/
  once : ((screen.submitted.flatMap Submission.scans ++ screen.buffer).map Scan.serial).Perm
    (List.range screen.accepted)
  /-- A batch is posted for the PO that its scans were made for. -/
  posted : ∀ submission ∈ screen.submitted, ∀ scan ∈ submission.scans,
    scan.poId = submission.poId
  /-- A batch posts the number of its scans, line by line. -/
  quantities : ∀ submission ∈ screen.submitted, ∀ payload,
    quantityOf payload submission.items =
      submission.scans.countP fun scan => scan.payload = payload
  single : screen.inFlight.length ≤ 1
  pending : ∀ key, screen.pending key =
    screen.unsettled.countP fun scan => scan.payload.itemId = key
  armed : screen.buffer ≠ [] → screen.timer = true ∨ screen.inFlight ≠ []
  /-- No drain has resolved with a scan buffered or in flight. -/
  drained : screen.early = false

/-- What holds of the batcher while an event is under way, before the timer is armed. -/
structure Held (screen : Screen) : Prop where
  once : ((screen.submitted.flatMap Submission.scans ++ screen.buffer).map Scan.serial).Perm
    (List.range screen.accepted)
  posted : ∀ submission ∈ screen.submitted, ∀ scan ∈ submission.scans,
    scan.poId = submission.poId
  quantities : ∀ submission ∈ screen.submitted, ∀ payload,
    quantityOf payload submission.items =
      submission.scans.countP fun scan => scan.payload = payload
  pending : ∀ key, screen.pending key =
    screen.unsettled.countP fun scan => scan.payload.itemId = key
  drained : screen.early = false
  /-- The flag says whether a batch is in flight, and there is one at most. -/
  flight : screen.flushing = false ∧ screen.inFlight = [] ∨
    screen.flushing = true ∧ ∃ batch, screen.inFlight = [batch]
  /-- The buffer is for the PO on screen. -/
  buffered : ∀ scan ∈ screen.buffer, scan.poId = screen.po
  /-- Nothing is buffered while a PO waits to be rendered. -/
  staged : screen.staged ≠ none → screen.buffer = []

/-- A buffer that is not empty has a timer or a batch in flight. -/
def Armed (screen : Screen) : Prop :=
  screen.buffer ≠ [] → screen.timer = true ∨ screen.inFlight ≠ []

theorem Held.lossless {screen : Screen} (hheld : Held screen) (harmed : Armed screen) :
    Lossless screen where
  once := hheld.once
  posted := hheld.posted
  quantities := hheld.quantities
  single := by
    rcases hheld.flight with ⟨-, hnone⟩ | ⟨-, batch, hbatch⟩
    · rw [hnone]
      exact Nat.zero_le _
    · rw [hbatch]
      exact Nat.le_refl _
  pending := hheld.pending
  armed := harmed
  drained := hheld.drained

theorem held_start (po : ℕ) : Held (Screen.start po) where
  once := List.Perm.refl _
  posted := fun _ hmem => absurd hmem List.not_mem_nil
  quantities := fun _ hmem => absurd hmem List.not_mem_nil
  pending := fun _ => rfl
  drained := rfl
  flight := .inl ⟨rfl, rfl⟩
  buffered := fun _ hmem => absurd hmem List.not_mem_nil
  staged := fun _ => rfl

/-! ## One lemma for each part of an event -/

variable {screen : Screen}

theorem Held.beside (hheld : Held screen) (timer : Bool) (drainWaiters : List (Option ℕ))
    (loads : List ℕ) : Held { screen with timer, drainWaiters, loads } where
  once := hheld.once
  posted := hheld.posted
  quantities := hheld.quantities
  pending := hheld.pending
  drained := hheld.drained
  flight := hheld.flight
  buffered := hheld.buffered
  staged := hheld.staged

theorem Held.idle (hheld : Held screen)
    (hidle : (screen.buffer.isEmpty && !screen.flushing) = true) :
    screen.buffer = [] ∧ screen.inFlight = [] := by
  rw [Bool.and_eq_true, Bool.not_eq_true', List.isEmpty_iff] at hidle
  rcases hheld.flight with ⟨-, hnone⟩ | ⟨hflushing, -⟩
  · exact ⟨hidle.1, hnone⟩
  · rw [hidle.2] at hflushing
    cases hflushing

theorem Held.resolve (hheld : Held screen)
    (hidle : screen.buffer = [] ∧ screen.inFlight = []) (waiters : List (Option ℕ)) :
    Held (screen.resolve waiters) where
  once := hheld.once
  posted := hheld.posted
  quantities := hheld.quantities
  pending := hheld.pending
  drained := by
    rw [Screen.resolve, hheld.drained, hidle.1, hidle.2]
    exact Bool.and_false _
  flight := hheld.flight
  buffered := hheld.buffered
  staged := hheld.staged

theorem Held.maybeSettleDrain (hheld : Held screen) : Held screen.maybeSettleDrain := by
  rw [Screen.maybeSettleDrain]
  split
  · next hidle =>
      have hresolved := hheld.resolve (hheld.idle hidle) screen.drainWaiters
      exact ⟨hresolved.once, hresolved.posted, hresolved.quantities, hresolved.pending,
        hresolved.drained, hresolved.flight, hresolved.buffered, hresolved.staged⟩
  · exact hheld

theorem maybeSettleDrain_armed (harmed : Armed screen) : Armed screen.maybeSettleDrain := by
  rw [Screen.maybeSettleDrain]
  split <;> exact harmed

theorem Held.flush (hheld : Held screen) : Held screen.flush := by
  rw [Screen.flush]
  split
  · exact hheld.maybeSettleDrain
  · next hready =>
      rw [Bool.or_eq_true, not_or, Bool.not_eq_true] at hready
      have hnone : screen.inFlight = [] := by
        rcases hheld.flight with ⟨-, hnone⟩ | ⟨hflushing, -⟩
        · exact hnone
        · rw [hready.1] at hflushing
          cases hflushing
      refine ⟨?_, ?_, ?_, ?_, hheld.drained, ?_, ?_, fun _ => rfl⟩
      · simpa [List.flatMap_append] using hheld.once
      · intro submission hmem
        rcases List.mem_append.mp hmem with hold | hnew
        · exact hheld.posted submission hold
        · rw [List.mem_singleton.mp hnew]
          exact hheld.buffered
      · intro submission hmem payload
        rcases List.mem_append.mp hmem with hold | hnew
        · exact hheld.quantities submission hold payload
        · rw [List.mem_singleton.mp hnew]
          exact quantityOf_aggregateReceiveBatch payload screen.buffer
      · intro key
        rw [hheld.pending key]
        simp [Screen.unsettled, hnone]
      · exact .inr ⟨rfl, screen.buffer, by rw [hnone]; rfl⟩
      · exact fun _ hmem => absurd hmem List.not_mem_nil

theorem Held.flush_armed (hheld : Held screen) : Armed screen.flush := by
  rw [Screen.flush]
  split
  · next hwaits =>
      apply maybeSettleDrain_armed
      intro hbuffer
      right
      rcases hheld.flight with ⟨hidle, -⟩ | ⟨-, batch, hbatch⟩
      · rw [hidle, Bool.false_or, List.isEmpty_iff] at hwaits
        exact absurd hwaits hbuffer
      · rw [hbatch]
        exact List.cons_ne_nil _ _
  · exact fun hbuffer => absurd rfl hbuffer

theorem clearCounts_apply (batch : List Scan) (pending : ℕ → ℕ) (key : ℕ) :
    clearCounts pending batch key =
      pending key - batch.countP fun scan => scan.payload.itemId = key := by
  induction batch generalizing pending with
  | nil => rfl
  | cons scan batch ih =>
      calc
        _ = clearCounts (bumpDown pending scan.payload.itemId) batch key := rfl
        _ = _ := by
          rw [ih, List.countP_cons, bumpDown]
          by_cases hkey : scan.payload.itemId = key
          · rw [hkey, Function.update_self]
            simp only [decide_true, if_true]
            omega
          · rw [Function.update_of_ne fun heq => hkey heq.symm]
            simp [hkey]

theorem Held.cleared (hheld : Held screen) {index : ℕ} {batch : List Scan}
    (hbatch : screen.inFlight[index]? = some batch) :
    Held { screen with
      inFlight := screen.inFlight.eraseIdx index
      pending := clearCounts screen.pending batch
      flushing := false } := by
  have hone : screen.inFlight = [batch] ∧ screen.inFlight.eraseIdx index = [] := by
    rcases hheld.flight with ⟨-, hnone⟩ | ⟨-, other, hother⟩
    · rw [hnone] at hbatch
      cases hbatch
    · rw [hother] at hbatch ⊢
      cases index with
      | zero =>
          cases hbatch
          exact ⟨rfl, rfl⟩
      | succ index => cases hbatch
  refine ⟨hheld.once, hheld.posted, hheld.quantities, ?_, hheld.drained,
    .inl ⟨rfl, hone.2⟩, hheld.buffered, hheld.staged⟩
  intro key
  calc
    _ = screen.pending key - batch.countP fun scan => scan.payload.itemId = key :=
      clearCounts_apply _ _ _
    _ = _ := by
      rw [hheld.pending key, Screen.unsettled, Screen.unsettled, hone.2, hone.1]
      simp

theorem Held.settled (hheld : Held screen) {index : ℕ} {batch : List Scan}
    (hbatch : screen.inFlight[index]? = some batch) :
    Held (Screen.settled { screen with inFlight := screen.inFlight.eraseIdx index } batch) ∧
      Armed (Screen.settled { screen with inFlight := screen.inFlight.eraseIdx index }
        batch) := by
  have hcleared := hheld.cleared hbatch
  simp only [Screen.settled]
  split
  · next hempty =>
      refine ⟨hcleared.maybeSettleDrain, maybeSettleDrain_armed ?_⟩
      exact fun hbuffer => absurd (List.isEmpty_iff.mp hempty) hbuffer
  · exact ⟨hcleared.flush, hcleared.flush_armed⟩

theorem Held.scheduleFlush (hheld : Held screen) (batchMax : ℕ) :
    Held (screen.scheduleFlush batchMax) ∧ Armed (screen.scheduleFlush batchMax) := by
  rw [Screen.scheduleFlush]
  split
  · exact ⟨hheld.flush, hheld.flush_armed⟩
  · split
    · next htimer => exact ⟨hheld, fun _ => .inl htimer⟩
    · exact ⟨hheld.beside true screen.drainWaiters screen.loads, fun _ => .inl rfl⟩

theorem Held.enqueue (hheld : Held screen) (hstaged : screen.staged = none) (batchMax : ℕ)
    (payload : Payload) :
    Held (screen.enqueue batchMax payload) ∧ Armed (screen.enqueue batchMax payload) := by
  rw [Screen.enqueue]
  apply Held.scheduleFlush
  refine ⟨?_, hheld.posted, hheld.quantities, ?_, hheld.drained, hheld.flight, ?_, ?_⟩
  · rw [← List.append_assoc, List.map_append, List.range_succ]
    exact hheld.once.append_right _
  · intro key
    have hcount := hheld.pending key
    simp only [Screen.unsettled, List.countP_append] at hcount ⊢
    by_cases hkey : payload.itemId = key
    · rw [bumpUp, hkey, Function.update_self, hcount]
      simp [hkey]
      omega
    · rw [bumpUp, Function.update_of_ne fun heq => hkey heq.symm, hcount]
      simp [hkey]
  · intro scan hmem
    rcases List.mem_append.mp hmem with hold | hnew
    · exact hheld.buffered scan hold
    · rw [List.mem_singleton.mp hnew]
  · exact fun hsome => absurd hstaged hsome

theorem Held.drain (hheld : Held screen) (harmed : Armed screen) (next : Option ℕ) :
    Held (screen.drain next) ∧ Armed (screen.drain next) := by
  rw [Screen.drain]
  split
  · next hidle => exact ⟨hheld.resolve (hheld.idle hidle) [next], harmed⟩
  · have hwaiting : Held { screen with drainWaiters := screen.drainWaiters ++ [next] } :=
      hheld.beside screen.timer _ screen.loads
    exact ⟨hwaiting.flush, hwaiting.flush_armed⟩

/-- A reset that finds the batcher idle drops nothing. -/
theorem Held.reset (hheld : Held screen)
    (hidle : screen.buffer = [] ∧ screen.inFlight = []) : Held screen.reset where
  once := by
    have honce := hheld.once
    rw [hidle.1] at honce
    exact honce
  posted := hheld.posted
  quantities := hheld.quantities
  pending := by
    intro key
    rw [Screen.unsettled, Screen.reset, hidle.2]
    rfl
  drained := hheld.drained
  flight := hheld.flight
  buffered := fun _ hmem => absurd hmem List.not_mem_nil
  staged := fun _ => rfl

/-! ## Every run -/

variable {batchMax : ℕ} {after : Screen}

/-- Every event that meets the condition keeps what holds of the batcher. -/
theorem step_held {act : Act} (hinv : Held screen ∧ Armed screen) (hguard : guard screen act)
    (hstep : step batchMax screen act = some after) : Held after ∧ Armed after := by
  obtain ⟨hheld, harmed⟩ := hinv
  cases act with
  | enqueue payload =>
      cases hstep
      exact hheld.enqueue hguard batchMax payload
  | timer =>
      rw [step] at hstep
      split at hstep
      · cases hstep
        have hfired : Held { screen with timer := false } :=
          hheld.beside false screen.drainWaiters screen.loads
        exact ⟨hfired.flush, hfired.flush_armed⟩
      · cases hstep
  | settle index =>
      rw [step] at hstep
      cases hbatch : screen.inFlight[index]? with
      | none =>
          rw [hbatch] at hstep
          cases hstep
      | some batch =>
          rw [hbatch] at hstep
          cases hstep
          exact hheld.settled hbatch
  | nextPO poId =>
      cases hstep
      exact hheld.drain harmed (some poId)
  | drain =>
      cases hstep
      exact hheld.drain harmed none
  | loaded index =>
      rw [step] at hstep
      split at hstep
      · cases hstep
        have hreset := hheld.reset hguard
        exact ⟨⟨hreset.once, hreset.posted, hreset.quantities, hreset.pending, hreset.drained,
          hreset.flight, hreset.buffered, fun _ => rfl⟩, fun hbuffer => absurd rfl hbuffer⟩
      · cases hstep
  | loadFailed index =>
      rw [step] at hstep
      split at hstep
      · cases hstep
        exact ⟨hheld.beside screen.timer screen.drainWaiters _, harmed⟩
      · cases hstep
  | render =>
      rw [step] at hstep
      cases hstaged : screen.staged with
      | none =>
          rw [hstaged] at hstep
          cases hstep
      | some poId =>
          rw [hstaged] at hstep
          cases hstep
          have hempty : screen.buffer = [] := hheld.staged (by rw [hstaged]; simp)
          refine ⟨⟨hheld.once, hheld.posted, hheld.quantities, hheld.pending, hheld.drained,
            hheld.flight, ?_, fun hsome => absurd rfl hsome⟩, harmed⟩
          intro scan hmem
          rw [show screen.buffer = [] from hempty] at hmem
          cases hmem
  | reset =>
      cases hstep
      exact ⟨hheld.reset hguard, fun hbuffer => absurd rfl hbuffer⟩

/-- In every run whose resets find the batcher idle, and whose scans come for a PO that has
been rendered, no scan is lost or posted twice or for another PO. -/
theorem batches_lossless {batchMax po : ℕ} {acts : List Act} {after : Screen}
    (hrun : Run (step batchMax) guard (Screen.start po) acts after) : Lossless after := by
  have hinv := hrun.invariant (fun screen => Held screen ∧ Armed screen)
    (fun hinv hguard hstep => step_held hinv hguard hstep)
    ⟨held_start po, fun hbuffer => absurd rfl hbuffer⟩
  exact hinv.1.lossless hinv.2

/-- Three scans, two batches and the next PO. -/
theorem twoPOs_lossless :
    ∃ after, Run (step 2) guard (Screen.start 7)
        [.enqueue ⟨1, 5⟩, .timer, .enqueue ⟨1, 5⟩, .enqueue ⟨2, 5⟩, .settle 0, .nextPO 8,
          .settle 0, .loaded 0, .render, .enqueue ⟨3, 5⟩] after ∧ Lossless after := by
  have hrun : Run (step 2) guard (Screen.start 7)
      [.enqueue ⟨1, 5⟩, .timer, .enqueue ⟨1, 5⟩, .enqueue ⟨2, 5⟩, .settle 0, .nextPO 8,
        .settle 0, .loaded 0, .render, .enqueue ⟨3, 5⟩] _ := Run.ofExecute rfl
  exact ⟨_, hrun, batches_lossless hrun⟩

/-- The next PO is asked for twice before it is there. The second response finds the first
scan of the new PO in the buffer and drops it. -/
theorem second_response_drops_scan :
    ∃ after, Run (step 20) (fun _ _ => True) (Screen.start 7)
        [.nextPO 8, .nextPO 8, .loaded 0, .render, .enqueue ⟨1, 5⟩, .loaded 0] after ∧
      ¬ Lossless after := by
  refine ⟨_, Run.ofExecute rfl, fun hlossless => ?_⟩
  have hlength := hlossless.once.length_eq
  revert hlength
  decide

end SentryWms.Receiving.Turbo
