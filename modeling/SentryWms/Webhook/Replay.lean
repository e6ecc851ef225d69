import SentryWms.Webhook.Cursor

/-!
# Replays

An administrator replays one delivery, or every delivery that matches a filter, by
new pending rows. A `replay_batch` holds the row of the subscription from its first
statement to its commit. A delivery refers to that row, so whoever inserts one waits
for the lock, and so does whoever updates the row; a cycle of the dispatcher that
does neither goes on between the statements of the batch, each of which reads what
has been committed by then.
-/

namespace SentryWms.Webhook

open Relational Transition

/-! ## Requests -/

/-- `_REPLAY_STATUS_VALUES`. -/
inductive ReplayStatus where
  | dlq
  | failed
  | succeeded

/-- The status as a value of `webhook_deliveries.status`. -/
def ReplayStatus.deliveryStatus : ReplayStatus → DeliveryStatus
  | .dlq => .dlq
  | .failed => .failed
  | .succeeded => .succeeded

/-- `ReplayBatchFilter`: an absent field contributes no clause. -/
structure ReplayBatchFilter where
  status : ReplayStatus := .dlq
  eventType : Option String := none
  warehouseId : Option ℕ := none
  completedAtFrom : Option ℤ := none
  completedAtTo : Option ℤ := none
  eventType_length : ∀ value ∈ eventType, 1 ≤ value.length ∧ value.length ≤ 64 := by simp
  warehouseId_pos : ∀ value ∈ warehouseId, 1 ≤ value := by simp

structure ReplayBatchRequest where
  filter : ReplayBatchFilter
  acknowledgeLargeReplay : Bool := false

/-- The operator's limits: the window and the budget of the aggregate throttle, and
the cap of one batch. -/
structure ReplayLimits where
  globalWindow : ℕ := 300
  globalBudget : ℕ := 5
  hardCap : ℕ := 10000
  globalWindow_pos : 1 ≤ globalWindow := by decide
  globalBudget_pos : 1 ≤ globalBudget := by decide
  hardCap_pos : 1 ≤ hardCap := by decide

/-- `_REPLAY_BATCH_THROTTLE_S`. -/
def replayBatchThrottle : ℤ := 60

/-! ## The rows of a replay -/

/-- The event of a delivery in the left join: null when its row was pruned. -/
def joinedEvent (outbox : Outbox) (delivery : Delivery) : Option OutboxEvent :=
  (outbox.events.get? delivery.eventId).filter fun event => event.visibleAt.isSome

def compares {α β : Type} (field : Option α) (column : Option β) (holds : α → β → Bool) :
    Bool :=
  match field with
  | none => true
  | some value => column.any (holds value)

def ReplayBatchFilter.deliveryClauses (filter : ReplayBatchFilter) (delivery : Delivery) :
    Bool :=
  delivery.status == filter.status.deliveryStatus &&
    compares filter.completedAtFrom delivery.completedAt
      (fun bound completedAt => decide (bound ≤ completedAt)) &&
    compares filter.completedAtTo delivery.completedAt
      fun bound completedAt => decide ((completedAt : ℤ) ≤ bound)

/-- The clauses of `_replay_filter_clauses` on the joined event. -/
def ReplayBatchFilter.eventClauses (filter : ReplayBatchFilter)
    (event : Option OutboxEvent) : Bool :=
  compares filter.eventType event (fun eventType event => event.eventType == eventType) &&
    compares filter.warehouseId event
      fun warehouseId event => event.warehouseId == warehouseId

def replayFilterClauses (outbox : Outbox) (filter : ReplayBatchFilter)
    (delivery : Delivery) : Bool :=
  filter.deliveryClauses delivery && filter.eventClauses (joinedEvent outbox delivery)

def matching (outbox : Outbox) (filter : ReplayBatchFilter) : List (ℕ × Delivery) :=
  outbox.deliveries.select (replayFilterClauses outbox filter)

/-- The deliveries that match but for their event, whose row is gone. -/
def matchingWithoutEvent (outbox : Outbox) (filter : ReplayBatchFilter) :
    List (ℕ × Delivery) :=
  outbox.deliveries.select fun delivery =>
    filter.deliveryClauses delivery && (joinedEvent outbox delivery).isNone

/-- The pending and in-flight deliveries. -/
def openDeliveries (outbox : Outbox) : List (ℕ × Delivery) :=
  outbox.deliveries.select Delivery.nonTerminal

def replayRow (startedAt : ℕ) (delivery : Delivery) : Delivery :=
  { eventId := delivery.eventId, attemptNumber := 1, status := .pending,
    scheduledAt := startedAt }

/-- The rows that replay some deliveries, committed. -/
def insertReplays (outbox : Outbox) (startedAt : ℕ) (originals : List Delivery) : Outbox :=
  { outbox with
    deliveries := (originals.map (replayRow startedAt)).foldl Table.insert outbox.deliveries }

/-! ## A batch and its statements -/

/-- The part of a `WEBHOOK_DELIVERY_REPLAY_BATCH` row of the audit log that the
throttles read. -/
structure ReplayAudit where
  ours : Bool
  createdAt : ℕ

/-- How far a `replay_batch` has come, with what its statements read. -/
inductive Stage where
  | locked
  | spaced
  | budgeted
  | impactCounted (atImpactCount : Outbox)
  | prunedCounted (atImpactCount : Outbox) (pruned : ℕ)
  | pendingCounted (atImpactCount : Outbox) (pruned : ℕ) (atPendingCount : Outbox)
  | inserted (atImpactCount : Outbox) (pruned : ℕ) (atPendingCount atInsert : Outbox)

/-- The `replay_batch` that holds the subscription row. -/
structure Batch where
  request : ReplayBatchRequest
  startedAt : ℕ
  pendingCeiling : ℕ
  stage : Stage

/-- A refused replay. -/
inductive Rejection where
  | revokedSubscription
  | deliveryNotFound
  | throttled (secondsUntilRetry : ℤ)
  | globalThrottled (globalCount : ℕ)
  | aboveHardCap (impact : ℕ)
  | wouldExceedPendingCeiling (currentPending impact pendingCeiling : ℕ)

/-- An accepted `replay_batch`: what its statements read, and the outbox before and
after its commit. There is no insert when the impact was zero. -/
structure BatchReplay where
  filter : ReplayBatchFilter
  atImpactCount : Outbox
  pruned : ℕ
  atPendingCount : Outbox
  atInsert : Option Outbox
  before : Outbox
  after : Outbox

/-- An accepted `replay_single`. -/
structure SingleReplay where
  original : Delivery
  before : Outbox
  after : Outbox

/-- What a replay came to. -/
inductive Outcome where
  | rejected (rejection : Rejection)
  | batch (replay : BatchReplay)
  | single (replay : SingleReplay)

def replayedBy (filter : ReplayBatchFilter) : Option Outbox → List Delivery
  | none => []
  | some atInsert => (matching atInsert filter).map Prod.snd

/-- The outbox of the subscription, the batch in progress, the audit rows of the batches
with the newest first, and what the replays came to. -/
structure Console where
  outbox : Outbox
  batch : Option Batch
  auditLog : List ReplayAudit
  outcomes : List Outcome

/-- A replay is refused, and releases what it holds. -/
def refuse (console : Console) (rejection : Rejection) : Console :=
  { console with
    batch := none, outcomes := .rejected rejection :: console.outcomes }

/-- The batch goes on to its next statement. -/
def proceed (console : Console) (batch : Batch) (stage : Stage) : Console :=
  { console with batch := some { batch with stage } }

/-- The batch writes its audit row and commits. -/
def commitBatch (console : Console) (batch : Batch) (atImpactCount : Outbox) (pruned : ℕ)
    (atPendingCount : Outbox) (atInsert : Option Outbox) : Console :=
  let after := insertReplays console.outbox batch.startedAt
    (replayedBy batch.request.filter atInsert)
  { outbox := after
    batch := none
    auditLog := ⟨true, batch.startedAt⟩ :: console.auditLog
    outcomes := .batch ⟨batch.request.filter, atImpactCount, pruned, atPendingCount,
      atInsert, console.outbox, after⟩ :: console.outcomes }

/-- `EXTRACT(EPOCH FROM (NOW() - created_at))::int`. -/
def ageSeconds (startedAt createdAt : ℕ) : ℤ :=
  let elapsed : ℤ := startedAt - createdAt
  elapsed.sign * ((elapsed.natAbs + 500000) / 1000000 : ℕ)

/-- The next statement of `replay_batch`, with the checks up to the one after it. -/
def batchStatement (limits : ReplayLimits) (console : Console) (batch : Batch) : Console :=
  let filter := batch.request.filter
  match batch.stage with
  | .locked =>
      match console.auditLog.find? ReplayAudit.ours with
      | none => proceed console batch .spaced
      | some last =>
          let age := ageSeconds batch.startedAt last.createdAt
          if age < replayBatchThrottle then
            refuse console (.throttled (replayBatchThrottle - age))
          else proceed console batch .spaced
  | .spaced =>
      let globalCount := (console.auditLog.filter fun audit =>
        decide (batch.startedAt < audit.createdAt + seconds limits.globalWindow)).length
      if limits.globalBudget ≤ globalCount then refuse console (.globalThrottled globalCount)
      else proceed console batch .budgeted
  | .budgeted => proceed console batch (.impactCounted console.outbox)
  | .impactCounted atImpactCount =>
      let impact := (matching atImpactCount filter).length
      if limits.hardCap < impact ∧ batch.request.acknowledgeLargeReplay = false then
        refuse console (.aboveHardCap impact)
      else
        proceed console batch
          (.prunedCounted atImpactCount (matchingWithoutEvent console.outbox filter).length)
  | .prunedCounted atImpactCount pruned =>
      let impact := (matching atImpactCount filter).length
      let currentPending := (openDeliveries console.outbox).length
      if batch.pendingCeiling < currentPending + impact then
        refuse console
          (.wouldExceedPendingCeiling currentPending impact batch.pendingCeiling)
      else proceed console batch (.pendingCounted atImpactCount pruned console.outbox)
  | .pendingCounted atImpactCount pruned atPendingCount =>
      if (matching atImpactCount filter).length = 0 then
        commitBatch console batch atImpactCount pruned atPendingCount none
      else
        proceed console batch (.inserted atImpactCount pruned atPendingCount console.outbox)
  | .inserted atImpactCount pruned atPendingCount atInsert =>
      commitBatch console batch atImpactCount pruned atPendingCount (some atInsert)

/-! ## The system -/

/-- The first statement of `replay_batch`, when nobody holds the subscription row. -/
def replayBatch (console : Console) (request : ReplayBatchRequest) (startedAt : ℕ) :
    Option Console :=
  if console.batch.isSome ∨ console.outbox.now < startedAt then none
  else if console.outbox.subscription.status = .revoked then
    some (refuse console .revokedSubscription)
  else
    some { console with
      batch := some
        { request, startedAt, pendingCeiling := console.outbox.subscription.pendingCeiling,
          stage := .locked } }

/-- `replay_single`. Its insert waits for a batch in progress, its checks do not. -/
def replaySingle (console : Console) (deliveryId startedAt : ℕ) : Option Console :=
  match console.outbox.deliveries.get? deliveryId with
  | none =>
      some { console with outcomes := .rejected .deliveryNotFound :: console.outcomes }
  | some original =>
      if console.outbox.subscription.status = .revoked then
        some { console with outcomes := .rejected .revokedSubscription :: console.outcomes }
      else if console.batch.isSome ∨ console.outbox.now < startedAt then none
      else
        let after := insertReplays console.outbox startedAt [original]
        some { console with
          outbox := after
          outcomes := .single ⟨original, console.outbox, after⟩ :: console.outcomes }

/-- The transaction inserts a delivery or updates the subscription row. -/
def waitsForLock (outbox after : Outbox) : Prop :=
  after.deliveries.next ≠ outbox.deliveries.next ∨ after.subscription ≠ outbox.subscription

instance (outbox after : Outbox) : Decidable (waitsForLock outbox after) := by
  unfold waitsForLock
  infer_instance

/-- A step of the outbox or of the dispatcher, a replay, the next statement of the
batch, a batch whose connection is lost, or the batch of another subscription. -/
inductive ConsoleEvent where
  | outbox (event : Event)
  | replaySingle (deliveryId startedAt : ℕ)
  | replayBatch (request : ReplayBatchRequest) (startedAt : ℕ)
  | statement
  | disconnect
  | elsewhere (createdAt : ℕ)

def consoleStep (limits : ReplayLimits) (console : Console) : ConsoleEvent → Option Console
  | .outbox event => do
      let after ← step console.outbox event
      if console.batch.isSome ∧ waitsForLock console.outbox after then none
      else some { console with outbox := after }
  | .replaySingle deliveryId startedAt => replaySingle console deliveryId startedAt
  | .replayBatch request startedAt => replayBatch console request startedAt
  | .statement => console.batch.map (batchStatement limits console)
  | .disconnect => some { console with batch := none }
  | .elsewhere createdAt =>
      some { console with auditLog := ⟨false, createdAt⟩ :: console.auditLog }

/-! ## What a replay may add -/

def pendingOf (outbox : Outbox) (eventId : ℕ) : List (ℕ × Delivery) :=
  outbox.deliveries.select fun delivery =>
    delivery.status == .pending && delivery.eventId == eventId

def WithinCeiling (outbox : Outbox) : Prop :=
  (openDeliveries outbox).length ≤ outbox.subscription.pendingCeiling

/-- No event gets a second pending delivery by one batch, and no accepted replay
exceeds the ceiling. -/
def NeverMultiplies : Outcome → Prop
  | .rejected _ => True
  | .batch replay =>
      (∀ eventId, (pendingOf replay.after eventId).length ≤
        (pendingOf replay.before eventId).length + 1) ∧ WithinCeiling replay.after
  | .single replay => WithinCeiling replay.after

def BatchReplay.replayed (replay : BatchReplay) (eventId : ℕ) : List Delivery :=
  (replayedBy replay.filter replay.atInsert).filter fun delivery =>
    delivery.eventId == eventId

/-- No delivery came to match the filter between the two counts of the batch. -/
def BatchReplay.CountsAgree (replay : BatchReplay) : Prop :=
  (matching replay.atPendingCount replay.filter).length ≤
    (matching replay.atImpactCount replay.filter).length

/-- A replay adds one pending row for each delivery it replays. A batch whose counts
agree keeps to the ceiling, and a single replay does where there is room. -/
def ReplaysEach : Outcome → Prop
  | .rejected _ => True
  | .batch replay =>
      (∀ eventId, (pendingOf replay.after eventId).length =
        (pendingOf replay.before eventId).length + (replay.replayed eventId).length) ∧
      (replay.CountsAgree → WithinCeiling replay.after)
  | .single replay =>
      (∀ eventId, (pendingOf replay.after eventId).length =
        (pendingOf replay.before eventId).length +
          if eventId = replay.original.eventId then 1 else 0) ∧
      ((openDeliveries replay.before).length < replay.before.subscription.pendingCeiling →
        WithinCeiling replay.after)

/-! ## Counting deliveries -/

variable {outbox after : Outbox} {filter : ReplayBatchFilter}

theorem length_select {ρ : Type} (table : Table ρ) (cond : ρ → Bool) :
    ((table.select cond).length : ℤ) = table.total fun _ row => if cond row then 1 else 0 := by
  rw [← table.total_select cond fun _ _ => (1 : ℤ)]
  simp

theorem length_select_foldl_insert {ρ : Type} (cond : ρ → Bool) (rows : List ρ)
    (table : Table ρ) :
    ((rows.foldl Table.insert table).select cond).length =
      (table.select cond).length + (rows.filter cond).length := by
  induction rows generalizing table with
  | nil => rfl
  | cons row rest ih =>
      rw [List.foldl_cons, ih, Table.select_insert, List.length_append, List.filter_cons]
      cases cond row <;> simp [Nat.add_assoc, Nat.add_comm 1]

theorem mem_foldl_insert {ρ : Type} {entry : ℕ × ρ} (rows : List ρ) {table : Table ρ}
    (hentry : entry ∈ (rows.foldl Table.insert table).entries) :
    entry ∈ table.entries ∨ entry.2 ∈ rows := by
  induction rows generalizing table with
  | nil => exact .inl hentry
  | cons row rest ih =>
      rcases ih hentry with hmem | hmem
      · rcases (Table.mem_insert _).mp hmem with hold | rfl
        · exact .inl hold
        · exact .inr List.mem_cons_self
      · exact .inr (List.mem_cons_of_mem row hmem)

theorem mem_foldl_insert_of_mem {ρ : Type} {entry : ℕ × ρ} (rows : List ρ) {table : Table ρ}
    (hentry : entry ∈ table.entries) : entry ∈ (rows.foldl Table.insert table).entries := by
  induction rows generalizing table with
  | nil => exact hentry
  | cons row rest ih => exact ih ((Table.mem_insert _).mpr (.inl hentry))

theorem pendingOf_insertReplays (startedAt : ℕ) (originals : List Delivery) (eventId : ℕ) :
    (pendingOf (insertReplays outbox startedAt originals) eventId).length =
      (pendingOf outbox eventId).length +
        (originals.filter fun delivery => delivery.eventId == eventId).length := by
  rw [pendingOf, insertReplays, length_select_foldl_insert, List.filter_map, List.length_map]
  rfl

theorem openDeliveries_insertReplays (startedAt : ℕ) (originals : List Delivery) :
    (openDeliveries (insertReplays outbox startedAt originals)).length =
      (openDeliveries outbox).length + originals.length := by
  have hall : (originals.filter fun delivery => (replayRow startedAt delivery).nonTerminal) =
      originals := by
    rw [List.filter_eq_self]
    exact fun _ _ => rfl
  rw [openDeliveries, insertReplays, length_select_foldl_insert, List.filter_map,
    List.length_map, Function.comp_def, hall]
  rfl

/-! ## Open and matching deliveries -/

/-- The open deliveries with those that match the filter: a delivery that is finished
goes from the ones to the others at most. -/
def backlog (outbox : Outbox) (filter : ReplayBatchFilter) : ℕ :=
  (openDeliveries outbox).length + (matching outbox filter).length

/-- What a delivery adds to the backlog. -/
def weight (outbox : Outbox) (filter : ReplayBatchFilter) (delivery : Delivery) : ℤ :=
  (if delivery.nonTerminal then 1 else 0) +
    if replayFilterClauses outbox filter delivery then 1 else 0

theorem backlog_eq_total :
    (backlog outbox filter : ℤ) = outbox.deliveries.total fun _ delivery =>
      weight outbox filter delivery := by
  unfold backlog weight
  rw [Table.total_add, ← length_select, ← length_select, Nat.cast_add]
  rfl

variable {delivery : Delivery}

theorem nonTerminal_eq_false_of_matches
    (hmatches : replayFilterClauses outbox filter delivery = true) :
    delivery.nonTerminal = false := by
  simp only [replayFilterClauses, ReplayBatchFilter.deliveryClauses, Bool.and_eq_true,
    beq_iff_eq] at hmatches
  rw [Delivery.nonTerminal, hmatches.1.1.1]
  cases filter.status <;> rfl

theorem weight_of_open (hopen : delivery.nonTerminal = true) :
    weight outbox filter delivery = 1 := by
  have hnot : replayFilterClauses outbox filter delivery ≠ true := fun hmatches => by
    rw [nonTerminal_eq_false_of_matches hmatches] at hopen
    cases hopen
  rw [weight, if_pos hopen, if_neg hnot, add_zero]

theorem weight_le_one (delivery : Delivery) : weight outbox filter delivery ≤ 1 := by
  cases hopen : delivery.nonTerminal with
  | true => exact (weight_of_open hopen).le
  | false =>
      rw [weight, hopen, if_neg Bool.false_ne_true, zero_add]
      split <;> decide

theorem weight_congr (hjoined : joinedEvent after delivery = joinedEvent outbox delivery) :
    weight after filter delivery = weight outbox filter delivery := by
  rw [weight, weight, replayFilterClauses, replayFilterClauses, hjoined]

/-! ## Deliveries of recorded events -/

/-- The event of an id is committed, or its row is gone for good. -/
def RecordedEvent (events : Table OutboxEvent) (eventId : ℕ) : Prop :=
  eventId < events.next ∧
    ∀ event, events.get? eventId = some event → event.visibleAt.isSome = true

/-- Every delivery is of a recorded event, and the running cycle waits for the response
to a delivery in flight. -/
structure Sound (outbox : Outbox) : Prop where
  recorded : ∀ {entry}, entry ∈ outbox.deliveries.entries →
    RecordedEvent outbox.events entry.2.eventId
  awaited : ∀ {deliveryId}, outbox.awaiting = some deliveryId →
    ∃ delivery, (deliveryId, delivery) ∈ outbox.deliveries.entries ∧
      delivery.status = .inFlight

/-- The events of one table that are visible are found in the other. -/
structure KeepsRecorded (events events' : Table OutboxEvent) : Prop where
  next : events.next ≤ events'.next
  found : ∀ {eventId}, RecordedEvent events eventId →
    events'.get? eventId = events.get? eventId

theorem KeepsRecorded.recordedEvent {events events' : Table OutboxEvent}
    (hkeeps : KeepsRecorded events events') {eventId : ℕ}
    (hrecorded : RecordedEvent events eventId) : RecordedEvent events' eventId := by
  refine ⟨hrecorded.1.trans_le hkeeps.next, ?_⟩
  rw [hkeeps.found hrecorded]
  exact hrecorded.2

theorem KeepsRecorded.refl (events : Table OutboxEvent) : KeepsRecorded events events :=
  ⟨le_rfl, fun _ => rfl⟩

theorem insertEvent_keepsRecorded (outbox : Outbox) (txn : ℕ) (eventType : String)
    (warehouseId : ℕ) (aggregateExternalId : String) :
    KeepsRecorded outbox.events
      (insertEvent outbox txn eventType warehouseId aggregateExternalId).events := by
  constructor
  · exact Nat.le_succ _
  · intro eventId hrecorded
    exact Table.get?_insert_of_ne _ (Nat.ne_of_lt hrecorded.1) _

theorem commit_keepsRecorded (outbox : Outbox) (txn : ℕ) :
    KeepsRecorded outbox.events (commit outbox txn).events := by
  constructor
  · exact le_rfl
  · intro eventId hrecorded
    rw [commit, Table.updateWhere, Table.get?_mapRows]
    cases hget : outbox.events.get? eventId with
    | none => rfl
    | some event =>
        have hvisible : event.visibleAt.isNone = false :=
          Option.isNone_eq_false_iff.mpr (hrecorded.2 event hget)
        rw [Option.map_some, hvisible, Bool.and_false, if_neg Bool.false_ne_true]

theorem rollback_keepsRecorded (outbox : Outbox) (txn : ℕ) :
    KeepsRecorded outbox.events (rollback outbox txn).events := by
  constructor
  · exact le_rfl
  · intro eventId hrecorded
    apply Option.ext
    intro event
    rw [rollback, Table.get?_eq_some, Table.get?_eq_some, Table.mem_deleteWhere]
    constructor
    · exact And.left
    · intro hmem
      have hvisible := hrecorded.2 event ((Table.get?_eq_some _).mpr hmem)
      refine ⟨hmem, ?_⟩
      simp [Option.isNone_eq_false_iff.mpr hvisible]

/-! ## Cycles of the dispatcher -/

/-- How a transaction of the dispatcher changes the deliveries: it changes an open one,
or inserts one. -/
inductive Cycles (outbox after : Outbox) : Prop where
  | same (hdeliveries : after.deliveries = outbox.deliveries)
  | change (deliveryId : ℕ) (delivery : Delivery) (change : Delivery → Delivery)
      (hmem : (deliveryId, delivery) ∈ outbox.deliveries.entries)
      (hopen : delivery.nonTerminal = true)
      (hdeliveries : after.deliveries = outbox.deliveries.modify deliveryId change)
      (hevent : ∀ row, (change row).eventId = row.eventId)
  | insert (hnext : after.deliveries.next = outbox.deliveries.next + 1)
      (hrecorded : ∀ entry ∈ after.deliveries.entries,
        RecordedEvent outbox.events entry.2.eventId)

/-- What a step of the outbox or of the dispatcher does. -/
structure Advances (outbox after : Outbox) : Prop where
  events : KeepsRecorded outbox.events after.events
  cycles : Cycles outbox after
  awaited : ∀ {deliveryId}, after.awaiting = some deliveryId →
    ∃ delivery, (deliveryId, delivery) ∈ after.deliveries.entries ∧
      delivery.status = .inFlight

variable {deliveryId : ℕ}

theorem recorded_modify (hsound : Sound outbox) {change : Delivery → Delivery}
    {entry : ℕ × Delivery}
    (hentry : entry ∈ (outbox.deliveries.modify deliveryId change).entries)
    (hevent : ∀ row, (change row).eventId = row.eventId) :
    RecordedEvent outbox.events entry.2.eventId := by
  obtain ⟨key, row⟩ := entry
  obtain ⟨before, hbefore, rfl⟩ := (Table.mem_modify _).mp hentry
  have hrecorded := hsound.recorded hbefore
  split
  · rwa [hevent]
  · exact hrecorded

theorem Advances.sound (hadvances : Advances outbox after) (hsound : Sound outbox) :
    Sound after := by
  constructor
  · intro entry hentry
    apply hadvances.events.recordedEvent
    cases hadvances.cycles with
    | same hdeliveries =>
        rw [hdeliveries] at hentry
        exact hsound.recorded hentry
    | change deliveryId delivery change hmem hopen hdeliveries hevent =>
        rw [hdeliveries] at hentry
        exact recorded_modify hsound hentry hevent
    | insert hnext hrecorded => exact hrecorded entry hentry
  · exact hadvances.awaited

theorem Advances.total_le (hadvances : Advances outbox after)
    (hnext : after.deliveries.next = outbox.deliveries.next) {value : Delivery → ℤ}
    (hopenValue : ∀ {delivery}, delivery.nonTerminal = true → value delivery = 1)
    (hvalue : ∀ delivery, value delivery ≤ 1) :
    (after.deliveries.total fun _ delivery => value delivery) ≤
      outbox.deliveries.total fun _ delivery => value delivery := by
  cases hadvances.cycles with
  | same hdeliveries => rw [hdeliveries]
  | change deliveryId delivery change hmem hopen hdeliveries hevent =>
      have hold : value delivery = 1 := hopenValue hopen
      have hnew : value (change delivery) ≤ 1 := hvalue _
      rw [hdeliveries, outbox.deliveries.total_modify hmem change fun _ delivery =>
        value delivery]
      omega
  | insert hinserted _ => omega

theorem Advances.open_le (hadvances : Advances outbox after)
    (hnext : after.deliveries.next = outbox.deliveries.next) :
    (openDeliveries after).length ≤ (openDeliveries outbox).length := by
  rw [← Int.ofNat_le, openDeliveries, openDeliveries, length_select, length_select]
  apply hadvances.total_le hnext
  · intro delivery hopen
    exact if_pos hopen
  · intro delivery
    split <;> decide

theorem Advances.backlog_le (hadvances : Advances outbox after) (hsound : Sound outbox)
    (hnext : after.deliveries.next = outbox.deliveries.next) :
    backlog after filter ≤ backlog outbox filter := by
  have hweight : (outbox.deliveries.total fun _ delivery => weight after filter delivery) =
      outbox.deliveries.total fun _ delivery => weight outbox filter delivery := by
    apply outbox.deliveries.total_congr
    intro key delivery hmem
    apply weight_congr
    rw [joinedEvent, joinedEvent, hadvances.events.found (hsound.recorded hmem)]
  rw [← Int.ofNat_le, backlog_eq_total, backlog_eq_total, ← hweight]
  exact hadvances.total_le hnext weight_of_open weight_le_one

theorem markInFlight_deliveries (outbox : Outbox) (deliveryId : ℕ) :
    (markInFlight outbox deliveryId).deliveries =
      outbox.deliveries.modify deliveryId fun delivery =>
        { delivery with status := .inFlight, attemptedAt := some outbox.now } := rfl

theorem markInFlight_awaited (hmem : (deliveryId, delivery) ∈ outbox.deliveries.entries)
    {deliveryId' : ℕ}
    (hawaiting : (markInFlight outbox deliveryId).awaiting = some deliveryId') :
    ∃ delivery, (deliveryId', delivery) ∈ (markInFlight outbox deliveryId).deliveries.entries ∧
      delivery.status = .inFlight := by
  obtain rfl : deliveryId = deliveryId' := Option.some.inj hawaiting
  exact ⟨_, (Table.mem_modify _).mpr ⟨delivery, hmem, if_pos rfl⟩, rfl⟩

theorem beginDelivery_advances (hsound : Sound outbox) (hawaiting : outbox.awaiting = none) :
    Advances outbox (beginDelivery outbox) := by
  have hidle : Advances outbox outbox :=
    ⟨KeepsRecorded.refl _, .same rfl, hsound.awaited⟩
  unfold beginDelivery
  split
  · exact hidle
  split
  next deliveryId delivery hpending =>
    obtain ⟨hmem, hopen⟩ := selectNextPending_spec hpending
    exact ⟨KeepsRecorded.refl _,
      .change deliveryId delivery _ hmem hopen
        (markInFlight_deliveries outbox deliveryId) fun _ => rfl,
      markInFlight_awaited hmem⟩
  split
  · exact hidle
  split
  · refine ⟨KeepsRecorded.refl _, .same rfl, ?_⟩
    exact hsound.awaited
  split
  · exact hidle
  next eventId event hfresh =>
    obtain ⟨hmem, -, hmatured, -⟩ := selectNextFreshEvent_spec hfresh
    let first : Delivery :=
      { eventId, attemptNumber := 1, status := .pending, scheduledAt := outbox.now }
    let opened : Outbox := { outbox with deliveries := outbox.deliveries.insert first }
    have hvisible : event.visibleAt.isSome = true := by
      cases hnull : event.visibleAt with
      | none => simp [matured, hnull] at hmatured
      | some visibleAt => rfl
    have hrecorded : RecordedEvent outbox.events eventId := by
      refine ⟨Table.lt_next_of_mem _ hmem, ?_⟩
      rw [(Table.get?_eq_some _).mpr hmem]
      rintro _ ⟨⟩
      exact hvisible
    have hopened : Sound opened := by
      constructor
      · intro entry hentry
        rcases (Table.mem_insert _).mp hentry with hold | rfl
        · exact hsound.recorded hold
        · exact hrecorded
      · intro deliveryId hawaiting'
        rw [show opened.awaiting = outbox.awaiting from rfl, hawaiting] at hawaiting'
        cases hawaiting'
    have hfirst : (outbox.deliveries.next, first) ∈ opened.deliveries.entries :=
      (Table.mem_insert _).mpr (.inr rfl)
    refine ⟨KeepsRecorded.refl _, .insert rfl fun entry hentry => ?_,
      markInFlight_awaited hfirst⟩
    rw [markInFlight_deliveries] at hentry
    exact recorded_modify hopened hentry fun _ => rfl

theorem complete_deliveries (outbox : Outbox) (deliveryId : ℕ) (status : DeliveryStatus)
    (httpStatus : Option ℕ) (errorKind : Option String) :
    (complete outbox deliveryId status httpStatus errorKind).deliveries =
      outbox.deliveries.modify deliveryId fun delivery =>
        { delivery with
          status, httpStatus, errorKind, completedAt := some outbox.now } := rfl

/-- The second transaction of a cycle writes the result to the delivery in flight and
may schedule its event again. -/
theorem settleDelivery_advances (hsound : Sound outbox) {response : HttpResponse}
    {delay : ℕ} (hsettle : settleDelivery outbox response delay = some after) :
    Advances outbox after := by
  obtain ⟨deliveryId, hawaiting, hsettle⟩ := Option.bind_eq_some_iff.mp hsettle
  obtain ⟨delivery, hget, hsettle⟩ := Option.bind_eq_some_iff.mp hsettle
  obtain ⟨delivery', hmem, hinFlight⟩ := hsound.awaited hawaiting
  obtain rfl : delivery' = delivery :=
    outbox.deliveries.row_unique hmem ((Table.get?_eq_some _).mp hget)
  have hopen : delivery'.nonTerminal = true := by
    rw [Delivery.nonTerminal, hinFlight]
    rfl
  -- A settled row, and nobody waits any more.
  have hdone : ∀ {settled : Outbox} (status : DeliveryStatus) (httpStatus : Option ℕ)
      (errorKind : Option String), settled.events = outbox.events →
      settled.awaiting = none →
      settled.deliveries = (complete outbox deliveryId status httpStatus errorKind).deliveries →
      Advances outbox settled := by
    intro settled status httpStatus errorKind hevents hnone hdeliveries
    refine ⟨?_, .change deliveryId delivery' _ hmem hopen
      (hdeliveries.trans (complete_deliveries _ _ _ _ _)) fun _ => rfl, ?_⟩
    · rw [hevents]
      exact KeepsRecorded.refl _
    · rw [hnone]
      rintro _ ⟨⟩
  split at hsettle
  · cases hsettle
    exact hdone _ _ _ rfl rfl rfl
  split at hsettle
  · cases hsettle
    exact hdone _ _ _ rfl rfl rfl
  rw [settleFailure] at hsettle
  split at hsettle
  · cases hsettle
    exact hdone _ _ _ (maybeAutoPause_events _ _) (maybeAutoPause_awaiting _ _)
      (maybeAutoPause_deliveries _ _)
  split at hsettle
  · cases hsettle
    refine ⟨?_, .insert ?_ ?_, ?_⟩
    · rw [maybeAutoPause_events]
      exact KeepsRecorded.refl _
    · rw [maybeAutoPause_deliveries]
      rfl
    · rw [maybeAutoPause_deliveries]
      intro entry hentry
      rcases (Table.mem_insert _).mp hentry with hold | rfl
      · exact recorded_modify hsound hold fun _ => rfl
      · have hrecorded := hsound.recorded hmem
        exact hrecorded
    · rw [maybeAutoPause_awaiting]
      rintro _ ⟨⟩
  · cases hsettle

theorem step_advances (hsound : Sound outbox) {event : Event}
    (hstep : step outbox event = some after) : Advances outbox after := by
  cases event with
  | insert txn eventType warehouseId aggregateExternalId =>
      cases hstep
      exact ⟨insertEvent_keepsRecorded outbox txn eventType warehouseId aggregateExternalId,
        .same rfl, hsound.awaited⟩
  | commit txn =>
      cases hstep
      exact ⟨commit_keepsRecorded outbox txn, .same rfl, hsound.awaited⟩
  | rollback txn =>
      cases hstep
      exact ⟨rollback_keepsRecorded outbox txn, .same rfl, hsound.awaited⟩
  | tick elapsed =>
      cases hstep
      exact ⟨KeepsRecorded.refl _, .same rfl, hsound.awaited⟩
  | beginDelivery =>
      rw [step] at hstep
      split at hstep
      next hnone =>
        cases hstep
        exact beginDelivery_advances hsound (Option.isNone_iff_eq_none.mp hnone)
      · cases hstep
  | settleDelivery response delay => exact settleDelivery_advances hsound hstep

/-! ## The console -/

def Checked (batch : Batch) (atImpactCount atPendingCount : Outbox) : Prop :=
  (openDeliveries atPendingCount).length +
    (matching atImpactCount batch.request.filter).length ≤ batch.pendingCeiling

/-- What holds of a batch from its check on: what is open, with what it is going to add,
is no more than the backlog at its second count. -/
def StageHolds (outbox : Outbox) (batch : Batch) : Stage → Prop
  | .pendingCounted atImpactCount _ atPendingCount =>
      Checked batch atImpactCount atPendingCount ∧
        backlog outbox batch.request.filter ≤ backlog atPendingCount batch.request.filter
  | .inserted atImpactCount _ atPendingCount atInsert =>
      Checked batch atImpactCount atPendingCount ∧
        (openDeliveries outbox).length + (matching atInsert batch.request.filter).length ≤
          backlog atPendingCount batch.request.filter ∧
        ∀ entry ∈ matching atInsert batch.request.filter,
          RecordedEvent outbox.events entry.2.eventId
  | _ => True

structure Guarded (console : Console) : Prop where
  sound : Sound console.outbox
  ceiling : ∀ {batch}, console.batch = some batch →
    batch.pendingCeiling = console.outbox.subscription.pendingCeiling
  stage : ∀ {batch}, console.batch = some batch →
    StageHolds console.outbox batch batch.stage
  outcomes : ∀ outcome ∈ console.outcomes, ReplaysEach outcome

variable {console : Console} {batch : Batch}

theorem insertReplays_sound (hsound : Sound outbox) (startedAt : ℕ)
    {originals : List Delivery}
    (hrecorded : ∀ original ∈ originals, RecordedEvent outbox.events original.eventId) :
    Sound (insertReplays outbox startedAt originals) := by
  constructor
  · intro entry hentry
    rcases mem_foldl_insert _ hentry with hold | hnew
    · exact hsound.recorded hold
    · obtain ⟨original, horiginal, hrow⟩ := List.mem_map.mp hnew
      rw [← hrow]
      exact hrecorded original horiginal
  · intro deliveryId hawaiting
    obtain ⟨delivery, hmem, hinFlight⟩ := hsound.awaited hawaiting
    exact ⟨delivery, mem_foldl_insert_of_mem _ hmem, hinFlight⟩

theorem StageHolds.advance (hadvances : Advances outbox after) (hsound : Sound outbox)
    (hnext : after.deliveries.next = outbox.deliveries.next) {stage : Stage}
    (hstage : StageHolds outbox batch stage) : StageHolds after batch stage := by
  cases stage with
  | pendingCounted atImpactCount pruned atPendingCount =>
      exact ⟨hstage.1, (hadvances.backlog_le hsound hnext).trans hstage.2⟩
  | inserted atImpactCount pruned atPendingCount atInsert =>
      obtain ⟨hchecked, hadds, hrecorded⟩ := hstage
      refine ⟨hchecked, ?_, fun entry hentry =>
        hadvances.events.recordedEvent (hrecorded entry hentry)⟩
      exact (Nat.add_le_add_right (hadvances.open_le hnext) _).trans hadds
  | _ => trivial

theorem outbox_guarded (hguarded : Guarded console) {event : Event}
    (hstep : step console.outbox event = some after)
    (hlock : ¬ (console.batch.isSome ∧ waitsForLock console.outbox after)) :
    Guarded { console with outbox := after } := by
  have hadvances := step_advances hguarded.sound hstep
  have hheld : ∀ {batch}, console.batch = some batch →
      after.deliveries.next = console.outbox.deliveries.next ∧
        after.subscription = console.outbox.subscription := by
    intro batch hbatch
    rw [hbatch, Option.isSome_some] at hlock
    simpa [waitsForLock] using hlock
  constructor
  · exact hadvances.sound hguarded.sound
  · intro batch hbatch
    rw [(hheld hbatch).2]
    exact hguarded.ceiling hbatch
  · intro batch hbatch
    exact (hguarded.stage hbatch).advance hadvances hguarded.sound (hheld hbatch).1
  · exact hguarded.outcomes

variable {next : Console}

theorem Guarded.release (hguarded : Guarded console) (houtbox : next.outbox = console.outbox)
    (hbatch : next.batch = none)
    (houtcomes : ∀ outcome ∈ next.outcomes, ReplaysEach outcome) : Guarded next := by
  constructor
  · rw [houtbox]
    exact hguarded.sound
  · rw [hbatch]
    rintro _ ⟨⟩
  · rw [hbatch]
    rintro _ ⟨⟩
  · exact houtcomes

theorem refuse_guarded (hguarded : Guarded console) (rejection : Rejection) :
    Guarded (refuse console rejection) := by
  apply hguarded.release
  · rfl
  · rfl
  · intro outcome houtcome
    rcases List.mem_cons.mp houtcome with rfl | hold
    · trivial
    · exact hguarded.outcomes outcome hold

theorem proceed_guarded (hguarded : Guarded console) (hbatch : console.batch = some batch)
    {stage : Stage} (hstage : StageHolds console.outbox batch stage) :
    Guarded (proceed console batch stage) := by
  constructor
  · exact hguarded.sound
  · rintro _ ⟨⟩
    have hceiling := hguarded.ceiling hbatch
    exact hceiling
  · rintro _ ⟨⟩
    cases stage <;> exact hstage
  · exact hguarded.outcomes

theorem commitBatch_guarded (hguarded : Guarded console) (hbatch : console.batch = some batch)
    {atImpactCount atPendingCount : Outbox} {atInsert : Option Outbox} (pruned : ℕ)
    (hchecked : Checked batch atImpactCount atPendingCount)
    (hadds : (openDeliveries console.outbox).length +
        (replayedBy batch.request.filter atInsert).length ≤
      backlog atPendingCount batch.request.filter)
    (hrecorded : ∀ original ∈ replayedBy batch.request.filter atInsert,
      RecordedEvent console.outbox.events original.eventId) :
    Guarded (commitBatch console batch atImpactCount pruned atPendingCount atInsert) := by
  constructor
  · exact insertReplays_sound hguarded.sound _ hrecorded
  · rintro _ ⟨⟩
  · rintro _ ⟨⟩
  · intro outcome houtcome
    rcases List.mem_cons.mp houtcome with rfl | hold
    · constructor
      · intro eventId
        exact pendingOf_insertReplays _ _ eventId
      · intro hagree
        have hagree' : (matching atPendingCount batch.request.filter).length ≤
            (matching atImpactCount batch.request.filter).length := hagree
        have hceiling := hguarded.ceiling hbatch
        change (openDeliveries (insertReplays console.outbox batch.startedAt
          (replayedBy batch.request.filter atInsert))).length ≤
            console.outbox.subscription.pendingCeiling
        rw [openDeliveries_insertReplays]
        unfold Checked at hchecked
        unfold backlog at hadds
        omega
    · exact hguarded.outcomes outcome hold

theorem batchStatement_guarded (limits : ReplayLimits) (hguarded : Guarded console)
    (hbatch : console.batch = some batch) :
    Guarded (batchStatement limits console batch) := by
  have hstage := hguarded.stage hbatch
  unfold batchStatement
  cases hcase : batch.stage with
  | locked =>
      dsimp only
      split
      · exact proceed_guarded hguarded hbatch trivial
      · split
        · exact refuse_guarded hguarded _
        · exact proceed_guarded hguarded hbatch trivial
  | spaced =>
      dsimp only
      split
      · exact refuse_guarded hguarded _
      · exact proceed_guarded hguarded hbatch trivial
  | budgeted => exact proceed_guarded hguarded hbatch trivial
  | impactCounted atImpactCount =>
      dsimp only
      split
      · exact refuse_guarded hguarded _
      · exact proceed_guarded hguarded hbatch trivial
  | prunedCounted atImpactCount pruned =>
      dsimp only
      split
      · exact refuse_guarded hguarded _
      next hfits => exact proceed_guarded hguarded hbatch ⟨Nat.le_of_not_lt hfits, le_rfl⟩
  | pendingCounted atImpactCount pruned atPendingCount =>
      rw [hcase] at hstage
      obtain ⟨hchecked, hbacklog⟩ := hstage
      dsimp only
      split
      · refine commitBatch_guarded hguarded hbatch pruned hchecked ?_ (by simp [replayedBy])
        exact (Nat.le_add_right _ _).trans hbacklog
      · refine proceed_guarded hguarded hbatch ⟨hchecked, hbacklog, ?_⟩
        intro entry hentry
        exact hguarded.sound.recorded ((Table.mem_select _).mp hentry).1
  | inserted atImpactCount pruned atPendingCount atInsert =>
      rw [hcase] at hstage
      obtain ⟨hchecked, hadds, hrecorded⟩ := hstage
      apply commitBatch_guarded hguarded hbatch pruned hchecked
      · rw [replayedBy, List.length_map]
        exact hadds
      · intro original horiginal
        obtain ⟨entry, hentry, rfl⟩ := List.mem_map.mp horiginal
        exact hrecorded entry hentry

theorem replayBatch_guarded (hguarded : Guarded console) {request : ReplayBatchRequest}
    {startedAt : ℕ}
    (hstep : replayBatch console request startedAt = some next) : Guarded next := by
  unfold replayBatch at hstep
  split at hstep
  · cases hstep
  split at hstep
  · cases hstep
    exact refuse_guarded hguarded _
  · cases hstep
    constructor
    · exact hguarded.sound
    · rintro _ ⟨⟩
      rfl
    · rintro _ ⟨⟩
      trivial
    · exact hguarded.outcomes

theorem replaySingle_guarded (hguarded : Guarded console) {startedAt : ℕ}
    (hstep : replaySingle console deliveryId startedAt = some next) :
    Guarded next := by
  have hrejected : ∀ rejection,
      Guarded { console with outcomes := .rejected rejection :: console.outcomes } := by
    intro rejection
    refine ⟨hguarded.sound, hguarded.ceiling, hguarded.stage, ?_⟩
    intro outcome houtcome
    rcases List.mem_cons.mp houtcome with rfl | hold
    · trivial
    · exact hguarded.outcomes outcome hold
  unfold replaySingle at hstep
  split at hstep
  · cases hstep
    exact hrejected _
  next original hget =>
    split at hstep
    · cases hstep
      exact hrejected _
    split at hstep
    · cases hstep
    next hfree =>
      cases hstep
      have hnone : console.batch = none := by
        rw [← Option.not_isSome_iff_eq_none]
        exact fun hbatch => hfree (.inl hbatch)
      have hrecorded := hguarded.sound.recorded ((Table.get?_eq_some _).mp hget)
      constructor
      · apply insertReplays_sound hguarded.sound
        intro original' horiginal
        rw [List.mem_singleton.mp horiginal]
        exact hrecorded
      · rw [hnone]
        rintro _ ⟨⟩
      · rw [hnone]
        rintro _ ⟨⟩
      · intro outcome houtcome
        rcases List.mem_cons.mp houtcome with rfl | hold
        · constructor
          · intro eventId
            rw [pendingOf_insertReplays, List.filter_singleton]
            by_cases hevent : eventId = original.eventId
            · simp [hevent]
            · have hother : (original.eventId == eventId) = false :=
                beq_eq_false_iff_ne.mpr (Ne.symm hevent)
              rw [hother, if_neg hevent]
              rfl
          · intro hroom
            rw [WithinCeiling, openDeliveries_insertReplays]
            exact hroom
        · exact hguarded.outcomes outcome hold

theorem consoleStep_guarded (limits : ReplayLimits) (hguarded : Guarded console)
    {event : ConsoleEvent}
    (hstep : consoleStep limits console event = some next) : Guarded next := by
  cases event with
  | outbox event =>
      obtain ⟨after, hstep', hnext⟩ := Option.bind_eq_some_iff.mp hstep
      split at hnext
      · cases hnext
      next hlock =>
        cases hnext
        exact outbox_guarded hguarded hstep' hlock
  | replaySingle deliveryId startedAt => exact replaySingle_guarded hguarded hstep
  | replayBatch request startedAt => exact replayBatch_guarded hguarded hstep
  | statement =>
      obtain ⟨batch, hbatch, hnext⟩ := Option.map_eq_some_iff.mp hstep
      rw [← hnext]
      exact batchStatement_guarded limits hguarded hbatch
  | disconnect =>
      cases hstep
      apply hguarded.release
      · rfl
      · rfl
      · exact hguarded.outcomes
  | elsewhere createdAt =>
      cases hstep
      exact ⟨hguarded.sound, hguarded.ceiling, hguarded.stage, hguarded.outcomes⟩

/-! ## Runs -/

/-- No replay has been made yet, and nobody waits for a response. -/
structure Resting (console : Console) : Prop where
  recorded : ∀ entry ∈ console.outbox.deliveries.entries,
    RecordedEvent console.outbox.events entry.2.eventId
  idle : console.outbox.awaiting = none
  unlocked : console.batch = none
  unused : console.outcomes = []

theorem Resting.guarded (hresting : Resting console) : Guarded console := by
  constructor
  · constructor
    · exact fun hentry => hresting.recorded _ hentry
    · rw [hresting.idle]
      rintro _ ⟨⟩
  · rw [hresting.unlocked]
    rintro _ ⟨⟩
  · rw [hresting.unlocked]
    rintro _ ⟨⟩
  · rw [hresting.unused]
    rintro _ ⟨⟩

/-- Whatever the dispatcher does between the statements of the batches, a replay adds one
pending row for each delivery it replays, and an accepted batch whose counts agree leaves
no more open deliveries than the ceiling allows. -/
theorem replaysEach_of_run {limits : ReplayLimits} {first last : Console}
    {events : List ConsoleEvent} (hresting : Resting first)
    (hrun : Run (consoleStep limits) (fun _ _ => True) first events last) :
    ∀ outcome ∈ last.outcomes, ReplaysEach outcome :=
  (hrun.invariant Guarded (fun hguarded _ hstep => consoleStep_guarded limits hguarded hstep)
    hresting.guarded).outcomes

/-- The console of an outbox without events. -/
def freshConsole : Console where
  outbox := fresh
  batch := none
  auditLog := []
  outcomes := []

def failedTwiceRun : List ConsoleEvent :=
  [.outbox (.insert 1 "ship.confirmed" 1 "a"), .outbox (.commit 1),
    .outbox (.tick (seconds 2)), .outbox .beginDelivery,
    .outbox (.settleDelivery ⟨some 503, none⟩ 4), .outbox (.tick (seconds 4)),
    .outbox .beginDelivery, .outbox (.settleDelivery ⟨some 503, none⟩ 15),
    .replayBatch ⟨{ status := .failed }, false⟩ 0, .statement, .statement, .statement,
    .statement, .statement, .statement, .statement]

def failedTwiceEnd : Console :=
  (execute (consoleStep {}) (fun _ _ => True) freshConsole failedTwiceRun).getD freshConsole

theorem freshConsole_resting : Resting freshConsole := by
  constructor
  · rintro _ ⟨⟩
  · rfl
  · rfl
  · rfl

theorem failedTwice_run :
    Run (consoleStep {}) (fun _ _ => True) freshConsole failedTwiceRun failedTwiceEnd :=
  Run.ofExecute rfl

theorem replaysEach_failedTwiceEnd :
    failedTwiceEnd.outcomes.length = 1 ∧
      ∀ outcome ∈ failedTwiceEnd.outcomes, ReplaysEach outcome := by
  have hresting : Resting freshConsole := freshConsole_resting
  have hrun : Run (consoleStep {}) (fun _ _ => True) freshConsole failedTwiceRun
      failedTwiceEnd := failedTwice_run
  exact ⟨rfl, replaysEach_of_run hresting hrun⟩

/-- The event has two failed deliveries, so a batch over them gives it two pending ones
more. -/
theorem batch_multiplies_failed_deliveries :
    ∃ last outcome, Resting freshConsole ∧
      Run (consoleStep {}) (fun _ _ => True) freshConsole failedTwiceRun last ∧
      outcome ∈ last.outcomes ∧ ¬ NeverMultiplies outcome := by
  have hsome : failedTwiceEnd.outcomes ≠ [] := by
    intro hnone
    have hlength : failedTwiceEnd.outcomes.length = 1 := rfl
    rw [hnone] at hlength
    cases hlength
  refine ⟨failedTwiceEnd, failedTwiceEnd.outcomes.head hsome, freshConsole_resting,
    failedTwice_run, List.head_mem hsome, ?_⟩
  intro hnever
  have htwice := hnever.1 1
  revert htwice
  decide

end SentryWms.Webhook
