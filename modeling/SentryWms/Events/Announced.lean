import SentryWms.Events.Announcing

/-!
# Every announced change has its event

A request that commits a change it announces has appended the event of the change in the
same transaction, or has found one with the same order, type and request id. The insert
ignores a conflict, so two changes share an event exactly if they agree in these three:
what is deduplicated is the request id that the clients choose, not the change.
-/

namespace SentryWms.Outbox

open Relational ReadCommitted Interleaving Transition Counting
open Dockd (DockdRequest DockdRefusal FulfillmentColumns)

/-! ## The property -/

def Reply.requested : Reply → Option RequestedChange
  | .done requested => some requested
  | _ => none

def committedChanges (replies : List Reply) : List RequestedChange :=
  replies.filterMap Reply.requested

def announcedChanges (replies : List Reply) : List RequestedChange :=
  (committedChanges replies).filter fun requested => requested.change.announced

def TellsOf (db : Database) (requested : RequestedChange) (eventId : ℕ) : Prop :=
  Committed Event.key db.events requested.key eventId

def OwnEvents (db : Database) (changes : List RequestedChange) : Prop :=
  ∃ eventIds : List ℕ, eventIds.Nodup ∧ List.Forall₂ (TellsOf db) changes eventIds

/-- Every announced change has one event, which it shares exactly with the changes of the
same order, type and request id; so where these differ, each has its own. Every event was
there before or tells of an announced change. -/
structure Announced (initial db : Database) (replies : List Reply) : Prop where
  event : ∀ requested ∈ announcedChanges replies, ∃! eventId, TellsOf db requested eventId
  shared : ∀ left ∈ announcedChanges replies, ∀ right ∈ announcedChanges replies,
    (∃ eventId, TellsOf db left eventId ∧ TellsOf db right eventId) ↔ left.key = right.key
  own : ((announcedChanges replies).map RequestedChange.key).Nodup →
    OwnEvents db (announcedChanges replies)
  told : ∀ wanted eventId, Committed Event.key db.events wanted eventId →
    (∃ eventId', Committed Event.key initial.events wanted eventId') ∨
      ∃ requested ∈ announcedChanges replies, requested.key = wanted

/-! ## Where a session stands -/

def announcedKeys (replies : List Reply) : List EventKey :=
  (announcedChanges replies).map RequestedChange.key

def appendedKeys (db : Database) (txn : ℕ) : List EventKey :=
  (writtenBy db.events txn).map fun row => row.1.key

/-- From where a session stands, its program commits exactly the events of the change that
it announces, or finds them committed. -/
def Safe (self known : List EventKey) : OutboxProgram → Prop
  | .reply true value => self ⊆ announcedKeys [value] ∧ announcedKeys [value] ⊆ self ++ known
  | .reply false value => value.requested = none
  | .exec (.table _) next => ∀ answer, Safe self known (next answer)
  | .exec (.emitEvent event) next =>
      self = [] ∧ (∀ eventId, Safe [event.key] known (next (some eventId))) ∧
        Safe self (event.key :: known) (next none)

/-- A session that has the event of a key, its own or a committed one. -/
def Announces (key : EventKey) (program : OutboxProgram) : Prop :=
  ∀ self known, self ⊆ [key] → key ∈ self ++ known → Safe self known program

structure EventsTold (initial : List EventKey) (db : Database) (replies : List Reply) :
    Prop where
  unique : Unique Event.key db.events
  inserted : InsertOnly db.events
  present : announcedKeys replies ⊆ committedKeys Event.key db.events
  told : ∀ key ∈ committedKeys Event.key db.events,
    key ∈ initial ∨ key ∈ announcedKeys replies

def Owns (db : Database) (txn : ℕ) (program : OutboxProgram) : Prop :=
  ∃ known, known ⊆ committedKeys Event.key db.events ∧ Safe (appendedKeys db txn) known program

/-- A transaction that has not begun. -/
def Idle (db : Database) (txn : ℕ) : Prop :=
  appendedKeys db txn = []

/-! ## Every request is safe -/

section Programs

variable {known : List EventKey} {key : EventKey} {sourceTxnId : String}

theorem refuse_safe (self known : List EventKey) (refusal : Refusal) :
    Safe self known (refuse refusal) := rfl

theorem announcedKeys_done (change : Change) (sourceTxnId : String) :
    announcedKeys [.done ⟨change, sourceTxnId⟩] =
      if change.announced then [RequestedChange.key ⟨change, sourceTxnId⟩] else [] := by
  cases hannounced : change.announced <;>
    simp [announcedKeys, announcedChanges, committedChanges, Reply.requested, hannounced]

variable {change : Change}

theorem commit_announces (hannounced : change.announced = true)
    (hchange : RequestedChange.key ⟨change, sourceTxnId⟩ = key) :
    Announces key (commit change sourceTxnId) := by
  intro self known hself hkey
  rw [← hchange] at hself hkey
  refine ⟨?_, ?_⟩
  · rw [announcedKeys_done, if_pos hannounced]
    exact hself
  · rw [announcedKeys_done, if_pos hannounced]
    exact List.cons_subset.mpr ⟨hkey, List.nil_subset _⟩

theorem commit_silent (hsilent : change.announced = false)
    (sourceTxnId : String) : Safe [] known (commit change sourceTxnId) := by
  refine ⟨List.nil_subset _, ?_⟩
  rw [announcedKeys_done, hsilent]
  exact List.nil_subset _

theorem query_announces {statement : Query} {next : statement.Answer → OutboxProgram}
    (hnext : ∀ answer, Announces key (next answer)) : Announces key (query statement next) :=
  fun self known hself hkey answer => hnext answer self known hself hkey

theorem emitEvent_safe {event : Event} {next : OutboxProgram}
    (hnext : Announces event.key next) : Safe [] known (emitEvent event next) := by
  refine ⟨rfl, ?_, ?_⟩
  · intro eventId
    exact hnext _ _ (List.Subset.refl _) List.mem_cons_self
  · exact hnext _ _ (List.nil_subset _) List.mem_cons_self

theorem completePacking_safe (soId : ℕ) (warehouseIds : List ℕ) :
    Safe [] known (completePacking soId warehouseIds sourceTxnId) := by
  intro found
  cases found with
  | none => exact refuse_safe _ _ _
  | some order =>
      obtain ⟨-, columns, state⟩ := order
      dsimp only
      split
      · exact refuse_safe _ _ _
      intro unverified
      dsimp only
      split
      · exact refuse_safe _ _ _
      intro silentlyShort
      cases silentlyShort with
      | cons first rest => exact refuse_safe _ _ _
      | nil =>
          intro _
          exact emitEvent_safe (commit_announces rfl rfl)

theorem ship_announced {soId : ℕ} {preShipStatus : SoStatus} (hstatus : preShipStatus ≠ .shipped) :
    (Change.ship soId preShipStatus).announced = true :=
  bne_iff_ne.mpr hstatus

variable {warehouseId : ℕ}

theorem recordShip_safe {raise : ShipError → Refusal} {soId : ℕ}
    {preShipStatus : Option SoStatus} {trackingNumber shipMethod : Option String}
    {next : ℕ → OutboxProgram}
    (hnext : ∀ fulfillmentId, Announces ⟨.salesOrder, soId, .shipConfirmed, sourceTxnId⟩ (next fulfillmentId)) :
    Safe [] known (recordShip raise soId warehouseId preShipStatus trackingNumber shipMethod
      sourceTxnId next) := by
  intro lines
  cases lines with
  | cons first rest => exact refuse_safe _ _ _
  | nil =>
      intro fulfillmentId missing
      cases missing with
      | some binId => exact refuse_safe _ _ _
      | none =>
          intro _ _
          exact emitEvent_safe (hnext fulfillmentId)

theorem fulfill_safe (soId : ℕ) (warehouseIds : List ℕ) (trackingNumber : String)
    (shipMethod : Option String) :
    Safe [] known (fulfill soId warehouseIds trackingNumber shipMethod sourceTxnId) := by
  intro found
  cases found with
  | none => exact refuse_safe _ _ _
  | some order =>
      obtain ⟨-, columns, state⟩ := order
      intro packingRequired
      dsimp only
      split
      · exact refuse_safe _ _ _
      split
      · exact refuse_safe _ _ _
      · next hready =>
          have hstatus : state.status ≠ .shipped := by
            intro hshipped
            exact hready (by simp [hshipped])
          apply recordShip_safe
          intro fulfillmentId
          exact commit_announces (ship_announced hstatus) rfl

theorem adminEditShip_safe (soId : ℕ) (trackingNumber shipMethod : Option (Option String)) :
    Safe [] known (adminEditShip soId trackingNumber shipMethod sourceTxnId) := by
  intro found
  cases found with
  | none => exact refuse_safe _ _ _
  | some order =>
      obtain ⟨-, columns, state⟩ := order
      dsimp only
      split
      · intro _
        exact ⟨List.nil_subset _, List.nil_subset _⟩
      · next hstatus =>
          split
          · exact refuse_safe _ _ _
          split
          · exact refuse_safe _ _ _
          · apply recordShip_safe
            intro fulfillmentId
            apply query_announces
            intro _
            exact commit_announces (ship_announced hstatus) rfl

theorem shipShippable_safe (soId : ℕ) (columns : OrderColumns) (state : OrderState) :
    Safe [] known (shipShippable soId columns state sourceTxnId) := by
  intro shippable
  dsimp only
  split
  · exact refuse_safe _ _ _
  intro _ unbooked
  dsimp only
  split
  · exact refuse_safe _ _ _
  intro _ _
  dsimp only
  split
  · next hstatus => exact emitEvent_safe (commit_announces (ship_announced hstatus) rfl)
  · next hstatus =>
      apply commit_silent
      rw [not_not.mp hstatus]
      rfl

theorem adminShip_safe (soId : ℕ) (acknowledgeShortfall : Bool) :
    Safe [] known (adminShip soId acknowledgeShortfall sourceTxnId) := by
  intro found
  cases found with
  | none => exact refuse_safe _ _ _
  | some order =>
      obtain ⟨-, columns, state⟩ := order
      dsimp only
      split
      · exact refuse_safe _ _ _
      split
      · exact refuse_safe _ _ _
      intro existing
      dsimp only
      split
      · exact refuse_safe _ _ _
      split
      · exact shipShippable_safe soId columns state
      intro shortfall
      cases shortfall with
      | cons first rest => exact refuse_safe _ _ _
      | nil => exact shipShippable_safe soId columns state

/-! ### Dockd -/

theorem shipLocked_safe (request : DockdRequest) (tracking : String)
    (shipMethod : Option String) (soId : ℕ) (columns : OrderColumns) (state : OrderState) :
    Safe [] known (shipLocked request tracking shipMethod soId columns state) := by
  rw [shipLocked]
  split
  · intro _
    exact refuse_safe _ _ _
  · next hstatus =>
      intro (packingRequired : Bool)
      dsimp only
      generalize (if packingRequired then [SoStatus.packed] else [.picked, .packed]) =
        allowedStatuses
      split
      · exact refuse_safe _ _ _
      · apply recordShip_safe
        intro fulfillmentId
        apply query_announces
        intro _
        exact commit_announces (ship_announced hstatus) rfl

theorem recordVoidShip_safe (request : DockdRequest) (reason : String) (soId : ℕ)
    (columns : OrderColumns) (fulfillmentId : ℕ) (preShipStatus : SoStatus) :
    Safe [] known (recordVoidShip request reason soId columns fulfillmentId preShipStatus) := by
  intro _ _ _
  apply emitEvent_safe
  apply query_announces
  intro _
  exact commit_announces rfl rfl

theorem voidLocked_safe (request : DockdRequest) (reason : String) (soId : ℕ)
    (columns : OrderColumns) (state : OrderState) :
    Safe [] known (voidLocked request reason soId columns state) := by
  rw [voidLocked]
  split
  · exact refuse_safe _ _ _
  intro fulfillment
  cases fulfillment with
  | none => exact refuse_safe _ _ _
  | some found =>
      obtain ⟨fulfillmentId, fulfillment, -⟩ := found
      dsimp only
      split
      · exact refuse_safe _ _ _
      · exact recordVoidShip_safe _ _ _ _ _ _

theorem work_safe (request : DockdRequest) : Safe [] known (work request) := by
  rw [work]
  split
  · exact refuse_safe _ _ _
  intro found
  cases found with
  | none => exact refuse_safe _ _ _
  | some order =>
      obtain ⟨soId, columns, state⟩ := order
      dsimp only
      split
      · exact shipLocked_safe _ _ _ _ _ _
      · exact voidLocked_safe _ _ _ _ _

theorem announcedKeys_nothing {reply : Reply} (hreply : reply.requested = none) :
    announcedKeys [reply] = [] := by
  simp [announcedKeys, announcedChanges, committedChanges, hreply]

theorem reply_safe {reply : Reply} (commits : Bool) (hreply : reply.requested = none) :
    Safe [] known (.reply commits reply) := by
  cases commits with
  | true =>
      refine ⟨List.nil_subset _, ?_⟩
      rw [announcedKeys_nothing hreply]
      exact List.nil_subset _
  | false => exact hreply

theorem claimAndWork_safe (sha256 : Dockd.Payload → String) (request : DockdRequest) :
    Safe [] known (claimAndWork sha256 request) := by
  intro operator
  cases operator with
  | none => exact refuse_safe _ _ _
  | some externalId =>
      intro claimed
      dsimp only
      split
      · exact work_safe request
      · intro peer
        apply reply_safe
        split
        · rfl
        split <;> rfl

theorem dockd_safe (sha256 : Dockd.Payload → String) (request : DockdRequest) :
    Safe [] known (dockd sha256 request) := by
  rw [dockd]
  split
  · exact refuse_safe _ _ _
  intro cached
  cases cached with
  | none => exact claimAndWork_safe sha256 request
  | some found =>
      obtain ⟨row, response⟩ := found
      dsimp only
      split
      · exact refuse_safe _ _ _
      split
      · exact claimAndWork_safe sha256 request
      · exact reply_safe false rfl

/-! ### Purchase orders -/

theorem emitPoEdit_safe {poId : ℕ} {status : PoStatus} {changes : List FieldChange}
    (hannounced : change.announced = !changes.isEmpty)
    (haggregate : change.aggregate = (.purchaseOrder, poId))
    (htype : change.eventType = .purchaseOrderEditCompleted) :
    Safe [] known (emitPoEdit poId warehouseId status changes sourceTxnId
      (commit change sourceTxnId)) := by
  rw [emitPoEdit]
  split
  · next hempty =>
      rw [hempty] at hannounced
      exact commit_silent hannounced _
  · next hchanges =>
      rw [Bool.eq_false_of_not_eq_true hchanges] at hannounced
      apply emitEvent_safe
      apply commit_announces hannounced
      rw [RequestedChange.key, haggregate, htype]
      rfl

theorem finishLineEdit_safe {poId : ℕ} {before after : Option ℤ} {changes : List FieldChange}
    (hchanges : (before != after) = !changes.isEmpty) :
    Safe [] known
      (finishLineEdit poId warehouseId before after changes sourceTxnId) := by
  intro _ lines _
  exact emitPoEdit_safe hchanges rfl rfl

theorem addLine_safe (poId itemId : ℕ) (quantityOrdered : ℤ) :
    Safe [] known (addLine poId itemId quantityOrdered sourceTxnId) := by
  intro found
  cases found with
  | none => exact refuse_safe _ _ _
  | some order =>
      obtain ⟨warehouseId, header⟩ := order
      dsimp only
      split
      · exact refuse_safe _ _ _
      intro item
      cases item with
      | none => exact refuse_safe _ _ _
      | some item =>
          intro dup
          dsimp only
          split
          · exact refuse_safe _ _ _
          intro lineNumber _
          exact finishLineEdit_safe rfl

theorem updateLine_safe (poId poLineId : ℕ) (quantityOrdered : ℤ) :
    Safe [] known (updateLine poId poLineId quantityOrdered sourceTxnId) := by
  intro found
  cases found with
  | none => exact refuse_safe _ _ _
  | some order =>
      obtain ⟨warehouseId, header⟩ := order
      dsimp only
      split
      · exact refuse_safe _ _ _
      intro line
      cases line with
      | none => exact refuse_safe _ _ _
      | some found =>
          obtain ⟨sku, line⟩ := found
          dsimp only
          split
          · exact refuse_safe _ _ _
          intro _
          apply finishLineEdit_safe
          by_cases hsame : quantityOrdered = line.ordered
          · rw [if_neg (not_not.mpr hsame), hsame]
            exact bne_self_eq_false _
          · rw [if_pos hsame]
            exact bne_iff_ne.mpr fun heq => hsame (Option.some.inj heq).symm

theorem deleteLine_safe (poId poLineId : ℕ) :
    Safe [] known (deleteLine poId poLineId sourceTxnId) := by
  intro found
  cases found with
  | none => exact refuse_safe _ _ _
  | some order =>
      obtain ⟨warehouseId, header⟩ := order
      dsimp only
      split
      · exact refuse_safe _ _ _
      intro line
      cases line with
      | none => exact refuse_safe _ _ _
      | some found =>
          obtain ⟨sku, line⟩ := found
          dsimp only
          split
          · exact refuse_safe _ _ _
          intro _
          exact finishLineEdit_safe rfl

theorem updatePurchaseOrder_safe (poId : ℕ) (edit : HeaderEdit) :
    Safe [] known (updatePurchaseOrder poId edit sourceTxnId) := by
  intro found
  cases found with
  | none => exact refuse_safe _ _ _
  | some order =>
      obtain ⟨warehouseId, header⟩ := order
      dsimp only
      split
      · exact refuse_safe _ _ _
      split
      · exact refuse_safe _ _ _
      split
      · exact refuse_safe _ _ _
      intro _
      exact emitPoEdit_safe rfl rfl rfl

/-! ### All requests -/

theorem elsewhere_safe (writes : List (Tables → Tables)) (commits : Bool) :
    Safe [] known (elsewhere writes commits) := by
  induction writes with
  | nil => exact reply_safe commits rfl
  | cons write writes ih =>
      intro _
      exact ih

theorem program_safe (sha256 : Dockd.Payload → String) (request : HttpRequest) :
    Safe [] known (request.program sha256) := by
  rw [HttpRequest.program]
  split
  · exact completePacking_safe _ _
  · exact fulfill_safe _ _ _ _
  · exact adminEditShip_safe _ _ _
  · exact adminShip_safe _ _
  · exact dockd_safe _ _
  · exact addLine_safe _ _ _
  · exact updateLine_safe _ _ _
  · exact deleteLine_safe _ _
  · exact updatePurchaseOrder_safe _ _
  · exact elsewhere_safe _ _

end Programs

/-! ## Statements and the events -/

variable {sha256 : Dockd.Payload → String}
  {fetchOne : FetchOne (FulfillmentColumns × FulfillmentStatus)} {db after : Database}
  {txn other : ℕ} {replies : List Reply} {initial known : List EventKey}

theorem perform_table {statement : Query} {result : Database × Answer (.table statement)}
    (hperform : perform sha256 fetchOne db txn (.table statement) = some result) :
    result.1.events = db.events := by
  obtain ⟨tables, -, rfl⟩ := Option.map_eq_some_iff.mp hperform
  rfl

theorem perform_emitEvent {event : Event} {result : Database × Answer (.emitEvent event)}
    (hperform : perform sha256 fetchOne db txn (.emitEvent event) = some result) :
    insertUnique Event.key db.events txn event () = some (result.1.events, result.2) := by
  obtain ⟨inserted, hinsert, rfl⟩ := Option.map_eq_some_iff.mp hperform
  exact hinsert

variable {statement : Statement}

theorem perform_other {result : Database × Answer statement}
    (hperform : perform sha256 fetchOne db txn statement = some result)
    (hother : other ≠ txn) : appendedKeys result.1 other = appendedKeys db other := by
  cases statement with
  | table statement => rw [appendedKeys, perform_table hperform, appendedKeys]
  | emitEvent event =>
      rw [appendedKeys, appendedKeys]
      rcases insertUnique_cases (perform_emitEvent hperform) with
        ⟨-, hinserted, -⟩ | ⟨-, hsame, -⟩
      · rw [hinserted, writtenBy_insertRow_other hother]
      · rw [hsame]

theorem perform_committed {result : Database × Answer statement}
    (hperform : perform sha256 fetchOne db txn statement = some result) :
    committedKeys Event.key result.1.events = committedKeys Event.key db.events := by
  cases statement with
  | table statement => rw [perform_table hperform]
  | emitEvent event => exact committedKeys_insertUnique (perform_emitEvent hperform)

theorem perform_safe {next : Answer statement → OutboxProgram}
    {result : Database × Answer statement} (hown : Owns db txn (.exec statement next))
    (hperform : perform sha256 fetchOne db txn statement = some result) :
    Owns result.1 txn (next result.2) := by
  obtain ⟨known, hknown, hsafe⟩ := hown
  rw [← perform_committed hperform] at hknown
  cases statement with
  | table statement =>
      refine ⟨known, hknown, ?_⟩
      rw [appendedKeys, perform_table hperform]
      exact hsafe result.2
  | emitEvent event =>
      obtain ⟨hself, hinserted, hconflict⟩ := hsafe
      have hwritten : writtenBy db.events txn = [] := List.map_eq_nil_iff.mp hself
      have hinsert := perform_emitEvent hperform
      rcases insertUnique_cases hinsert with ⟨hanswer, hevents, -⟩ | ⟨hanswer, hevents, -⟩
      · refine ⟨known, hknown, ?_⟩
        rw [appendedKeys, hevents, writtenBy_insertRow, hwritten]
        have hnext := hinserted db.events.next
        rw [← hanswer] at hnext
        exact hnext
      · refine ⟨event.key :: known, List.cons_subset.mpr ⟨?_, hknown⟩, ?_⟩
        · rw [hanswer] at hinsert
          rw [perform_committed hperform]
          exact committed_of_conflict hwritten hinsert
        · rw [appendedKeys, hevents]
          rw [← hanswer] at hconflict
          exact hconflict

theorem commit_other (hother : other ≠ txn) :
    appendedKeys ((engine sha256 fetchOne).commit db txn) other = appendedKeys db other :=
  congrArg _ (writtenBy_commitRows_other db.events hother)

theorem rollback_other (hother : other ≠ txn) :
    appendedKeys ((engine sha256 fetchOne).rollback db txn) other = appendedKeys db other :=
  congrArg _ (writtenBy_rollbackRows_other db.events hother)

theorem commit_idle : Idle ((engine sha256 fetchOne).commit db txn) txn :=
  congrArg _ (writtenBy_commitRows db.events txn)

theorem rollback_idle : Idle ((engine sha256 fetchOne).rollback db txn) txn :=
  congrArg _ (writtenBy_rollbackRows db.events txn)

theorem rollback_committed : committedKeys Event.key
    ((engine sha256 fetchOne).rollback db txn).events = committedKeys Event.key db.events :=
  committedKeys_rollbackRows db.events txn

theorem mem_commit (htold : EventsTold initial db replies) {key : EventKey} :
    key ∈ committedKeys Event.key ((engine sha256 fetchOne).commit db txn).events ↔
      key ∈ committedKeys Event.key db.events ∨ key ∈ appendedKeys db txn :=
  mem_committedKeys_commitRows htold.inserted

/-! ## Runs -/

theorem announcedKeys_append (replies : List Reply) (reply : Reply) :
    announcedKeys (replies ++ [reply]) = announcedKeys replies ++ announcedKeys [reply] := by
  simp [announcedKeys, announcedChanges, committedChanges]

theorem EventsTold.perform (htold : EventsTold initial db replies)
    {result : Database × Answer statement}
    (hperform : perform sha256 fetchOne db txn statement = some result) :
    EventsTold initial result.1 replies := by
  have hcommitted := perform_committed hperform
  cases statement with
  | table statement =>
      have hevents := perform_table hperform
      exact ⟨hevents ▸ htold.unique, hevents ▸ htold.inserted, hcommitted ▸ htold.present,
        hcommitted ▸ htold.told⟩
  | emitEvent event =>
      have hinsert := perform_emitEvent hperform
      exact ⟨htold.unique.insertUnique hinsert, htold.inserted.insertUnique hinsert,
        hcommitted ▸ htold.present, hcommitted ▸ htold.told⟩

theorem EventsTold.commit (htold : EventsTold initial db replies) {reply : Reply}
    (hown : Owns db txn (.reply true reply)) :
    EventsTold initial ((engine sha256 fetchOne).commit db txn) (replies ++ [reply]) := by
  obtain ⟨known, hknown, hself, hkeys⟩ := hown
  refine ⟨htold.unique.commitRows txn, htold.inserted.commitRows txn, ?_, ?_⟩
  · intro key hkey
    rw [announcedKeys_append] at hkey
    apply (mem_commit htold).mpr
    rcases List.mem_append.mp hkey with hold | hnew
    · exact .inl (htold.present hold)
    · rcases List.mem_append.mp (hkeys hnew) with happended | hread
      · exact .inr happended
      · exact .inl (hknown hread)
  · intro key hkey
    rw [announcedKeys_append]
    rcases (mem_commit htold).mp hkey with hold | happended
    · exact (htold.told key hold).imp_right (List.mem_append_left _)
    · exact .inr (List.mem_append_right _ (hself happended))

theorem EventsTold.rollback (htold : EventsTold initial db replies) (txn : ℕ) :
    EventsTold initial ((engine sha256 fetchOne).rollback db txn) replies where
  unique := htold.unique.rollbackRows txn
  inserted := htold.inserted.rollbackRows txn
  present := by
    rw [rollback_committed]
    exact htold.present
  told := by
    rw [rollback_committed]
    exact htold.told

theorem undisturbed : Undisturbed (engine sha256 fetchOne) (HttpRequest.program sha256)
    (fun _ _ _ => True) (EventsTold initial) Owns Idle where
  begins := by
    intro db txn hidle request
    refine ⟨[], List.nil_subset _, ?_⟩
    rw [hidle]
    exact program_safe sha256 request
  performs := fun htold hown _ hperform =>
    ⟨htold.perform hperform, perform_safe hown hperform⟩
  commits := fun htold hown => ⟨htold.commit hown, commit_idle⟩
  refuses := by
    intro db replies txn reply htold hown
    obtain ⟨known, hknown, hnothing⟩ := hown
    have hkeys : announcedKeys (replies ++ [reply]) = announcedKeys replies := by
      rw [announcedKeys_append, announcedKeys_nothing hnothing, List.append_nil]
    have hrollback : EventsTold initial ((engine sha256 fetchOne).rollback db txn) replies :=
      htold.rollback txn
    exact ⟨hrollback.unique, hrollback.inserted, hkeys ▸ hrollback.present,
      hkeys ▸ hrollback.told⟩
  rollsBack := fun htold txn => ⟨htold.rollback txn, rollback_idle⟩
  owns_others := by
    intro db txn other program hown hother
    obtain ⟨known, hknown, hsafe⟩ := hown
    refine ⟨fun hperform => ⟨known, ?_, ?_⟩, ⟨known, ?_, ?_⟩, known, ?_, ?_⟩
    · rw [perform_committed hperform]
      exact hknown
    · rw [perform_other hperform hother]
      exact hsafe
    · exact List.Subset.trans hknown (committedKeys_subset_commitRows db.events txn)
    · rw [commit_other hother]
      exact hsafe
    · rw [rollback_committed]
      exact hknown
    · rw [rollback_other hother]
      exact hsafe
  idle_others := by
    intro db txn other hidle hother
    refine ⟨fun hperform => ?_, ?_, ?_⟩
    · rw [Idle, perform_other hperform hother]
      exact hidle
    · rw [Idle, commit_other hother]
      exact hidle
    · rw [Idle, rollback_other hother]
      exact hidle

theorem EventsTold.announced {start : Database}
    (htold : EventsTold (committedKeys Event.key start.events) db replies) :
    Announced start db replies where
  event := by
    intro requested hrequested
    have hkey := htold.present (List.mem_map_of_mem hrequested)
    obtain ⟨eventId, hevent⟩ := mem_committedKeys.mp hkey
    exact ⟨eventId, hevent, fun other hother => htold.unique.eq hother hevent⟩
  shared := by
    intro left hleft right hright
    constructor
    · rintro ⟨eventId, htellsLeft, htellsRight⟩
      exact htellsLeft.key_eq htellsRight
    · intro hsame
      obtain ⟨eventId, hevent⟩ :=
        mem_committedKeys.mp (htold.present (List.mem_map_of_mem hleft))
      refine ⟨eventId, hevent, ?_⟩
      rw [TellsOf, ← hsame]
      exact hevent
  own := by
    intro hdistinct
    obtain ⟨eventIds, hnodup, hevents⟩ := exists_ownRows hdistinct htold.present
    refine ⟨eventIds, hnodup, ?_⟩
    rw [List.forall₂_map_left_iff] at hevents
    exact hevents
  told := by
    intro wanted eventId hevent
    rcases htold.told wanted (mem_committedKeys.mpr ⟨eventId, hevent⟩) with hold | hnew
    · exact .inl (mem_committedKeys.mp hold)
    · exact .inr (List.mem_map.mp hnew)

/-- No transaction is open on the events, and their key is unique. -/
structure AtRest (db : Database) : Prop where
  unique : Unique Event.key db.events
  settled : ∀ entry ∈ db.events.entries, entry.2.version = .stable ()

theorem AtRest.idle (hrest : AtRest db) (txn : ℕ) : Idle db txn := by
  refine List.map_eq_nil_iff.mpr (List.filterMap_eq_nil_iff.mpr ?_)
  intro entry hentry
  rw [hrest.settled entry hentry]
  rfl

theorem AtRest.told (hrest : AtRest db) :
    EventsTold (committedKeys Event.key db.events) db [] where
  unique := hrest.unique
  inserted := by
    intro entry hentry
    rw [hrest.settled entry hentry]
    rfl
  present := List.nil_subset _
  told := fun _ hkey => .inl hkey

/-- In every run of requests, whatever ids their clients choose and however their
statements interleave, every announced change that was committed has its event. -/
theorem announced_of_run (sha256 : Dockd.Payload → String)
    (fetchOne : FetchOne (FulfillmentColumns × FulfillmentStatus)) {db : Database}
    {acts : List (Act HttpRequest)} {after : OutboxSystem} (hrest : AtRest db)
    (hrun : Run (Interleaving.step (engine sha256 fetchOne) (HttpRequest.program sha256))
      (fun _ _ => True) ⟨db, fun _ => none, []⟩ acts after) :
    Announced db after.db after.replies := by
  have hstart : Holds (EventsTold (committedKeys Event.key db.events)) Owns Idle
      (⟨db, fun _ => none, []⟩ : OutboxSystem) :=
    ⟨hrest.told, nofun, fun txn _ => hrest.idle txn⟩
  have hguarded := hrun.weaken
    fun system act _ => Guarded.of_all (fun _ _ _ => trivial) system act
  exact (run_holds undisturbed hstart hguarded).inv.announced

/-! ## One request id for two edits -/

/-- A purchase order with one line of ten units. -/
def oneLine : Database where
  tables :=
    { appSettings := []
      items := .ofRows [⟨"SKU-1", none, [], true, none⟩]
      bins := .empty
      operators := []
      orders := .empty
      orderLines := .empty
      pickTasks := .empty
      shortWaveLines := []
      fulfillments := .empty
      idempotency := .empty
      purchaseOrders := ofCommitted [(1, ⟨.open, some "PO-1", none, none, none, none⟩)]
      purchaseOrderLines := ofCommitted [(⟨1, 1, 1⟩, some ⟨10, 0, .pending⟩)] }
  events := .empty

def lineEdit (xRequestId : Option String) (uuid4 : String) (quantityOrdered : ℤ) :
    HttpRequest :=
  ⟨xRequestId, uuid4, .updateLine 1 1 quantityOrdered⟩

/-- One request after the other, to its end. -/
def inTurn (first second : HttpRequest) : List (Act HttpRequest) :=
  .start 1 first :: List.replicate 8 (.advance 1) ++
    .start 2 second :: List.replicate 8 (.advance 2)

/-- Two edits of clients that send no id. -/
def withoutIds : List (Act HttpRequest) :=
  inTurn (lineEdit none "6ba7b810-9dad-41d1-80b4-00c04fd430c8" 12)
    (lineEdit none "6ba7b811-9dad-41d1-80b4-00c04fd430c8" 15)

/-- Two edits with one id, written in two ways. -/
def withOneId : List (Act HttpRequest) :=
  inTurn
    (lineEdit (some "6BA7B810-9DAD-41D1-80B4-00C04FD430C8")
      "00000000-0000-4000-8000-000000000001" 12)
    (lineEdit (some "urn:uuid:6ba7b8109dad41d180b400c04fd430c8")
      "00000000-0000-4000-8000-000000000002" 15)

def endOf (acts : List (Act HttpRequest)) : OutboxSystem :=
  (execute (Interleaving.step (engine (fun _ => "") (.first _))
    (HttpRequest.program fun _ => "")) (fun _ _ => True)
    ⟨oneLine, fun _ => none, []⟩ acts).getD ⟨oneLine, fun _ => none, []⟩

theorem oneLine_atRest : AtRest oneLine where
  unique := List.nodup_nil
  settled := nofun

theorem announced_withoutIds :
    Announced oneLine (endOf withoutIds).db (endOf withoutIds).replies :=
  announced_of_run (fun _ => "") (.first _) oneLine_atRest
    (Run.ofExecute (rfl : execute _ _ _ withoutIds = some (endOf withoutIds)))

/-- Both edits are committed, and the second one finds the event of the first: there is
one event for two changes. -/
theorem edits_share_event :
    Run (Interleaving.step (engine (fun _ => "") (.first _))
        (HttpRequest.program fun _ => "")) (fun _ _ => True)
        ⟨oneLine, fun _ => none, []⟩ withOneId (endOf withOneId) ∧
      (committedChanges (endOf withOneId).replies).map RequestedChange.change =
        [.purchaseOrderLineEdit 1 (some 10) (some 12),
          .purchaseOrderLineEdit 1 (some 12) (some 15)] ∧
      (endOf withOneId).db.events.entries.length = 1 ∧
      ¬ OwnEvents (endOf withOneId).db (committedChanges (endOf withOneId).replies) := by
  refine ⟨Run.ofExecute rfl, rfl, rfl, ?_⟩
  rintro ⟨eventIds, hnodup, htells⟩
  have hone : ∀ requested eventId, TellsOf (endOf withOneId).db requested eventId →
      eventId = 1 := by
    rintro requested eventId ⟨row, hrow, -⟩
    have hentry : (eventId, row) ∈ (endOf withOneId).db.events.entries := hrow
    have hkeys : ∀ key ∈ (endOf withOneId).db.events.keys, key = 1 := by decide
    exact hkeys eventId (List.mem_map_of_mem hentry)
  have hlength : eventIds.length = 2 := htells.length_eq.symm
  match eventIds, hlength with
  | [first, second], _ =>
      cases htells with
      | cons hfirst hrest =>
          cases hrest with
          | cons hsecond _ =>
              rw [hone _ _ hfirst, hone _ _ hsecond] at hnodup
              exact absurd hnodup (by decide)

end SentryWms.Outbox
