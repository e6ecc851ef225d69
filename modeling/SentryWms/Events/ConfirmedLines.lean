import SentryWms.Core.Join
import SentryWms.Packing.PackRequests
import SentryWms.Picking.Complete
import SentryWms.Store.Upstream

/-!
# The lines of an outbound event

`pick.confirmed` and `pack.confirmed` list the lines of an order under the ids that
upstream systems know the items by. A line is listed once for every mapping of its item.
-/

namespace SentryWms

open Relational Transition

/-! ## Payload lines -/

/-- An entry of `lines` in a payload: an item and the quantity picked or packed. -/
structure EventLine where
  itemExternalId : String
  quantity : ℤ

def Store.numberedLines (store : Store) (soId : ℕ) : List (ℕ × SalesOrderLine) :=
  orderBy (fun entry => entry.2.lineNumber)
    (store.salesOrderLines.select fun line => line.soId == soId)

/-- The payload lines of an order: the order's lines joined with the mappings of their
items, a line without one under the item's own external id. -/
def eventLines (upstream : Upstream) (store : Store) (soId : ℕ)
    (quantity : SalesOrderLine → ℤ) : List EventLine :=
  (leftJoin (fun entry => upstream.itemMappings entry.2.itemId)
      (store.numberedLines soId)).map fun joined =>
    { itemExternalId := (joined.2.map CrossSystemMapping.sourceId).getD
        (upstream.itemExternalId joined.1.2.itemId)
      quantity := quantity joined.1.2 }

/-- The `lines` of an event, and the order that it is about. -/
structure OrderEvent where
  soId : ℕ
  warehouseId : ℕ
  lines : List EventLine

/-! ## Completing a batch -/

/-- The loop over the orders of a batch: the store and the events so far. -/
structure Completing where
  store : Store
  events : List OrderEvent

/-- Flip one order to PICKED, and note the event, unless the outbox has it. -/
def completeOrderNoted (upstream : Upstream) (sourceTxnId : Option ℕ) (username : String)
    (state : Completing) (entry : ℕ × SalesOrder) : Completing where
  store := completeOrder sourceTxnId username state.store entry
  events := state.events ++
    match sourceTxnId with
    | none => []
    | some sourceTxnId =>
        if state.store.confirmed entry.1 sourceTxnId then []
        else
          [{ soId := entry.1, warehouseId := entry.2.warehouseId
             lines := eventLines upstream state.store entry.1
               SalesOrderLine.quantityPicked }]

/-- `complete_batch`, with the `pick.confirmed` events that it emits. -/
def completeBatchNoted (upstream : Upstream) (store : Store) (batchId : ℕ)
    (username : String) (sourceTxnId : Option ℕ) :
    Except PickError (Store × List OrderEvent) :=
  match store.pickBatches.get? batchId with
  | none => .error .batchNotFound
  | some _ =>
      let pending := (store.batchTasks batchId).filter fun entry =>
        entry.2.status == .pending
      if ¬ pending.isEmpty then .error (.tasksPending pending.length)
      else
        match store.silentlyShort batchId with
        | first :: rest => .error (.silentlyShort (first :: rest))
        | [] =>
            let completed := store.setBatchStatus batchId .completed
            let picked := (completed.batchSalesOrders batchId).foldl
              (completeOrderNoted upstream sourceTxnId username) ⟨completed, []⟩
            .ok ((picked.store.batchTransferOrders batchId).foldl
              (trySubmitPicks username) picked.store, picked.events)

/-! ## Completing a packing -/

def Store.underPicked (store : Store) (soId : ℕ) : List (ℕ × SalesOrderLine) :=
  store.salesOrderLines.select fun line =>
    line.soId == soId && decide (line.quantityPicked < line.quantityOrdered)

/-- `complete_packing`, with the `pack.confirmed` event that it emits. -/
def completePacking (upstream : Upstream) (store : Store) (scope : WarehouseScope)
    (soId : ℕ) : Except Packing.Refusal (Store × OrderEvent) :=
  match (store.salesOrders.get? soId).filter fun order =>
      scope.allows order.warehouseId with
  | none => .error .orderNotFound
  | some order =>
      if order.status ≠ .picked then .error (.notReady order.status)
      else
        let unverified := store.salesOrderLines.select fun line =>
          line.soId == soId && decide (line.quantityPacked < line.quantityPicked)
        if ¬ unverified.isEmpty then .error (.unverified unverified.length)
        else
          match (store.underPicked soId).filter fun entry =>
              !store.shortMarked entry.1 with
          | first :: rest =>
              .error (.underPicked
                (((store.items.get? first.2.itemId).map Item.sku).getD "")
                first.2.quantityOrdered first.2.quantityPicked rest.length)
          | [] =>
              .ok (store.setOrderStatus soId .packed,
                { soId, warehouseId := order.warehouseId
                  lines := eventLines upstream store soId
                    SalesOrderLine.quantityPacked })

/-! ## One line each -/

/-- A payload line reports an order line: its quantity, and its item under an id of an
upstream system, or under its own where it is mapped in none. -/
structure Reports (upstream : Upstream) (quantity : SalesOrderLine → ℤ)
    (line : ℕ × SalesOrderLine) (reported : EventLine) : Prop where
  quantity : reported.quantity = quantity line.2
  item : reported.itemExternalId ∈
      (upstream.itemMappings line.2.itemId).map CrossSystemMapping.sourceId ∨
    upstream.itemMappings line.2.itemId = [] ∧
      reported.itemExternalId = upstream.itemExternalId line.2.itemId

/-- The payload lines correspond one-to-one to the lines of the order, so their sum is
the order's. -/
structure ListsEachOnce (upstream : Upstream) (store : Store)
    (quantity : SalesOrderLine → ℤ) (event : OrderEvent) : Prop where
  lines : List.Forall₂ (Reports upstream quantity) (store.numberedLines event.soId)
    event.lines
  sum : (event.lines.map EventLine.quantity).sum =
    store.salesOrderLines.total fun _ line =>
      if line.soId = event.soId then quantity line else 0

def Store.MappedOnce (store : Store) (upstream : Upstream) (soId : ℕ) : Prop :=
  ∀ line ∈ store.salesOrderLines.select fun line => line.soId == soId,
    (upstream.itemMappings line.2.itemId).length ≤ 1

section Lines

variable {upstream : Upstream} {store after : Store} {quantity : SalesOrderLine → ℤ}

theorem mem_numberedLines {soId : ℕ} {entry : ℕ × SalesOrderLine} :
    entry ∈ store.numberedLines soId ↔
      entry ∈ store.salesOrderLines.select fun line => line.soId == soId :=
  mem_orderBy

theorem numberedLines_congr (hlines : after.salesOrderLines = store.salesOrderLines)
    (soId : ℕ) : after.numberedLines soId = store.numberedLines soId := by
  rw [Store.numberedLines, hlines, Store.numberedLines]

theorem eventLines_congr (hlines : after.salesOrderLines = store.salesOrderLines)
    (soId : ℕ) : eventLines upstream after soId quantity =
      eventLines upstream store soId quantity := by
  rw [eventLines, numberedLines_congr hlines, eventLines]

theorem sum_numberedLines (store : Store) (soId : ℕ) (quantity : SalesOrderLine → ℤ) :
    ((store.numberedLines soId).map fun entry => quantity entry.2).sum =
      store.salesOrderLines.total fun _ line =>
        if line.soId = soId then quantity line else 0 := by
  have hselect := store.salesOrderLines.total_select (fun line => line.soId == soId)
    fun _ line => quantity line
  simp only [beq_iff_eq] at hselect
  rw [← hselect]
  exact ((orderBy_perm _ _).map _).sum_eq

theorem reports_of_mappedOnce (line : ℕ × SalesOrderLine) :
    Reports upstream quantity line
      { itemExternalId :=
          ((upstream.itemMappings line.2.itemId).head?.map CrossSystemMapping.sourceId).getD
            (upstream.itemExternalId line.2.itemId)
        quantity := quantity line.2 } where
  quantity := rfl
  item := by
    cases hmappings : upstream.itemMappings line.2.itemId with
    | nil => exact .inr ⟨rfl, rfl⟩
    | cons mapping mappings => exact .inl List.mem_cons_self

theorem eventLines_iff {event : OrderEvent}
    (hevent : event.lines = eventLines upstream store event.soId quantity) :
    ListsEachOnce upstream store quantity event ↔ store.MappedOnce upstream event.soId := by
  have hiff : store.MappedOnce upstream event.soId ↔
      ∀ entry ∈ store.numberedLines event.soId,
        (upstream.itemMappings entry.2.itemId).length ≤ 1 := by
    rw [Store.MappedOnce]
    simp only [mem_numberedLines]
  rw [hiff]
  constructor
  · intro hlists
    have hlength := hlists.lines.length_eq
    rw [hevent, eventLines, List.length_map] at hlength
    exact (length_leftJoin_iff _).mp hlength.symm
  · intro hmapped
    have hlines : event.lines = (store.numberedLines event.soId).map fun entry =>
        { itemExternalId :=
            ((upstream.itemMappings entry.2.itemId).head?.map
              CrossSystemMapping.sourceId).getD (upstream.itemExternalId entry.2.itemId)
          quantity := quantity entry.2 } := by
      rw [hevent, eventLines, leftJoin_eq_map hmapped, List.map_map]
      rfl
    constructor
    · rw [hlines, List.forall₂_map_right_iff, List.forall₂_same]
      intro entry _
      exact reports_of_mappedOnce entry
    · rw [hlines, List.map_map, ← sum_numberedLines]
      rfl

/-! ## The loop over the orders -/

theorem completeOrder_lines (sourceTxnId : Option ℕ) (username : String) (store : Store)
    (entry : ℕ × SalesOrder) :
    (completeOrder sourceTxnId username store entry).salesOrderLines =
      store.salesOrderLines := by
  cases sourceTxnId with
  | none => rfl
  | some sourceTxnId =>
      rw [completeOrder, emitPickConfirmed]
      split <;> rfl

theorem completeOrders_events (sourceTxnId : Option ℕ) (username : String)
    (orders : List (ℕ × SalesOrder)) (store : Store) :
    ∀ event ∈ (orders.foldl (completeOrderNoted upstream sourceTxnId username)
        ⟨store, []⟩).events,
      event.lines = eventLines upstream store event.soId
        SalesOrderLine.quantityPicked := by
  have hloop : ((orders.foldl (completeOrderNoted upstream sourceTxnId username)
        ⟨store, []⟩).store.salesOrderLines = store.salesOrderLines ∧
      ∀ event ∈ (orders.foldl (completeOrderNoted upstream sourceTxnId username)
        ⟨store, []⟩).events, event.lines = eventLines upstream store event.soId
          SalesOrderLine.quantityPicked) := by
    refine foldl_invariant (fun state : Completing =>
      state.store.salesOrderLines = store.salesOrderLines ∧
        ∀ event ∈ state.events, event.lines = eventLines upstream store event.soId
          SalesOrderLine.quantityPicked) ?_ orders ⟨rfl, by simp⟩
    rintro state entry ⟨hlines, hevents⟩
    refine ⟨(completeOrder_lines sourceTxnId username state.store entry).trans hlines, ?_⟩
    intro event hevent
    rcases List.mem_append.mp hevent with hold | hnew
    · exact hevents event hold
    · cases sourceTxnId with
      | none => cases hnew
      | some sourceTxnId =>
          dsimp only at hnew
          by_cases hconfirmed : state.store.confirmed entry.1 sourceTxnId = true
          · rw [if_pos hconfirmed] at hnew
            cases hnew
          · rw [if_neg hconfirmed] at hnew
            rw [List.mem_singleton.mp hnew]
            exact eventLines_congr hlines entry.1
  exact hloop.2

theorem completeOrders_store (sourceTxnId : Option ℕ) (username : String)
    (orders : List (ℕ × SalesOrder)) (state : Completing) :
    (orders.foldl (completeOrderNoted upstream sourceTxnId username) state).store =
      orders.foldl (completeOrder sourceTxnId username) state.store := by
  induction orders generalizing state with
  | nil => rfl
  | cons entry orders ih =>
      rw [List.foldl_cons, List.foldl_cons, ih]
      rfl

theorem completeBatchNoted_fst (upstream : Upstream) (store : Store) (batchId : ℕ)
    (username : String) (sourceTxnId : Option ℕ) :
    (completeBatchNoted upstream store batchId username sourceTxnId).map Prod.fst =
      completeBatch store batchId username sourceTxnId := by
  rw [completeBatchNoted, completeBatch]
  cases store.pickBatches.get? batchId with
  | none => rfl
  | some batch =>
      dsimp only
      split
      · rfl
      · cases store.silentlyShort batchId with
        | cons first rest => rfl
        | nil =>
            dsimp only [Except.map]
            rw [completeOrders_store]

/-! ## Both events -/

/-- An event of a completed batch, or of a completed packing, lists the lines of its order
once each, with their own quantities, exactly when no item of the order is mapped more than
once. -/
theorem confirmedLines_iff (upstream : Upstream) (store : Store) :
    (∀ batchId username sourceTxnId after events,
      completeBatchNoted upstream store batchId username sourceTxnId =
          .ok (after, events) →
        ∀ event ∈ events,
          (ListsEachOnce upstream store SalesOrderLine.quantityPicked event ↔
            store.MappedOnce upstream event.soId)) ∧
    ∀ scope soId after event,
      completePacking upstream store scope soId = .ok (after, event) →
        event.soId = soId ∧
          (ListsEachOnce upstream store SalesOrderLine.quantityPacked event ↔
            store.MappedOnce upstream event.soId) := by
  constructor
  · intro batchId username sourceTxnId after events hcomplete event hevent
    rw [completeBatchNoted] at hcomplete
    split at hcomplete
    · cases hcomplete
    dsimp only at hcomplete
    split at hcomplete
    · cases hcomplete
    split at hcomplete
    · cases hcomplete
    cases hcomplete
    exact eventLines_iff
      (completeOrders_events sourceTxnId username _ (store.setBatchStatus batchId .completed)
        event hevent)
  · intro scope soId after event hcomplete
    rw [completePacking] at hcomplete
    split at hcomplete
    · cases hcomplete
    split at hcomplete
    · cases hcomplete
    dsimp only at hcomplete
    split at hcomplete
    · cases hcomplete
    split at hcomplete
    · cases hcomplete
    cases hcomplete
    exact ⟨rfl, eventLines_iff rfl⟩

end Lines

/-! ## An item with two mappings -/

/-- An item that two upstream systems know. -/
def mappedTwice : Upstream where
  mappings := .ofRows [⟨"shop", "item", "A-1", "item-uuid"⟩, ⟨"erp", "item", "77", "item-uuid"⟩]
  itemExternalId := fun _ => "item-uuid"

def packedThree : Store where
  warehouses := .ofRows [⟨"W", true⟩]
  items := .ofRows [⟨"A", none, [], true, none⟩]
  salesOrders := .ofRows
    [{ soNumber := "SO-1", soBarcode := none, status := .picked, warehouseId := 1
       orderType := .sale, parentSoId := none, cancellationReason := none }]
  salesOrderLines := .ofRows
    [{ soId := 1, itemId := 1, lineNumber := 1, quantityOrdered := 3
       quantityAllocated := 0, quantityPicked := 3, quantityPacked := 3 }]

/-- The event says six. -/
theorem confirmedLines_twice :
    ¬ ∀ (upstream : Upstream) (store after : Store) (scope : WarehouseScope) (soId : ℕ)
        (event : OrderEvent),
      completePacking upstream store scope soId = .ok (after, event) →
        ListsEachOnce upstream store SalesOrderLine.quantityPacked event := by
  intro hclaim
  have hlists := hclaim mappedTwice packedThree (packedThree.setOrderStatus 1 .packed) ⟨none⟩ 1
    { soId := 1, warehouseId := 1, lines := [⟨"A-1", 3⟩, ⟨"77", 3⟩] } (by rfl)
  exact absurd hlists.sum (by decide +kernel)

end SentryWms
