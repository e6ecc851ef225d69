import SentryWms.Shipping.Ship
import SentryWms.Core.Transition

/-!
# Voiding a ship

A ship stamps some lines of an order, a void all of them: it takes what was shipped
back to nothing and gives every line the status the order goes back to. This module
follows the status column of the lines beside the store and shows what a ship
followed by its void gives back.
-/

namespace SentryWms

open Relational Transition

/-! ## The status of the lines -/

/-- `sales_order_lines.status`: PENDING until packing, shipping or a void puts the
text of an order status there. -/
inductive LineStatus where
  | pending
  | order (status : SoStatus)

/-- The store with the status column of its order lines. -/
structure OrderBook where
  store : Store
  lineStatus : ℕ → LineStatus

def OrderBook.setLineStatus (book : OrderBook) (soId : ℕ) (cond : SalesOrderLine → Bool)
    (status : SoStatus) (soLineId : ℕ) : LineStatus :=
  if (book.store.salesOrderLines.get? soLineId).any fun line =>
      line.soId == soId && cond line then
    .order status
  else book.lineStatus soLineId

/-- `record_ship` with the status of the lines it stamps. -/
def OrderBook.recordShip (book : OrderBook) (soId : ℕ) (preShipStatus : Option SoStatus)
    (shippedAtOverride : Option ℕ) : Except ShipError OrderBook := do
  let store ← SentryWms.recordShip book.store soId preShipStatus shippedAtOverride
  .ok { store
        lineStatus := book.setLineStatus soId
          (fun line => decide (0 < line.quantityPicked)) .shipped }

/-- `record_admin_ship` with the status of the lines it stamps. -/
def OrderBook.recordAdminShip (book : OrderBook) (soId : ℕ)
    (acknowledgeShortfall : Bool) : Except ShipError OrderBook := do
  let store ← SentryWms.recordAdminShip book.store soId acknowledgeShortfall
  .ok { store
        lineStatus := book.setLineStatus soId
          (fun line => decide (line.quantityShipped < line.quantityPicked)) .shipped }

/-- `record_void_ship` with the status it gives every line. -/
def OrderBook.recordVoidShip (book : OrderBook) (soId fulfillmentId : ℕ)
    (preShipStatus : Option SoStatus) : Except ShipError OrderBook := do
  let store ← SentryWms.recordVoidShip book.store soId fulfillmentId preShipStatus
  .ok { store
        lineStatus := match preShipStatus with
          | none => book.lineStatus
          | some status => book.setLineStatus soId (fun _ => true) status }

/-! ## Ships that keep the status of the order -/

/-- The ships that keep the status of the order on the fulfillment: `record_ship` as
the packing station and the order editor call it, and `record_admin_ship`. -/
inductive ShipOp where
  | recordShip (shippedAtOverride : Option ℕ)
  | recordAdminShip (acknowledgeShortfall : Bool)

def ShipOp.run (book : OrderBook) (soId : ℕ) (order : SalesOrder) :
    ShipOp → Except ShipError OrderBook
  | .recordShip shippedAtOverride =>
      book.recordShip soId (some order.status) shippedAtOverride
  | .recordAdminShip acknowledgeShortfall =>
      book.recordAdminShip soId acknowledgeShortfall

section RoundTrip

variable {book shipped after : OrderBook} {soId : ℕ} {order : SalesOrder}

theorem recordShip_spec {store after : Store} {preShipStatus : Option SoStatus}
    {shippedAtOverride : Option ℕ}
    (hship : recordShip store soId preShipStatus shippedAtOverride = .ok after) :
    ∃ shippedAt headerShippedAt cond,
      after = store.writeShip soId preShipStatus shippedAt headerShippedAt cond := by
  rw [recordShip] at hship
  split at hship
  next => cases hship
  next =>
    dsimp only at hship
    split at hship
    next => cases hship
    next => exact ⟨_, _, _, (Except.ok.inj hship).symm⟩

theorem recordAdminShip_spec {store after : Store} {acknowledgeShortfall : Bool}
    (horder : store.salesOrders.get? soId = some order)
    (hship : recordAdminShip store soId acknowledgeShortfall = .ok after) :
    ∃ shippedAt headerShippedAt cond, after =
      store.writeShip soId (some order.status) shippedAt headerShippedAt cond := by
  unfold recordAdminShip at hship
  simp only [horder] at hship
  split at hship
  · cases hship
  split at hship
  · cases hship
  split at hship
  · cases hship
  split at hship
  next => cases hship
  next =>
    split at hship
    · cases hship
    split at hship
    · cases hship
    · exact ⟨_, _, _, (Except.ok.inj hship).symm⟩

theorem run_spec {op : ShipOp} (horder : book.store.salesOrders.get? soId = some order)
    (hship : op.run book soId order = .ok shipped) :
    ∃ shippedAt headerShippedAt cond lineCond,
      shipped.store = book.store.writeShip soId (some order.status) shippedAt
        headerShippedAt cond ∧
      shipped.lineStatus = book.setLineStatus soId lineCond .shipped := by
  cases op with
  | recordShip shippedAtOverride =>
      obtain ⟨store, hstore, hbook⟩ := bind_eq_ok.mp hship
      obtain ⟨shippedAt, headerShippedAt, cond, rfl⟩ := recordShip_spec hstore
      obtain rfl := Except.ok.inj hbook
      exact ⟨shippedAt, headerShippedAt, cond, _, rfl, rfl⟩
  | recordAdminShip acknowledgeShortfall =>
      obtain ⟨store, hstore, hbook⟩ := bind_eq_ok.mp hship
      obtain ⟨shippedAt, headerShippedAt, cond, rfl⟩ := recordAdminShip_spec horder hstore
      obtain rfl := Except.ok.inj hbook
      exact ⟨shippedAt, headerShippedAt, cond, _, rfl, rfl⟩

/-! ## What comes back -/

/-- The order has its status back, and every line of it what it had shipped and its
status. -/
structure GivesBack (book after : OrderBook) (soId : ℕ) (order : SalesOrder) : Prop where
  status : (after.store.salesOrders.get? soId).map SalesOrder.status = some order.status
  lines : ∀ ⦃soLineId line⦄, book.store.salesOrderLines.get? soLineId = some line →
    line.soId = soId →
      (after.store.salesOrderLines.get? soLineId).map SalesOrderLine.quantityShipped =
          some line.quantityShipped ∧
        after.lineStatus soLineId = book.lineStatus soLineId

/-- The order has its status back, and every line of it that status. A line that had
shipped nothing is as it was, and so is every line of another order. -/
structure GoesBack (book after : OrderBook) (soId : ℕ) (order : SalesOrder) : Prop where
  status : (after.store.salesOrders.get? soId).map SalesOrder.status = some order.status
  lineStatus : ∀ ⦃soLineId line⦄, book.store.salesOrderLines.get? soLineId = some line →
    line.soId = soId → after.lineStatus soLineId = .order order.status
  unshipped : ∀ ⦃soLineId line⦄, book.store.salesOrderLines.get? soLineId = some line →
    line.soId = soId → line.quantityShipped = 0 →
      after.store.salesOrderLines.get? soLineId = some line
  elsewhere : ∀ ⦃soLineId line⦄, book.store.salesOrderLines.get? soLineId = some line →
    line.soId ≠ soId →
      after.store.salesOrderLines.get? soLineId = some line ∧
        after.lineStatus soLineId = book.lineStatus soLineId

theorem get?_updateWhere_updateWhere {ρ : Type} (table : Table ρ)
    (cond cond' : ρ → Bool) (change change' : ρ → ρ) (key : ℕ) :
    ((table.updateWhere cond change).updateWhere cond' change').get? key =
      (table.get? key).map fun row =>
        let middle := if cond row then change row else row
        if cond' middle then change' middle else middle := by
  rw [Table.updateWhere, Table.updateWhere, Table.mapRows_mapRows, Table.get?_mapRows]

theorem setLineStatus_of_order {line : SalesOrderLine} {soLineId : ℕ}
    (hline : book.store.salesOrderLines.get? soLineId = some line)
    (hsoId : line.soId = soId) (status : SoStatus) :
    book.setLineStatus soId (fun _ => true) status soLineId = .order status := by
  simp [OrderBook.setLineStatus, hline, hsoId]

theorem setLineStatus_of_other {line : SalesOrderLine} {soLineId : ℕ}
    (hline : book.store.salesOrderLines.get? soLineId = some line)
    (hsoId : line.soId ≠ soId) (cond : SalesOrderLine → Bool) (status : SoStatus) :
    book.setLineStatus soId cond status soLineId = book.lineStatus soLineId := by
  simp [OrderBook.setLineStatus, hline, hsoId]

/-- The store that a void leaves. -/
def Store.voided (store : Store) (soId fulfillmentId : ℕ) (status : SoStatus) : Store :=
  { store with
    salesOrders := store.salesOrders.modify soId fun order =>
      { order with
        status
        shippedAt := if status = .shipped then order.shippedAt else none }
    itemFulfillments := store.itemFulfillments.modify fulfillmentId
      fun fulfillment => { fulfillment with status := .voided }
    salesOrderLines := store.salesOrderLines.updateWhere
      (fun line => line.soId == soId)
      fun line => { line with quantityShipped := 0 } }

theorem recordVoidShip_spec (book : OrderBook) (soId fulfillmentId : ℕ)
    (status : SoStatus) :
    book.recordVoidShip soId fulfillmentId (some status) =
      .ok
        { store := book.store.voided soId fulfillmentId status
          lineStatus := book.setLineStatus soId (fun _ => true) status } := rfl

theorem voided_line (store : Store) (shippedAt headerShippedAt : ℕ)
    (cond : SalesOrderLine → Bool) (preShipStatus status : SoStatus)
    (soId fulfillmentId soLineId : ℕ) :
    ((store.writeShip soId (some preShipStatus) shippedAt headerShippedAt cond).voided soId
        fulfillmentId status).salesOrderLines.get? soLineId =
      (store.salesOrderLines.get? soLineId).map fun line =>
        if line.soId = soId then { line with quantityShipped := 0 } else line := by
  rw [Store.voided, Store.writeShip]
  dsimp only
  rw [get?_updateWhere_updateWhere]
  apply congrArg (fun change => (store.salesOrderLines.get? soLineId).map change)
  funext line
  by_cases hsoId : line.soId = soId
  · cases cond line <;> simp [hsoId, SalesOrderLine.ship]
  · simp [hsoId]

/-- A ship followed by its void takes the order back. -/
theorem voidShip_goesBack {op : ShipOp}
    (horder : book.store.salesOrders.get? soId = some order)
    (hship : op.run book soId order = .ok shipped) :
    ∃ fulfillment after,
      shipped.store.itemFulfillments.get? book.store.itemFulfillments.next =
        some fulfillment ∧
      shipped.recordVoidShip soId book.store.itemFulfillments.next
        fulfillment.preShipStatus = .ok after ∧
      GoesBack book after soId order := by
  obtain ⟨shippedAt, headerShippedAt, cond, lineCond, hstore, hlineStatus⟩ :=
    run_spec horder hship
  have hline := voided_line book.store shippedAt headerShippedAt cond order.status
    order.status soId book.store.itemFulfillments.next
  let fulfillment : ItemFulfillment :=
    { soId, status := .shipped, preShipStatus := some order.status, shippedAt }
  have hfulfillment : shipped.store.itemFulfillments.get? book.store.itemFulfillments.next =
      some fulfillment := by
    rw [hstore]
    exact Table.get?_insert_self _ _
  refine ⟨fulfillment, _, hfulfillment, recordVoidShip_spec _ _ _ order.status, ?_⟩
  -- A ship keeps the order that a line belongs to.
  have hkept : ∀ {soLineId line},
      book.store.salesOrderLines.get? soLineId = some line →
      ∃ line', shipped.store.salesOrderLines.get? soLineId = some line' ∧
        line'.soId = line.soId := by
    intro soLineId line hget
    refine ⟨if line.soId == soId && cond line then line.ship else line, ?_, ?_⟩
    · rw [hstore, Store.writeShip, Table.updateWhere, Table.get?_mapRows, hget]
      rfl
    · split <;> rfl
  refine { status := ?_, lineStatus := ?_, unshipped := ?_, elsewhere := ?_ }
  · dsimp only
    rw [hstore, Store.voided, Store.writeShip]
    simp [Table.modify, horder]
  · intro soLineId line hget hsoId
    obtain ⟨line', hget', hsame⟩ := hkept hget
    exact setLineStatus_of_order hget' (hsame.trans hsoId) order.status
  · intro soLineId line hget hsoId hzero
    dsimp only
    rw [hstore, hline, hget, Option.map_some, if_pos hsoId, ← hzero]
  · intro soLineId line hget hsoId
    refine ⟨?_, ?_⟩
    · dsimp only
      rw [hstore, hline, hget, Option.map_some, if_neg hsoId]
    · obtain ⟨line', hget', hsame⟩ := hkept hget
      dsimp only
      rw [setLineStatus_of_other hget' (fun h => hsoId (hsame.symm.trans h)), hlineStatus,
        setLineStatus_of_other hget hsoId]

end RoundTrip

/-! ## A picked order -/

/-- A PICKED order whose line has two units picked and still says PENDING. -/
def pickedBook : OrderBook where
  store :=
    { bins := .ofRows
        [{ warehouseId := 1, binCode := "P1", binType := .pickable, pickSequence := 1 }]
      salesOrders := .ofRows
        [{ soNumber := "SO-1", soBarcode := none, status := .picked, warehouseId := 1,
           orderType := .sale, parentSoId := none, cancellationReason := none }]
      salesOrderLines := .ofRows
        [{ soId := 1, itemId := 1, lineNumber := 1, quantityOrdered := 2,
           quantityAllocated := 0, quantityPicked := 2 }] }
  lineStatus := fun _ => .pending

def pickedOrder : SalesOrder :=
  { soNumber := "SO-1", soBarcode := none, status := .picked, warehouseId := 1,
    orderType := .sale, parentSoId := none, cancellationReason := none }

def shippedBook : OrderBook :=
  match ShipOp.run pickedBook 1 pickedOrder (.recordShip none) with
  | .ok book => book
  | .error _ => pickedBook

def voidedBook : OrderBook :=
  match shippedBook.recordVoidShip 1 1 (some .picked) with
  | .ok book => book
  | .error _ => shippedBook

theorem voidShip_goesBack_pickedBook :
    ∃ fulfillment after,
      shippedBook.store.itemFulfillments.get? 1 = some fulfillment ∧
      shippedBook.recordVoidShip 1 1 fulfillment.preShipStatus = .ok after ∧
      GoesBack pickedBook after 1 pickedOrder := by
  have hship : ShipOp.run pickedBook 1 pickedOrder (.recordShip none) =
      .ok shippedBook := rfl
  exact voidShip_goesBack (by rfl) hship

/-- The line said PENDING before the ship and says PICKED after the void. -/
theorem voidShip_pending_line :
    ShipOp.run pickedBook 1 pickedOrder (.recordShip none) = .ok shippedBook ∧
      shippedBook.recordVoidShip 1 1 (some pickedOrder.status) = .ok voidedBook ∧
      ¬ GivesBack pickedBook voidedBook 1 pickedOrder := by
  refine ⟨rfl, rfl, ?_⟩
  intro hback
  have hline : pickedBook.store.salesOrderLines.get? 1 =
      some { soId := 1, itemId := 1, lineNumber := 1, quantityOrdered := 2,
             quantityAllocated := 0, quantityPicked := 2 } := rfl
  have hstatus : LineStatus.order .picked = .pending := (hback.lines hline rfl).2
  cases hstatus

end SentryWms
