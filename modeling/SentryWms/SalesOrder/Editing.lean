import SentryWms.Picking.Batch
import SentryWms.Picking.Errors
import SentryWms.Pos.Checkout
import SentryWms.SalesOrder.Cancel

/-!
# Editing a sales order

The routes of `admin_orders.py` that split an order into what ships and a backorder, and
that step the reservation of a line. A line reserves from the fullest rows of its warehouse,
without pick tasks.
-/

namespace SentryWms

open Relational

/-- Why an edit is rejected. `soNumberTaken` and `receiptReferencesLine` are exceptions of
the database. -/
inductive EditError where
  | orderNotFound
  | orderLineNotFound
  | notPartialFulfillable (status : SoStatus)
  | returnOrder
  | backorderOrder
  | partialFulfillNeedsOverride
  | lineNotOnOrder (soLineId : ℕ) (soNumber : String)
  | shortOverUnshipped (shortQty lineNumber quantityOrdered quantityPicked : ℤ)
  | soNumberTaken (soNumber : String)
  | receiptReferencesLine (soLineId : ℕ)
deriving DecidableEq

/-- `UPDATE sales_order_lines SET quantity_allocated = :q`. -/
def SalesOrderLine.setAllocated (quantityAllocated : ℤ) (line : SalesOrderLine) :
    SalesOrderLine :=
  { line with quantityAllocated }

/-- `UPDATE sales_order_lines SET quantity_ordered = :qty`. -/
def SalesOrderLine.setOrdered (quantityOrdered : ℤ) (line : SalesOrderLine) :
    SalesOrderLine :=
  { line with quantityOrdered }

/-! ## Reserving from the fullest rows -/

def holdUnits (now : ℕ) (quantity : ℤ) (row : Inventory) : Inventory :=
  { row with
    quantityAllocated := row.quantityAllocated + quantity, updatedAt := now }

/-- The rows of an item in a warehouse that have units left, fullest first. -/
def Store.freeRows (store : Store) (itemId warehouseId : ℕ) : List (ℕ × ℤ) :=
  (orderBy (fun entry => toLex (-entry.2.available, entry.1))
    (store.inventory.select fun row =>
      row.inWarehouse itemId warehouseId &&
        decide (row.quantityAllocated < row.quantityOnHand))).map
    fun entry => (entry.1, entry.2.available)

/-- Reserve what can be had of a demand, and add it to the line's reservation. -/
def Store.reserveFree (store : Store) (soLineId itemId warehouseId : ℕ)
    (current demand : ℤ) : Store :=
  let draws := takes demand (store.freeRows itemId warehouseId)
  if supply draws = 0 then store
  else
    { store with
      inventory := store.inventory.applyTakes (holdUnits store.now) draws
      salesOrderLines := store.salesOrderLines.modify soLineId
        (SalesOrderLine.setAllocated (current + supply draws)) }

/-! ## Lines -/

/-- The row of a line that is not reserved yet. -/
def orderedLine (soId itemId : ℕ) (lineNumber quantityOrdered : ℤ) : SalesOrderLine where
  soId := soId
  itemId := itemId
  lineNumber := lineNumber
  quantityOrdered := quantityOrdered
  quantityAllocated := 0
  quantityPicked := 0

/-- Load a line of an order; the query joins the item. -/
def Store.lineOfOrder (store : Store) (soId soLineId : ℕ) : Option SalesOrderLine :=
  (store.salesOrderLines.get? soLineId).filter fun line =>
    line.soId == soId && (store.items.get? line.itemId).isSome

def PickTarget.forget (soLineId : ℕ) : PickTarget → PickTarget
  | .salesOrder soId soLineId' =>
      .salesOrder soId (soLineId'.filter fun soLineId' => soLineId' != soLineId)
  | .transferOrder toId toLineId => .transferOrder toId toLineId

/-- `DELETE FROM sales_order_lines`: tasks and breakdown rows lose their pointer to
the line, a receipt keeps it from being deleted. -/
def Store.deleteLine (store : Store) (soLineId : ℕ) : Except EditError Store :=
  if store.itemReceipts.entries.any fun entry =>
      match entry.2.source with
      | .salesOrder _ soLineId' => soLineId' == soLineId
      | .purchaseOrder _ _ => false then
    .error (.receiptReferencesLine soLineId)
  else
    .ok { store with
      salesOrderLines := store.salesOrderLines.delete soLineId
      pickTasks := store.pickTasks.mapRows fun _ task =>
        { task with target := task.target.forget soLineId }
      wavePickBreakdown := store.wavePickBreakdown.mapRows fun _ row =>
        { row with
          soLineId := row.soLineId.filter fun soLineId' => soLineId' != soLineId } }

/-! ## Splitting off a backorder -/

/-- A shorted line of the request. -/
structure PartialFulfillLineEntry where
  soLineId : ℕ
  shortQty : ℤ
  shortPos : 0 < shortQty

/-- The order may be split. -/
def partialFulfillGate (fullEdit : Bool) (order : SalesOrder) : Except EditError Unit :=
  if order.status ≠ .open ∧ order.status ≠ .picked then
    .error (.notPartialFulfillable order.status)
  else if order.orderType = .return then .error .returnOrder
  else if order.orderType = .backorder then .error .backorderOrder
  else if order.status = .picked ∧ !fullEdit then .error .partialFulfillNeedsOverride
  else .ok ()

def checkShort (store : Store) (soId : ℕ) (order : SalesOrder)
    (entry : PartialFulfillLineEntry) :
    Except EditError (PartialFulfillLineEntry × SalesOrderLine) :=
  match store.lineOfOrder soId entry.soLineId with
  | none => .error (.lineNotOnOrder entry.soLineId order.soNumber)
  | some line =>
      if line.quantityOrdered - line.quantityPicked < entry.shortQty then
        .error (.shortOverUnshipped entry.shortQty line.lineNumber line.quantityOrdered
          line.quantityPicked)
      else .ok (entry, line)

/-- `_write_short_adjustment`: the shorted units leave the fullest bin, in every lot
row. -/
def writeShortAdjustment (store : Store) (itemId warehouseId : ℕ) (shortQty : ℤ) : Store :=
  match orderBy (fun entry => toLex (-entry.2.available, entry.2.binId))
      (store.inventory.select fun row =>
        row.inWarehouse itemId warehouseId && decide (0 < row.available)) with
  | [] => store
  | (_, row) :: _ =>
      store.updateBin itemId row.binId fun row' =>
        { row' with
          quantityOnHand := max 0 (row'.quantityOnHand - min row.available shortQty)
          updatedAt := store.now }

/-- Shrink one line, or delete it when nothing of it is left. -/
def shrinkLine (warehouseId : ℕ) (store : Store)
    (short : PartialFulfillLineEntry × SalesOrderLine) : Except EditError Store := do
  let quantityOrdered := short.2.quantityOrdered - short.1.shortQty
  let shrunk ←
    if quantityOrdered = 0 then store.deleteLine short.1.soLineId
    else
      .ok { store with
        salesOrderLines := store.salesOrderLines.modify short.1.soLineId
          (SalesOrderLine.setOrdered quantityOrdered) }
  .ok (writeShortAdjustment shrunk short.2.itemId warehouseId short.1.shortQty)

def SalesOrder.backorder (order : SalesOrder) (soId now : ℕ) : SalesOrder where
  soNumber := order.soNumber ++ "-BO"
  soBarcode := none
  status := .waitingStock
  warehouseId := order.warehouseId
  orderType := .backorder
  parentSoId := some soId
  cancellationReason := none
  createdAt := now

def openBackorder (store : Store) (soId : ℕ) (order : SalesOrder)
    (shorts : List (PartialFulfillLineEntry × SalesOrderLine)) : Except EditError Store :=
  let backorder := order.backorder soId store.now
  if store.soNumberTaken backorder.soNumber then .error (.soNumberTaken backorder.soNumber)
  else
    .ok (shorts.zipIdx.foldl (fun store' short =>
        store'.insertLine (orderedLine store.salesOrders.next short.1.2.itemId
          (short.2 + 1) short.1.1.shortQty))
      { store with salesOrders := store.salesOrders.insert backorder })

def partialFulfillSalesOrder (store : Store) (fullEdit : Bool) (soId : ℕ)
    (lines : List PartialFulfillLineEntry) : Except EditError Store :=
  match store.salesOrders.get? soId with
  | none => .error .orderNotFound
  | some order => do
      partialFulfillGate fullEdit order
      let shorts ← lines.mapM (checkShort store soId order)
      let shrunk ← shorts.foldlM (shrinkLine order.warehouseId) store
      openBackorder shrunk soId order shorts

/-! ## Stepping a reservation -/

/-- `adjust_sales_order_line_allocation`. A raise that finds no free stock changes
nothing. -/
def adjustLineAllocation (store : Store) (soId soLineId : ℕ) (delta : ℤ) :
    Except EditError Store :=
  match (store.salesOrderLines.get? soLineId).filter fun line => line.soId == soId,
      store.salesOrders.get? soId with
  | some line, some order =>
      let current := line.quantityAllocated
      let target := max line.quantityPicked (min line.quantityOrdered (current + delta))
      if target = current then .ok store
      else if current < target then
        .ok (store.reserveFree soLineId line.itemId order.warehouseId current
          (target - current))
      else
        .ok { store with
          inventory := store.inventory.applyTakes (releaseUnits store.now)
            (takes (current - target) (store.reservedRows line.itemId order.warehouseId))
          salesOrderLines := store.salesOrderLines.modify soLineId
            (SalesOrderLine.setAllocated target) }
  | _, _ => .error .orderLineNotFound

end SentryWms
