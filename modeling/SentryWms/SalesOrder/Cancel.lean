import SentryWms.Core.Numeral
import SentryWms.Core.Transition
import SentryWms.Picking.Task

/-!
# Cancelling a sales order

`cancel_sales_order` unwinds an order by its status. An OPEN order gives back what
the pending tasks of its lines reserve; a PICKED or PACKED one returns its picked
units to the receiving bin. The live backorders of an order are cancelled with it.
-/

namespace SentryWms

open Relational Transition

/-- Why an order is not cancelled. The last three are exceptions of the database or
of the deployment. -/
inductive CancelError where
  | notFound
  | shipped
  | receivingBinMissing
  | receivingBinInvalid (value : String)
  | breakdownReferencesTask (pickTaskId : ℕ)

/-- What `cancel_sales_order` returns. -/
structure CancelResult where
  preStatus : SoStatus
  soNumber : String

/-! ## OPEN orders -/

def Store.pendingTasksOf (store : Store) (soLineId : ℕ) : List (ℕ × PickTask) :=
  store.pickTasks.select fun task =>
    task.target.soLineId == some soLineId && task.status == .pending

def releaseTask (itemId : ℕ) (store : Store) (task : ℕ × PickTask) : Store :=
  store.updateBin itemId task.2.binId fun row =>
    { row with
      quantityAllocated := row.quantityAllocated - task.2.quantityToPick }

def unwindLine (store : Store) (line : ℕ × SalesOrderLine) : Store :=
  let released :=
    (store.pendingTasksOf line.1).foldl (releaseTask line.2.itemId) store
  { released with
    salesOrderLines := released.salesOrderLines.modify line.1 fun line =>
      { line with quantityAllocated := 0 } }

/-- The row condition `so_id = :sid`. -/
def PickTask.ofOrder (soId : ℕ) (task : PickTask) : Bool :=
  match task.target with
  | .salesOrder soId' _ => soId' == soId
  | .transferOrder _ _ => false

/-- A breakdown row that references a task of the order; `wave_pick_breakdown`
keeps such a task from being deleted. -/
def Store.brokenDownTask (store : Store) (soId : ℕ) : Option ℕ :=
  (store.wavePickBreakdown.entries.find? fun row =>
    (store.pickTasks.get? row.2.pickTaskId).any (PickTask.ofOrder soId)).map
      fun row => row.2.pickTaskId

/-- `DELETE FROM pick_tasks` and `DELETE FROM pick_batch_orders` of an order. -/
def deleteAllocation (store : Store) (soId : ℕ) : Except CancelError Store :=
  match store.brokenDownTask soId with
  | some pickTaskId => .error (.breakdownReferencesTask pickTaskId)
  | none =>
      .ok { store with
        pickTasks := store.pickTasks.deleteWhere (PickTask.ofOrder soId)
        pickBatchOrders := store.pickBatchOrders.deleteWhere fun row =>
          row.soId == soId }

def Store.allocatedLines (store : Store) (soId : ℕ) : List (ℕ × SalesOrderLine) :=
  store.salesOrderLines.select fun line =>
    line.soId == soId && decide (0 < line.quantityAllocated)

def unwindAllocated (store : Store) (soId : ℕ) : Except CancelError Store :=
  deleteAllocation ((store.allocatedLines soId).foldl unwindLine store) soId

/-! ## PICKED and PACKED orders -/

/-- `int(value)` of a setting that holds an id; a negative number is none. -/
def settingId (value : String) : Option ℕ :=
  (PyText.parseInt value).bind fun id => if id < 0 then none else some id.toNat

def getDefaultReceivingBin (store : Store) : Except CancelError ℕ :=
  match store.appSettings.lookup "default_receiving_bin" with
  | none => .error .receivingBinMissing
  | some value =>
      if value = "" then .error .receivingBinMissing
      else
        match settingId value with
        | none => .error (.receivingBinInvalid value)
        | some binId => .ok binId

def restoreLine (receivingBinId warehouseId : ℕ) (store : Store)
    (line : ℕ × SalesOrderLine) : Store :=
  let restored := (addInventory store line.2.itemId receivingBinId warehouseId
    line.2.quantityPicked none).1
  { restored with
    salesOrderLines := restored.salesOrderLines.modify line.1 fun line =>
      { line with quantityPicked := 0, quantityPacked := 0 } }

def unwindPickedOrPacked (store : Store) (soId warehouseId : ℕ) :
    Except CancelError Store := do
  let receivingBinId ← getDefaultReceivingBin store
  let restored := (store.salesOrderLines.select fun line =>
    line.soId == soId && decide (0 < line.quantityPicked)).foldl
      (restoreLine receivingBinId warehouseId) store
  .ok { restored with
    pickBatchOrders := restored.pickBatchOrders.deleteWhere fun row =>
      row.soId == soId }

/-! ## The order and its backorders -/

def unwind (store : Store) (soId : ℕ) (order : SalesOrder) : Except CancelError Store :=
  match order.status with
  | .open => unwindAllocated store soId
  | .picked => unwindPickedOrPacked store soId order.warehouseId
  | .packed => unwindPickedOrPacked store soId order.warehouseId
  | _ => .ok store

/-- `cancel_sales_order` up to the cascade; an order that is CANCELLED already is
left as it is. -/
def cancelOrder (store : Store) (soId : ℕ) :
    Except CancelError (Store × SalesOrder) :=
  match store.salesOrders.get? soId with
  | none => .error .notFound
  | some order =>
      match order.status with
      | .shipped => .error .shipped
      | .cancelled => .ok (store, order)
      | _ => do
          let unwound ← unwind store soId order
          .ok ({ unwound with
            salesOrders := unwound.salesOrders.modify soId fun order =>
              { order with status := .cancelled } }, order)

def Store.liveBackorders (store : Store) (soId : ℕ) : List (ℕ × SalesOrder) :=
  store.salesOrders.select fun order =>
    order.parentSoId == some soId && order.orderType == .backorder &&
      order.status != .cancelled && order.status != .shipped

/-- Cancel a backorder with its parent. It has no cascade of its own. -/
def cancelBackorder (store : Store) (child : ℕ × SalesOrder) :
    Except CancelError Store := do
  let stamped : Store :=
    { store with
      salesOrders := store.salesOrders.modify child.1 fun order =>
        { order with cancellationReason := some "parent_cancelled" } }
  let (cancelled, _) ← cancelOrder stamped child.1
  .ok cancelled

def cancelSalesOrder (store : Store) (soId : ℕ) :
    Except CancelError (Store × CancelResult) := do
  let (store, order) ← cancelOrder store soId
  let result := { preStatus := order.status, soNumber := order.soNumber }
  if order.status = .cancelled ∨ order.orderType = .backorder then
    .ok (store, result)
  else
    let store ← (store.liveBackorders soId).foldlM cancelBackorder store
    .ok (store, result)

end SentryWms
