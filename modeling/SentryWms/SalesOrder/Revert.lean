import SentryWms.Picking.Task
import SentryWms.Shipping.Ship

/-!
# Reverting the status of a sales order

`revert_sales_order_status` demotes an order and releases the picked tasks it is
told to: their units go back to the bin they came from, in the warehouse of the
order. Leaving SHIPPED clears the ship fields of the header only.
-/

namespace SentryWms

open Relational

/-! ## Refusals -/

inductive RevertNotAllowed where
  | invalidStatus (newStatus : SoStatus)
  | notFound
  | notEligible (orderType : OrderType)
  | cancelled (currentStatus : SoStatus)
  | notBackward (currentStatus targetStatus : SoStatus)
  | pickTaskMissing (missingIds : List ℕ)
  | pickTaskWrongState (wrongStateIds : List ℕ)
  | pickedQtyRemaining (remainingPicked : ℤ) (targetStatus : SoStatus)

/-! ## The ladder -/

def statusOrder : SoStatus → Option ℕ
  | .open => some 0
  | .picked => some 1
  | .packed => some 2
  | .shipped => some 3
  | _ => none

/-! ## Releasing picks -/

/-- Take a released task off the line it names; a null pointer matches no row. -/
def takeOffLine (store : Store) (task : PickTask) : Store :=
  match task.target.soLineId with
  | none => store
  | some soLineId =>
      { store with
        salesOrderLines := store.salesOrderLines.modify soLineId fun line =>
          { line with
            quantityPicked := max (line.quantityPicked - task.quantityPicked) 0
            quantityAllocated :=
              max (line.quantityAllocated - task.quantityToPick) 0 } }

def releasePick (warehouseId : ℕ) (store : Store) (entry : ℕ × PickTask) : Store :=
  (takeOffLine (restoreBin store warehouseId entry.2) entry.2).setTaskStatus entry.1
    .released

def Store.releasedTasks (store : Store) (soId : ℕ) (pickTaskIds : List ℕ) :
    List (ℕ × PickTask) :=
  store.pickTasks.entries.filter fun entry =>
    pickTaskIds.contains entry.1 &&
      match entry.2.target with
      | .salesOrder soId' _ => soId' == soId
      | .transferOrder _ _ => false

/-- Release the named tasks of an order, all of them or none. -/
def releasePicks (store : Store) (soId warehouseId : ℕ) (pickTaskIds : List ℕ) :
    Except RevertNotAllowed Store :=
  let tasks := store.releasedTasks soId pickTaskIds
  match pickTaskIds.filter fun pickTaskId =>
      !(tasks.map Prod.fst).contains pickTaskId with
  | first :: rest => .error (.pickTaskMissing (first :: rest))
  | [] =>
      match tasks.filter fun entry => entry.2.status != .picked with
      | first :: rest =>
          .error (.pickTaskWrongState ((first :: rest).map Prod.fst))
      | [] => .ok (tasks.foldl (releasePick warehouseId) store)

def Store.pickedUnits (store : Store) (soId : ℕ) : ℤ :=
  store.salesOrderLines.total fun _ line =>
    if line.soId == soId then line.quantityPicked else 0

/-! ## The revert -/

/-- `UPDATE sales_order_lines SET quantity_packed = 0`. -/
def unpackLines (store : Store) (soId : ℕ) : Store :=
  { store with
    salesOrderLines := store.salesOrderLines.updateWhere
      (fun line => line.soId == soId && decide (0 < line.quantityPacked))
      fun line => { line with quantityPacked := 0 } }

/-- Clear the ship fields of the header. -/
def unshipHeader (store : Store) (soId : ℕ) : Store :=
  { store with
    salesOrders := store.salesOrders.modify soId fun order =>
      { order with shippedAt := none } }

/-- Demote the order once its picks are released; the indices are those of its
status and of the new one. -/
def demote (store : Store) (soId : ℕ) (order : SalesOrder) (curIdx newIdx : ℕ)
    (newStatus : SoStatus) : Store :=
  let needUnpack := decide (2 ≤ curIdx ∧ newIdx < 2)
  let needUnship := order.status == .shipped && newStatus != .shipped
  let unpacked := if needUnpack then unpackLines store soId else store
  let unshipped := if needUnship then unshipHeader unpacked soId else unpacked
  if newStatus ≠ order.status then unshipped.setOrderStatus soId newStatus
  else unshipped

def revertSalesOrderStatus (store : Store) (soId : ℕ) (newStatus : SoStatus)
    (releasePickTaskIds : List ℕ) : Except RevertNotAllowed Store :=
  match statusOrder newStatus with
  | none => .error (.invalidStatus newStatus)
  | some newIdx =>
      match store.salesOrders.get? soId with
      | none => .error .notFound
      | some order =>
          if ¬ orderTypeAllowsFulfillmentOps order.orderType then
            .error (.notEligible order.orderType)
          else if order.status = .cancelled then .error (.cancelled order.status)
          else
            match statusOrder order.status with
            | none => .error (.notBackward order.status newStatus)
            | some curIdx =>
                if curIdx < newIdx then
                  .error (.notBackward order.status newStatus)
                else do
                  let released ← releasePicks store soId order.warehouseId
                    releasePickTaskIds.dedup
                  if newIdx < 1 ∧ 0 < released.pickedUnits soId then
                    .error (.pickedQtyRemaining (released.pickedUnits soId) newStatus)
                  else .ok (demote released soId order curIdx newIdx newStatus)

end SentryWms
