import SentryWms.Picking.TakenOut
import SentryWms.Receiving.FiledAtHome
import SentryWms.TransferOrder.Runs

/-!
# Where a transfer moves stock

Stock of a transfer order is to stay where it is until an approval moves it from the
source to the destination. A confirmed pick counts the units on the line and nothing
else. A short pick treats the task like one of a sales order: it takes the units out of
the bin and leaves the line alone. An approval moves what its snapshot says, and the
destination gets it where its receiving place is filed under it.
-/

namespace SentryWms

open Relational Transition

variable {store after : Store}

/-! ## Where stock put in is filed -/

def movedUnits (snapshot : List SnapshotLine) (itemId : ℕ) : ℤ :=
  (snapshot.map fun snap =>
    if snap.itemId = itemId then max 0 snap.pickedInSnapshot else 0).sum

variable {snapshot : List SnapshotLine}

variable {header : TransferOrder}

/-- Picking a task of a transfer order, and approving what was picked. -/
inductive TransferOp where
  | confirmPick (pickTaskId : ℕ) (scannedBarcode : String) (quantity : ℤ)
  | shortPick (pickTaskId : ℕ) (quantity : ℤ)
  | approve (toId approvalId : ℕ) (username : String)

/-- Run the operation, if it is not refused. -/
def TransferOp.run (store : Store) : TransferOp → Option Store
  | .confirmPick pickTaskId scannedBarcode quantity =>
      (SentryWms.confirmPick store pickTaskId scannedBarcode quantity).toOption
  | .shortPick pickTaskId quantity =>
      (SentryWms.shortPick store pickTaskId quantity).toOption
  | .approve toId approvalId username =>
      (approveTransferOrderApproval store toId approvalId username).toOption

/-- A pending task of a transfer-order line. -/
structure TransferTask (store : Store) (pickTaskId : ℕ) (task : PickTask)
    (toLineId : ℕ) (line : TransferOrderLine) : Prop where
  pending : store.pendingTask pickTaskId = .ok task
  target : ∃ toId, task.target = .transferOrder toId (some toLineId)
  line : store.transferOrderLines.get? toLineId = some line

structure LeavesStock (store after : Store) (pickTaskId toLineId : ℕ)
    (line : TransferOrderLine) : Prop where
  inventory : after.inventory = store.inventory
  counted : ∃ task line', after.pickTasks.get? pickTaskId = some task ∧
    after.transferOrderLines.get? toLineId = some line' ∧
    line'.pickedQty = line.pickedQty + task.quantityPicked

/-- The source loses and the destination gains the units of the snapshot. -/
structure MovesSnapshot (store after : Store) (header : TransferOrder)
    (snapshot : List SnapshotLine) : Prop where
  source : ∀ itemId, after.warehouseOnHand itemId header.sourceWarehouseId =
    store.warehouseOnHand itemId header.sourceWarehouseId - movedUnits snapshot itemId
  destination : ∀ itemId,
    after.warehouseOnHand itemId header.destinationWarehouseId =
      store.warehouseOnHand itemId header.destinationWarehouseId +
        movedUnits snapshot itemId

/-- Stock is moved by an approval only, and by what its snapshot says. -/
def TransferOp.Faithful (store after : Store) : TransferOp → Prop
  | .confirmPick pickTaskId _ _ | .shortPick pickTaskId _ =>
      ∀ ⦃task toLineId line⦄, TransferTask store pickTaskId task toLineId line →
        LeavesStock store after pickTaskId toLineId line
  | .approve toId approvalId _ =>
      ∀ ⦃approval header⦄, store.approval toId approvalId = .ok approval →
        store.transferOrders.get? toId = some header →
        MovesSnapshot store after header approval.linesSnapshot

/-- A row that a short pick of nothing leaves as it is. -/
def Inventory.settled (now : ℕ) (quantityToPick : ℤ) (row : Inventory) : Prop :=
  0 ≤ row.quantityOnHand ∧
    row.quantityAllocated = max 0 (row.quantityAllocated - quantityToPick) ∧
    row.updatedAt = now

section Faithful

variable {pickTaskId toLineId : ℕ} {quantity : ℤ} {task : PickTask}
  {line : TransferOrderLine}

end Faithful

/-! ## A task for three units -/

end SentryWms
