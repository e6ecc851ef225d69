import SentryWms.Picking.Task

/-!
# Cancelling a batch

`full_revert_batch` and the sweep that runs it over the abandoned batches of an
operator before a new one is created.
-/

namespace SentryWms

open Relational

/-- What `full_revert_batch` returns. -/
structure RevertResult where
  batchId : ℕ
  releasedTasks : ℕ
  noop : Bool

/-! ## One task -/

def releaseBin (store : Store) (task : PickTask) : Store :=
  if 0 < task.quantityToPick then
    store.updateBin task.itemId task.binId fun row =>
      { row with
        quantityAllocated := max 0 (row.quantityAllocated - task.quantityToPick)
        updatedAt := store.now }
  else store

/-- Put picked units back into the bin, without a lot. -/
def restoreBin (store : Store) (warehouseId : ℕ) (task : PickTask) : Store :=
  if 0 < task.quantityPicked then
    (addInventory store task.itemId task.binId warehouseId task.quantityPicked
      none).1
  else store

/-- Take the task's quantities off the line it names. -/
def revertLine (store : Store) (task : PickTask) : Store :=
  match task.target.soLineId with
  | none => store
  | some soLineId =>
      if 0 < task.quantityToPick ∨ 0 < task.quantityPicked then
        { store with
          salesOrderLines := store.salesOrderLines.modify soLineId fun line =>
            { line with
              quantityPicked := max 0 (line.quantityPicked - task.quantityPicked)
              quantityAllocated :=
                max 0 (line.quantityAllocated - task.quantityToPick) } }
      else store

def Store.setTaskStatus (store : Store) (pickTaskId : ℕ) (status : TaskStatus) :
    Store :=
  { store with
    pickTasks := store.pickTasks.modify pickTaskId fun task =>
      { task with status } }

def revertTask (warehouseId : ℕ) (store : Store) (entry : ℕ × PickTask) : Store :=
  match entry.2.target with
  | .transferOrder _ _ => store
  | .salesOrder _ _ =>
      match entry.2.status with
      | .pending =>
          (revertLine (releaseBin store entry.2) entry.2).setTaskStatus entry.1
            .skipped
      | .picked =>
          (revertLine (restoreBin store warehouseId entry.2) entry.2).setTaskStatus
            entry.1 .released
      | .short =>
          (revertLine (restoreBin store warehouseId entry.2) entry.2).setTaskStatus
            entry.1 .skipped
      | .skipped => store
      | .released => store

/-- The task is unwound by `full_revert_batch`. -/
def PickTask.reverted (task : PickTask) : Bool :=
  match task.target with
  | .transferOrder _ _ => false
  | .salesOrder _ _ =>
      task.status == .pending || task.status == .picked || task.status == .short

/-! ## A batch -/

def Store.batchTasks (store : Store) (batchId : ℕ) : List (ℕ × PickTask) :=
  store.pickTasks.select fun task => task.batchId == batchId

def Store.setBatchStatus (store : Store) (batchId : ℕ) (status : BatchStatus) :
    Store :=
  { store with
    pickBatches := store.pickBatches.modify batchId fun batch =>
      { batch with status } }

def fullRevertBatch (store : Store) (batchId : ℕ) :
    Except PickError (Store × RevertResult) :=
  match store.pickBatches.get? batchId with
  | none => .error (.noSuchBatch batchId)
  | some batch =>
      if batch.status = .completed ∨ batch.status = .cancelled then
        .ok (store, { batchId, releasedTasks := 0, noop := true })
      else
        let tasks := store.batchTasks batchId
        let reverted := tasks.foldl (revertTask batch.warehouseId) store
        .ok (reverted.setBatchStatus batchId .cancelled,
          { batchId, releasedTasks := (tasks.filter fun entry =>
              entry.2.reverted).length,
            noop := false })

/-- The batch is in use: `status IN ('OPEN', 'IN_PROGRESS')`. -/
def PickBatch.active (batch : PickBatch) : Bool :=
  batch.status == .open || batch.status == .inProgress

def cancelPriorUserBatches (store : Store) (username : String) (warehouseId : ℕ) :
    Except PickError (Store × List ℕ) :=
  let prior := store.pickBatches.select fun batch =>
    batch.assignedTo == username && batch.warehouseId == warehouseId &&
      batch.active
  prior.foldlM (fun (store, cancelled) entry => do
      let (store, _) ← fullRevertBatch store entry.1
      .ok (store, cancelled ++ [entry.1]))
    (store, [])

end SentryWms
