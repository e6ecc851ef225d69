import SentryWms.Store.Inventory
import SentryWms.TransferOrder.Picks

/-!
# Picking a task

`confirm_pick` and `short_pick` of `picking_service.py`. A task of a wave serves
the lines in its breakdown, a standard task the line it names. A pick of a
transfer-order line leaves the stock alone.
-/

namespace SentryWms

open Relational

/-! ## Lines and breakdowns -/

/-- Raise `quantity_picked` of an order line; a null pointer matches no row. -/
def Store.bumpPicked (store : Store) (soLineId : Option ℕ) (quantity : ℤ) : Store :=
  match soLineId with
  | none => store
  | some soLineId =>
      { store with
        salesOrderLines := store.salesOrderLines.modify soLineId fun line =>
          { line with quantityPicked := line.quantityPicked + quantity } }

def Store.breakdown (store : Store) (pickTaskId : ℕ) :
    List (ℕ × WavePickBreakdown) :=
  orderBy (fun entry => entry.2.soId)
    (store.wavePickBreakdown.select fun row => row.pickTaskId == pickTaskId)

def Store.recordBreakdown (store : Store) (breakdownId : ℕ)
    (change : WavePickBreakdown → WavePickBreakdown) (soLineId : Option ℕ)
    (quantity : ℤ) : Store :=
  Store.bumpPicked
    { store with
      wavePickBreakdown := store.wavePickBreakdown.modify breakdownId change }
    soLineId quantity

def Store.pendingTask (store : Store) (pickTaskId : ℕ) : Except PickError PickTask :=
  match store.pickTasks.get? pickTaskId with
  | none => .error .taskNotFound
  | some task =>
      if task.status ≠ .pending then .error (.taskNotPending task.status)
      else .ok task

/-- Take picked units and the task's reservation out of the bin, floored at zero
in every lot row. -/
def Store.consume (store : Store) (task : PickTask) (picked : ℤ) : Store :=
  store.updateBin task.itemId task.binId fun row =>
    { row with
      quantityOnHand := max 0 (row.quantityOnHand - picked)
      quantityAllocated := max 0 (row.quantityAllocated - task.quantityToPick)
      updatedAt := store.now }

/-! ## Confirming a pick -/

def barcodeMatches (scanned : String) (item : Item) : Bool :=
  item.upc == some scanned || item.barcodeAliases.contains scanned

def confirmLines (store : Store) (pickTaskId : ℕ) (soLineId : Option ℕ)
    (quantityPicked : ℤ) : Store :=
  match store.breakdown pickTaskId with
  | [] => store.bumpPicked soLineId quantityPicked
  | first :: rest =>
      -- The whole breakdown counts as picked, whatever quantity was confirmed.
      (first :: rest).foldl (fun store entry =>
        store.recordBreakdown entry.1
          (fun row => { row with quantityPicked := row.quantity })
          entry.2.soLineId entry.2.quantity) store

def confirmPick (store : Store) (pickTaskId : ℕ) (scannedBarcode : String)
    (quantityPicked : ℤ) : Except PickError Store := do
  let task ← store.pendingTask pickTaskId
  if task.quantityToPick < quantityPicked then
    .error (.overTask quantityPicked task.quantityToPick)
  else
    match store.items.get? task.itemId with
    | none => .error (.itemMissing task.itemId)
    | some item =>
        if !barcodeMatches scannedBarcode item then
          .error (.barcodeMismatch item.sku)
        else
          let picked : Store :=
            { store with
              pickTasks := store.pickTasks.modify pickTaskId fun task =>
                { task with status := .picked, quantityPicked } }
          match task.target with
          | .transferOrder toId toLineId => do
              let (picked, _) ←
                updateTransferOrderLinePicked picked toLineId quantityPicked
              .ok (maybePromoteHeaderToPartiallyPicked picked toId)
          | .salesOrder _ soLineId =>
              .ok ((confirmLines picked pickTaskId soLineId quantityPicked).consume
                task quantityPicked)

/-! ## Picking short -/

def shortBreakdown : Store → ℤ → List (ℕ × WavePickBreakdown) → Store
  | store, _, [] => store
  | store, remainingToGive, (breakdownId, row) :: rest =>
      let give := min remainingToGive row.quantity
      shortBreakdown
        (store.recordBreakdown breakdownId
          (fun row =>
            { row with
              quantityPicked := give, shortQuantity := row.quantity - give })
          row.soLineId (max 0 give))
        (remainingToGive - give) rest

def shortLines (store : Store) (pickTaskId : ℕ) (soLineId : Option ℕ)
    (quantityAvailable : ℤ) : Store :=
  match store.breakdown pickTaskId with
  | [] => store.bumpPicked soLineId quantityAvailable
  | first :: rest => shortBreakdown store quantityAvailable (first :: rest)

/-- The sales-order line a task names. -/
def PickTarget.soLineId : PickTarget → Option ℕ
  | .salesOrder _ soLineId => soLineId
  | .transferOrder _ _ => none

/-- `short_pick`. It has no branch for transfer orders: the stock of their tasks
is taken out too. -/
def shortPick (store : Store) (pickTaskId : ℕ) (quantityAvailable : ℤ) :
    Except PickError Store := do
  let task ← store.pendingTask pickTaskId
  if task.quantityToPick < quantityAvailable then
    .error (.availableOverTask quantityAvailable task.quantityToPick)
  else
    let shorted : Store :=
      { store with
        pickTasks := store.pickTasks.modify pickTaskId fun task =>
          { task with status := .short, quantityPicked := quantityAvailable } }
    .ok (shortLines (shorted.consume task quantityAvailable) pickTaskId
      task.target.soLineId quantityAvailable)

end SentryWms
