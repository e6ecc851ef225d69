import SentryWms.Picking.WaveCredit
import SentryWms.Receiving.Cancel
import SentryWms.SalesOrder.AdminPick
import SentryWms.Store.Stock

/-!
# What is taken out of stock

Picks and cancelled receipts update the stock of a bin by item and bin, so every lot
row of the item there is updated, each by the whole quantity and some of them down to
zero only. This module computes what the item loses in all.
-/

namespace SentryWms

open Relational Transition

/-! ## Stock of an item -/

/-- What the rows that satisfy a condition hold, each counted up to a quantity. -/
def Store.countedUpTo (store : Store) (quantity : ℤ) (cond : Inventory → Bool) : ℤ :=
  store.stock cond fun row => min row.quantityOnHand quantity

/-- How many rows satisfy a condition. -/
def Store.rowCount (store : Store) (cond : Inventory → Bool) : ℕ :=
  (store.inventory.select cond).length

section Updates

variable {store : Store} {itemId : ℕ} {cond : Inventory → Bool}

theorem onHand_updateWhere {change : Inventory → Inventory}
    (hcond : ∀ row, cond row = true → row.itemId = itemId)
    (hchange : ∀ row, (change row).itemId = row.itemId) :
    Store.onHand { store with inventory := store.inventory.updateWhere cond change }
        itemId =
      store.onHand itemId -
        store.stock cond fun row =>
          row.quantityOnHand - (change row).quantityOnHand := by
  unfold Store.onHand Store.stock Table.updateWhere
  dsimp only
  rw [Table.total_mapRows, ← Table.total_sub]
  apply Table.total_congr
  intro key row _
  by_cases hrow : cond row = true
  · simp [hrow, hchange, hcond row hrow]
  · simp [hrow]

theorem sub_floor (onHand quantity : ℤ) :
    onHand - max 0 (onHand - quantity) = min onHand quantity := by
  omega

theorem stock_const (store : Store) (cond : Inventory → Bool) (quantity : ℤ) :
    (store.stock cond fun _ => quantity) = store.rowCount cond * quantity := by
  rw [Store.stock, ← Table.total_select store.inventory cond fun _ _ => quantity]
  simp [Store.rowCount]

theorem consume_onHand (store : Store) (task : PickTask) (quantity : ℤ) :
    (store.consume task quantity).onHand task.itemId =
      store.onHand task.itemId -
        store.countedUpTo quantity (Inventory.inBin task.itemId task.binId) := by
  have hcond : ∀ row, Inventory.inBin task.itemId task.binId row = true →
      row.itemId = task.itemId := fun row hrow => (inBin_iff.mp hrow).1
  rw [Store.consume, Store.updateBin, onHand_updateWhere hcond]
  · simp only [sub_floor, Store.countedUpTo]
  · intro row
    rfl

theorem takeAvailable_onHand (store : Store) (itemId binId : ℕ) (quantity : ℤ) :
    (store.takeAvailable itemId binId quantity).onHand itemId =
      store.onHand itemId -
        store.rowCount (Inventory.offers itemId binId quantity) * quantity := by
  have hcond : ∀ row, Inventory.offers itemId binId quantity row = true →
      row.itemId = itemId := fun row hrow =>
    (inBin_iff.mp (Bool.and_eq_true _ _ ▸ hrow).1).1
  rw [Store.takeAvailable, onHand_updateWhere hcond]
  · simp only [sub_sub_cancel, stock_const]
  · intro row
    rfl

theorem reverseStock_onHand (store : Store) (itemId binId warehouseId : ℕ)
    (quantity : ℤ) :
    (store.reverseStock itemId binId warehouseId quantity).onHand itemId =
      store.onHand itemId -
        store.countedUpTo quantity (Inventory.inBinOf itemId binId warehouseId) := by
  have hcond : ∀ row, Inventory.inBinOf itemId binId warehouseId row = true →
      row.itemId = itemId := fun row hrow =>
    (inBin_iff.mp (Bool.and_eq_true _ _ ▸ hrow).1).1
  rw [Store.reverseStock, onHand_updateWhere hcond]
  · simp only [sub_floor, Store.countedUpTo]
  · intro row
    rfl

end Updates

/-! ## What the loops leave alone -/

theorem bumpPicked_writes (store : Store) (named : Option ℕ) (quantity : ℤ) :
    ∃ salesOrderLines, store.bumpPicked named quantity = { store with salesOrderLines } := by
  cases named <;> exact ⟨_, rfl⟩

theorem recordBreakdown_writes (store : Store) (breakdownId : ℕ)
    (change : WavePickBreakdown → WavePickBreakdown) (named : Option ℕ) (quantity : ℤ) :
    ∃ salesOrderLines wavePickBreakdown,
      store.recordBreakdown breakdownId change named quantity =
        { store with salesOrderLines, wavePickBreakdown } := by
  obtain ⟨salesOrderLines, hbump⟩ := bumpPicked_writes { store with
    wavePickBreakdown := store.wavePickBreakdown.modify breakdownId change } named quantity
  exact ⟨salesOrderLines, _, hbump⟩

theorem foldl_recordBreakdown_writes (rows : List (ℕ × WavePickBreakdown))
    (store : Store) :
    ∃ salesOrderLines wavePickBreakdown,
      (rows.foldl (fun store entry =>
        store.recordBreakdown entry.1 (fun row => { row with quantityPicked := row.quantity })
          entry.2.soLineId entry.2.quantity) store) =
        { store with salesOrderLines, wavePickBreakdown } := by
  induction rows generalizing store with
  | nil => exact ⟨store.salesOrderLines, store.wavePickBreakdown, rfl⟩
  | cons row rows ih =>
      obtain ⟨_, _, hrecord⟩ := recordBreakdown_writes store row.1
        (fun row => { row with quantityPicked := row.quantity }) row.2.soLineId
        row.2.quantity
      rw [List.foldl_cons, hrecord]
      exact ih _

theorem confirmLines_writes (store : Store) (pickTaskId : ℕ) (soLineId : Option ℕ)
    (quantity : ℤ) :
    ∃ salesOrderLines wavePickBreakdown,
      confirmLines store pickTaskId soLineId quantity =
        { store with salesOrderLines, wavePickBreakdown } := by
  unfold confirmLines
  split
  · obtain ⟨salesOrderLines, hbump⟩ := bumpPicked_writes store soLineId quantity
    exact ⟨salesOrderLines, store.wavePickBreakdown, hbump⟩
  · exact foldl_recordBreakdown_writes _ _

theorem shortBreakdown_writes (rows : List (ℕ × WavePickBreakdown)) (store : Store)
    (remaining : ℤ) :
    ∃ salesOrderLines wavePickBreakdown, shortBreakdown store remaining rows =
      { store with salesOrderLines, wavePickBreakdown } := by
  induction rows generalizing store remaining with
  | nil => exact ⟨store.salesOrderLines, store.wavePickBreakdown, rfl⟩
  | cons row rows ih =>
      obtain ⟨_, _, hrecord⟩ := recordBreakdown_writes store row.1
        (fun row' =>
          { row' with
            quantityPicked := min remaining row.2.quantity
            shortQuantity := row'.quantity - min remaining row.2.quantity })
        row.2.soLineId (max 0 (min remaining row.2.quantity))
      rw [shortBreakdown, hrecord]
      exact ih _ _

theorem shortLines_writes (store : Store) (pickTaskId : ℕ) (soLineId : Option ℕ)
    (quantity : ℤ) :
    ∃ salesOrderLines wavePickBreakdown,
      shortLines store pickTaskId soLineId quantity =
        { store with salesOrderLines, wavePickBreakdown } := by
  unfold shortLines
  split
  · obtain ⟨salesOrderLines, hbump⟩ := bumpPicked_writes store soLineId quantity
    exact ⟨salesOrderLines, store.wavePickBreakdown, hbump⟩
  · exact shortBreakdown_writes _ _ _

@[simp]
theorem updatePoLine_inventory (store : Store) (poLineId : Option ℕ)
    (change : PurchaseOrderLine → PurchaseOrderLine) :
    (store.updatePoLine poLineId change).inventory = store.inventory := by
  cases poLineId <;> rfl

theorem onHand_congr {store store' : Store} (hinventory : store.inventory = store'.inventory)
    (itemId : ℕ) : store.onHand itemId = store'.onHand itemId := by
  rw [Store.onHand, Store.stock, hinventory, Store.onHand, Store.stock]

theorem adminPickEntry_spec {soId batchId : ℕ} {lines : List (ℕ × SalesOrderLine)}
    {state after : Store × ℤ} {pick : AdminPickEntry}
    (hpick : adminPickEntry soId batchId lines state pick = .ok after) :
    ∃ line, lines.lookup pick.soLineId = some line ∧
      (state.1.inventory.entries.any fun entry =>
        entry.2.offers line.itemId pick.binId pick.quantity) = true ∧
      after =
        ({ state.1.takeAvailable line.itemId pick.binId pick.quantity with
            salesOrderLines := state.1.salesOrderLines.modify pick.soLineId
              (SalesOrderLine.adminPick pick.quantity)
            pickTasks := state.1.pickTasks.insert
              { batchId, target := .salesOrder soId (some pick.soLineId),
                itemId := line.itemId, binId := pick.binId,
                quantityToPick := pick.quantity, quantityPicked := pick.quantity,
                pickSequence := state.2, toteNumber := none, status := .picked } },
          state.2 + 1) := by
  unfold adminPickEntry at hpick
  split at hpick
  next => cases hpick
  next line hline =>
    dsimp only at hpick
    split at hpick
    next hoffers =>
      exact ⟨line, hline, hoffers, (Except.ok.inj hpick).symm⟩
    next => cases hpick

/-! ## The operations -/

/-- The operations that take stock out: a pick confirmed or short, an entry of an admin
pick, a receipt of a cancellation. -/
inductive StockOp where
  | confirmPick (pickTaskId : ℕ) (scannedBarcode : String) (quantity : ℤ)
  | shortPick (pickTaskId : ℕ) (quantity : ℤ)
  | adminPickEntry (soId batchId : ℕ) (lines : List (ℕ × SalesOrderLine)) (seq : ℤ)
      (pick : AdminPickEntry)
  | cancelReceipt (scope : WarehouseScope) (receiptId : ℕ)

def Store.salesOrderTask (store : Store) (pickTaskId : ℕ) : Option PickTask :=
  match store.pendingTask pickTaskId with
  | .error _ => none
  | .ok task =>
      match task.target with
      | .salesOrder _ _ => some task
      | .transferOrder _ _ => none

/-- Run the operation, if it is not refused. -/
def StockOp.run (store : Store) : StockOp → Option Store
  | .confirmPick pickTaskId scannedBarcode quantity =>
      (SentryWms.confirmPick store pickTaskId scannedBarcode quantity).toOption
  | .shortPick pickTaskId quantity =>
      (SentryWms.shortPick store pickTaskId quantity).toOption
  | .adminPickEntry soId batchId lines seq pick =>
      (SentryWms.adminPickEntry soId batchId lines (store, seq) pick).toOption.map Prod.fst
  | .cancelReceipt scope receiptId =>
      (store.visibleReceipt scope receiptId).map fun _ =>
        (SentryWms.cancelReceipt scope { store, poIds := [], reversed := [] }
          receiptId).store

/-- The item and the units that the operation accounts for. -/
def StockOp.account (store : Store) : StockOp → Option (ℕ × ℤ)
  | .confirmPick pickTaskId _ quantity | .shortPick pickTaskId quantity =>
      (store.salesOrderTask pickTaskId).map fun task => (task.itemId, quantity)
  | .adminPickEntry _ _ lines _ pick =>
      (lines.lookup pick.soLineId).map fun line => (line.itemId, pick.quantity)
  | .cancelReceipt scope receiptId =>
      (store.visibleReceipt scope receiptId).map fun receipt =>
        (receipt.itemId, receipt.quantityReceived)

/-- The lot rows of the bin are such that the operation takes out what it accounts for:
counted up to the quantity each they hold the quantity together, and an admin pick finds
one row that offers it. -/
def StockOp.Covered (store : Store) : StockOp → Prop
  | .confirmPick pickTaskId _ quantity | .shortPick pickTaskId quantity =>
      ∀ task ∈ store.salesOrderTask pickTaskId,
        store.countedUpTo quantity (Inventory.inBin task.itemId task.binId) = quantity
  | .adminPickEntry _ _ lines _ pick =>
      ∀ line ∈ lines.lookup pick.soLineId,
        store.rowCount (Inventory.offers line.itemId pick.binId pick.quantity) = 1
  | .cancelReceipt scope receiptId =>
      ∀ receipt ∈ store.visibleReceipt scope receiptId,
        store.countedUpTo receipt.quantityReceived
          (Inventory.inBinOf receipt.itemId receipt.binId receipt.warehouseId) =
            receipt.quantityReceived

section Exactly

variable {store after : Store} {itemId : ℕ} {quantity : ℤ}

theorem forall_mem_some {α : Type} {found : Option α} {value : α} {cond : α → Prop}
    (hfound : found = some value) : (∀ member ∈ found, cond member) ↔ cond value := by
  subst hfound
  simp

variable {pickTaskId : ℕ} {task : PickTask}

theorem salesOrderTask_spec (htask : store.salesOrderTask pickTaskId = some task) :
    store.pendingTask pickTaskId = .ok task ∧
      ∃ soId soLineId, task.target = .salesOrder soId soLineId := by
  unfold Store.salesOrderTask at htask
  split at htask
  next => cases htask
  next found hfound =>
    split at htask
    next soId soLineId htarget =>
      obtain rfl := Option.some.inj htask
      exact ⟨hfound, soId, soLineId, htarget⟩
    next => cases htask

theorem confirmPick_onHand {scannedBarcode : String}
    (htask : store.salesOrderTask pickTaskId = some task)
    (hconfirm : confirmPick store pickTaskId scannedBarcode quantity = .ok after) :
    after.onHand task.itemId = store.onHand task.itemId -
      store.countedUpTo quantity (Inventory.inBin task.itemId task.binId) := by
  obtain ⟨hpending, soId, soLineId, htarget⟩ := salesOrderTask_spec htask
  obtain ⟨-, rfl⟩ := confirmPick_salesOrder_spec hpending htarget hconfirm
  obtain ⟨_, _, hlines⟩ := confirmLines_writes
    { store with
      pickTasks := store.pickTasks.modify pickTaskId fun task =>
        { task with status := .picked, quantityPicked := quantity } }
    pickTaskId soLineId quantity
  rw [hlines, consume_onHand]
  rfl

theorem shortPick_onHand (htask : store.salesOrderTask pickTaskId = some task)
    (hshort : shortPick store pickTaskId quantity = .ok after) :
    after.onHand task.itemId = store.onHand task.itemId -
      store.countedUpTo quantity (Inventory.inBin task.itemId task.binId) := by
  obtain ⟨found, hfound, -, rfl⟩ := shortPick_spec hshort
  obtain rfl := Except.ok.inj ((salesOrderTask_spec htask).1.symm.trans hfound)
  obtain ⟨_, _, hlines⟩ := shortLines_writes
    (Store.consume
      { store with
        pickTasks := store.pickTasks.modify pickTaskId fun task =>
          { task with status := .short, quantityPicked := quantity } }
      task quantity) pickTaskId task.target.soLineId quantity
  rw [hlines]
  exact consume_onHand _ task quantity

theorem adminPickEntry_onHand {soId batchId : ℕ} {lines : List (ℕ × SalesOrderLine)}
    {seq seq' : ℤ} {pick : AdminPickEntry} {line : SalesOrderLine}
    (hline : lines.lookup pick.soLineId = some line)
    (hpick : adminPickEntry soId batchId lines (store, seq) pick = .ok (after, seq')) :
    after.onHand line.itemId = store.onHand line.itemId -
      store.rowCount (Inventory.offers line.itemId pick.binId pick.quantity) *
        pick.quantity := by
  obtain ⟨found, hfound, -, hafter⟩ := adminPickEntry_spec hpick
  obtain rfl := Option.some.inj (hline.symm.trans hfound)
  obtain ⟨rfl, -⟩ := Prod.mk.inj hafter
  rw [← takeAvailable_onHand]
  rfl

theorem cancelReceipt_onHand {scope : WarehouseScope} {state : Cancelling}
    {receiptId : ℕ} {receipt : ItemReceipt}
    (hreceipt : state.store.visibleReceipt scope receiptId = some receipt) :
    (cancelReceipt scope state receiptId).store.onHand receipt.itemId =
      state.store.onHand receipt.itemId -
        state.store.countedUpTo receipt.quantityReceived
          (Inventory.inBinOf receipt.itemId receipt.binId receipt.warehouseId) := by
  have hinventory : (cancelReceipt scope state receiptId).store.inventory =
      (state.store.reverseStock receipt.itemId receipt.binId receipt.warehouseId
        receipt.quantityReceived).inventory := by
    rw [cancelReceipt, hreceipt]
    exact updatePoLine_inventory _ _ _
  rw [onHand_congr hinventory, reverseStock_onHand]

/-- An operation takes out of stock exactly what it accounts for if and only if the lot
rows cover it. -/
theorem takesOut_iff {op : StockOp} (haccount : op.account store = some (itemId, quantity))
    (hrun : op.run store = some after) :
    after.onHand itemId = store.onHand itemId - quantity ↔ op.Covered store := by
  cases op with
  | confirmPick pickTaskId scannedBarcode units =>
      obtain ⟨task, htask, heq⟩ := Option.map_eq_some_iff.mp haccount
      obtain ⟨rfl, rfl⟩ := Prod.mk.inj heq
      rw [confirmPick_onHand htask (toOption_eq_some.mp hrun), sub_right_inj,
        StockOp.Covered, forall_mem_some htask]
  | shortPick pickTaskId units =>
      obtain ⟨task, htask, heq⟩ := Option.map_eq_some_iff.mp haccount
      obtain ⟨rfl, rfl⟩ := Prod.mk.inj heq
      rw [shortPick_onHand htask (toOption_eq_some.mp hrun), sub_right_inj,
        StockOp.Covered, forall_mem_some htask]
  | adminPickEntry soId batchId lines seq pick =>
      obtain ⟨line, hline, heq⟩ := Option.map_eq_some_iff.mp haccount
      obtain ⟨rfl, rfl⟩ := Prod.mk.inj heq
      obtain ⟨⟨found, seq'⟩, hpick, rfl⟩ := Option.map_eq_some_iff.mp hrun
      rw [adminPickEntry_onHand hline (toOption_eq_some.mp hpick), sub_right_inj]
      -- The quantity is positive, so it comes off once exactly where one row loses it.
      have hpos := pick.quantityPos
      have hone : (store.rowCount (Inventory.offers line.itemId pick.binId
          pick.quantity) : ℤ) * pick.quantity = pick.quantity ↔
          store.rowCount (Inventory.offers line.itemId pick.binId pick.quantity) = 1 := by
        rw [mul_eq_right₀ hpos.ne', Nat.cast_eq_one]
      rw [hone, StockOp.Covered, forall_mem_some hline]
  | cancelReceipt scope receiptId =>
      obtain ⟨receipt, hreceipt, heq⟩ := Option.map_eq_some_iff.mp haccount
      obtain ⟨rfl, rfl⟩ := Prod.mk.inj heq
      obtain ⟨found, hfound, rfl⟩ := Option.map_eq_some_iff.mp hrun
      let start : Cancelling := { store, poIds := [], reversed := [] }
      have hstart : start.store.visibleReceipt scope receiptId = some receipt := hreceipt
      rw [cancelReceipt_onHand hstart, sub_right_inj, StockOp.Covered,
        forall_mem_some hreceipt]

end Exactly

/-! ## A bin with two lots -/

/-- A bin with five units of an item in each of two lots, and a task for two units. -/
def twoLotStore : Store where
  items := .ofRows [{ sku := "A", upc := some "1", barcodeAliases := [] }]
  inventory := .ofRows
    [{ itemId := 1, binId := 1, warehouseId := 1, quantityOnHand := 5,
       quantityAllocated := 2, lotNumber := some "L1", updatedAt := 0 },
     { itemId := 1, binId := 1, warehouseId := 1, quantityOnHand := 5,
       quantityAllocated := 0, lotNumber := some "L2", updatedAt := 0 }]
  salesOrderLines := .ofRows
    [{ soId := 1, itemId := 1, lineNumber := 1, quantityOrdered := 2,
       quantityAllocated := 2, quantityPicked := 0 }]
  pickTasks := .ofRows
    [{ batchId := 1, target := .salesOrder 1 (some 1), itemId := 1, binId := 1,
       quantityToPick := 2, quantityPicked := 0, pickSequence := 1,
       toteNumber := none, status := .pending }]

/-- The store once the task is confirmed. -/
def twoLotStorePicked : Store :=
  match confirmPick twoLotStore 1 "1" 2 with
  | .ok store => store
  | .error _ => twoLotStore

/-- Confirming two units takes four out of stock. -/
theorem confirmPick_two_lots :
    (StockOp.confirmPick 1 "1" 2).account twoLotStore = some (1, 2) ∧
      (StockOp.confirmPick 1 "1" 2).run twoLotStore = some twoLotStorePicked ∧
      twoLotStorePicked.onHand 1 = twoLotStore.onHand 1 - 4 ∧
      ¬ twoLotStorePicked.onHand 1 = twoLotStore.onHand 1 - 2 := by
  refine ⟨rfl, rfl, by decide +kernel, by decide +kernel⟩

def oneLotStore : Store :=
  { twoLotStore with
    inventory := .ofRows
      [{ itemId := 1, binId := 1, warehouseId := 1, quantityOnHand := 10,
         quantityAllocated := 2, lotNumber := some "L1", updatedAt := 0 }] }

/-- The store once the task is confirmed. -/
def oneLotStorePicked : Store :=
  match confirmPick oneLotStore 1 "1" 2 with
  | .ok store => store
  | .error _ => oneLotStore

theorem takesOut_oneLotStore : oneLotStorePicked.onHand 1 = oneLotStore.onHand 1 - 2 := by
  have haccount : (StockOp.confirmPick 1 "1" 2).account oneLotStore = some (1, 2) := rfl
  have hrun : (StockOp.confirmPick 1 "1" 2).run oneLotStore =
    some oneLotStorePicked := rfl
  apply (takesOut_iff haccount hrun).mpr
  intro task htask
  have hfound : oneLotStore.salesOrderTask 1 = some
      { batchId := 1, target := .salesOrder 1 (some 1), itemId := 1, binId := 1,
        quantityToPick := 2, quantityPicked := 0, pickSequence := 1,
        toteNumber := none, status := .pending } := rfl
  obtain rfl := Option.some.inj (hfound.symm.trans htask)
  decide +kernel

end SentryWms
