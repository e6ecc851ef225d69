import SentryWms.SalesOrder.Cancel
import SentryWms.Picking.Frame
import SentryWms.Pos.Fulfillment
import SentryWms.Store.Stock

/-!
# What cancelling an OPEN order releases

The unwinding follows the pending tasks that name the lines of the order. It
releases what the order holds exactly when these tasks, counted once for every lot
row of their bin, carry its whole reservation, nothing was picked, no task is
broken down over several orders, and no live backorder goes with it.
-/

namespace SentryWms

open Relational Transition

/-! ## What an order holds -/

def Store.lineTotal (store : Store) (soId itemId : ℕ) (value : SalesOrderLine → ℤ) :
    ℤ :=
  store.salesOrderLines.total fun _ line =>
    if line.soId == soId && line.itemId == itemId then value line else 0

/-- What the lines of an order still reserve of an item. -/
def Store.outstandingOf (store : Store) (soId itemId : ℕ) : ℤ :=
  store.lineTotal soId itemId fun line => line.quantityAllocated - line.quantityPicked

def Store.pickedOf (store : Store) (soId itemId : ℕ) : ℤ :=
  store.lineTotal soId itemId SalesOrderLine.quantityPicked

/-- The task serves an order other than the given one, or a transfer order. -/
def Store.ServesAnother (store : Store) (soId pickTaskId : ℕ) (task : PickTask) : Prop :=
  task.ofOrder soId = false ∨
    ∃ breakdownId row, (breakdownId, row) ∈ store.wavePickBreakdown.entries ∧
      row.pickTaskId = pickTaskId ∧ row.soId ≠ soId

/-- The cancelled order's reservation and picks are given back in its warehouse, and
whatever belongs to another order is unchanged. -/
structure ReleasesExactly (store : Store) (soId warehouseId : ℕ) (after : Store) :
    Prop where
  allocated : ∀ itemId warehouseId', after.warehouseAllocated itemId warehouseId' =
    store.warehouseAllocated itemId warehouseId' -
      if warehouseId' = warehouseId then store.outstandingOf soId itemId else 0
  onHand : ∀ itemId warehouseId', after.warehouseOnHand itemId warehouseId' =
    store.warehouseOnHand itemId warehouseId' +
      if warehouseId' = warehouseId then store.pickedOf soId itemId else 0
  lines : ∀ soLineId line, (soLineId, line) ∈ store.salesOrderLines.entries →
    line.soId ≠ soId → (soLineId, line) ∈ after.salesOrderLines.entries
  tasks : ∀ pickTaskId task, (pickTaskId, task) ∈ store.pickTasks.entries →
    store.ServesAnother soId pickTaskId task →
      (pickTaskId, task) ∈ after.pickTasks.entries
  breakdown : ∀ breakdownId row, (breakdownId, row) ∈ store.wavePickBreakdown.entries →
    row.soId ≠ soId → (breakdownId, row) ∈ after.wavePickBreakdown.entries

/-! ## What the pending tasks carry -/

def Store.lotRows (store : Store) (itemId binId warehouseId : ℕ) : ℤ :=
  store.stock (fun row => row.inBin itemId binId && row.warehouseId == warehouseId)
    fun _ => 1

def Store.taskedUnits (store : Store) (line : ℕ × SalesOrderLine)
    (itemId warehouseId : ℕ) : ℤ :=
  ((store.pendingTasksOf line.1).map fun task =>
    if line.2.itemId = itemId then
      task.2.quantityToPick * store.lotRows itemId task.2.binId warehouseId
    else 0).sum

/-- A live backorder that its parent's cancellation finds with nothing to unwind. -/
def Store.Idle (store : Store) (child : ℕ × SalesOrder) : Prop :=
  match child.2.status with
  | .open =>
      (∀ entry ∈ store.salesOrderLines.entries,
        entry.2.soId = child.1 → entry.2.quantityAllocated ≤ 0) ∧
      ∀ entry ∈ store.pickTasks.entries, entry.2.ofOrder child.1 = false
  | .picked | .packed =>
      (∃ binId, getDefaultReceivingBin store = .ok binId) ∧
      ∀ entry ∈ store.salesOrderLines.entries,
        entry.2.soId = child.1 → entry.2.quantityPicked ≤ 0
  | _ => True

/-- The pending tasks of an OPEN order carry all that it holds, and nothing is
shared with another order. -/
structure HeldByTasks (store : Store) (soId : ℕ) (order : SalesOrder) : Prop where
  tasked : ∀ itemId warehouseId,
    ((store.allocatedLines soId).map fun line =>
      store.taskedUnits line itemId warehouseId).sum =
      if warehouseId = order.warehouseId then store.outstandingOf soId itemId else 0
  unpicked : ∀ itemId, store.pickedOf soId itemId = 0
  undivided : store.brokenDownTask soId = none
  backorders : order.orderType ≠ .backorder →
    ∀ child ∈ store.liveBackorders soId, store.Idle child

/-! ## Releasing the tasks -/

variable {store after : Store} {soId : ℕ}

theorem releaseTask_stock {cond : Inventory → Bool} {value : Inventory → ℤ}
    (hcond : ∀ row quantity, cond { row with quantityAllocated := quantity } = cond row)
    (hvalue : ∀ row quantity,
      value { row with quantityAllocated := quantity } = value row)
    (itemId : ℕ) (store : Store) (task : ℕ × PickTask) :
    (releaseTask itemId store task).stock cond value = store.stock cond value := by
  rw [releaseTask, stock_updateBin fun row => hcond row _]
  simp only [hvalue, ite_self]

theorem stock_inBin (store : Store) (itemId binId itemId' warehouseId : ℕ)
    (quantity : ℤ) :
    (store.stock (Inventory.inWarehouse itemId' warehouseId) fun row =>
        if row.inBin itemId binId then quantity else 0) =
      if itemId = itemId' then quantity * store.lotRows itemId' binId warehouseId
      else 0 := by
  split
  next hitem =>
    subst hitem
    rw [Store.lotRows, mul_stock, Store.stock, Store.stock]
    apply Table.total_congr
    intro key row _
    simp only [Inventory.inWarehouse, Inventory.inBin]
    grind
  next hitem =>
    rw [Store.stock]
    apply Table.total_eq_zero
    intro key row _
    simp only [Inventory.inWarehouse, Inventory.inBin]
    grind

theorem releaseTask_allocated (itemId : ℕ) (store : Store) (task : ℕ × PickTask)
    (itemId' warehouseId : ℕ) :
    (releaseTask itemId store task).warehouseAllocated itemId' warehouseId =
      store.warehouseAllocated itemId' warehouseId -
        if itemId = itemId' then
          task.2.quantityToPick * store.lotRows itemId' task.2.binId warehouseId
        else 0 := by
  have hkeeps : ∀ row : Inventory, Inventory.inWarehouse itemId' warehouseId
      { row with quantityAllocated := row.quantityAllocated - task.2.quantityToPick } =
        row.inWarehouse itemId' warehouseId := fun row => rfl
  rw [Store.warehouseAllocated, releaseTask, stock_updateBin hkeeps, ← stock_inBin,
    Store.warehouseAllocated, ← stock_sub]
  congr 1
  funext row
  split
  · rfl
  · rw [sub_zero]

/-- The tasks and the lot rows, which decide what is released, stay as they are. -/
structure SameTasks (store store' : Store) : Prop where
  pickTasks : store'.pickTasks = store.pickTasks
  lotRows : ∀ itemId binId warehouseId,
    store'.lotRows itemId binId warehouseId = store.lotRows itemId binId warehouseId

variable {store' : Store}

theorem releaseTask_sameTasks (itemId : ℕ) (task : ℕ × PickTask)
    (hsame : SameTasks store store') : SameTasks store (releaseTask itemId store' task) where
  pickTasks := hsame.pickTasks
  lotRows itemId' binId warehouseId := by
    rw [Store.lotRows, releaseTask_stock (fun _ _ => rfl) (fun _ _ => rfl)]
    exact hsame.lotRows itemId' binId warehouseId

theorem unwindLine_sameTasks (line : ℕ × SalesOrderLine)
    (hsame : SameTasks store store') : SameTasks store (unwindLine store' line) := by
  have hreleased := foldl_invariant (SameTasks store)
    (fun _ task hsame => releaseTask_sameTasks line.2.itemId task hsame)
    (store'.pendingTasksOf line.1) hsame
  exact ⟨hreleased.pickTasks, hreleased.lotRows⟩

theorem unwindLine_allocated (line : ℕ × SalesOrderLine) (hsame : SameTasks store store')
    (itemId warehouseId : ℕ) :
    (unwindLine store' line).warehouseAllocated itemId warehouseId =
      store'.warehouseAllocated itemId warehouseId +
        -store.taskedUnits line itemId warehouseId := by
  have htasks : store'.pendingTasksOf line.1 = store.pendingTasksOf line.1 := by
    rw [Store.pendingTasksOf, Store.pendingTasksOf, hsame.pickTasks]
  have hshift := foldl_shift (SameTasks store)
    (fun store => store.warehouseAllocated itemId warehouseId)
    (fun task => -if line.2.itemId = itemId then
      task.2.quantityToPick * store.lotRows itemId task.2.binId warehouseId else 0)
    (fun _ task hsame => releaseTask_sameTasks line.2.itemId task hsame)
    (fun store' task hsame => by
      rw [releaseTask_allocated, hsame.lotRows, sub_eq_add_neg])
    (store'.pendingTasksOf line.1) hsame
  calc (unwindLine store' line).warehouseAllocated itemId warehouseId
      = ((store'.pendingTasksOf line.1).foldl (releaseTask line.2.itemId)
          store').warehouseAllocated itemId warehouseId := rfl
    _ = store'.warehouseAllocated itemId warehouseId +
          -store.taskedUnits line itemId warehouseId := by
        rw [hshift, htasks, Store.taskedUnits, List.sum_neg]
        simp [Function.comp_def]

theorem unwindLine_stock {cond : Inventory → Bool} {value : Inventory → ℤ}
    (hcond : ∀ row quantity, cond { row with quantityAllocated := quantity } = cond row)
    (hvalue : ∀ row quantity,
      value { row with quantityAllocated := quantity } = value row)
    (store : Store) (line : ℕ × SalesOrderLine) :
    (unwindLine store line).stock cond value = store.stock cond value :=
  foldl_keeps (fun store => store.stock cond value)
    (fun store task => releaseTask_stock hcond hvalue line.2.itemId store task) _ _

theorem unwindLine_frame (store : Store) (line : ℕ × SalesOrderLine) :
    (unwindLine store line).pickTasks = store.pickTasks ∧
      (unwindLine store line).pickBatchOrders = store.pickBatchOrders ∧
      (unwindLine store line).wavePickBreakdown = store.wavePickBreakdown ∧
      (unwindLine store line).salesOrders = store.salesOrders ∧
      (unwindLine store line).appSettings = store.appSettings ∧
      (unwindLine store line).salesOrderLines =
        store.salesOrderLines.modify line.1 fun line =>
          { line with quantityAllocated := 0 } := by
  have hkeeps : ∀ {Obs : Type} (obs : Store → Obs),
      (∀ store task, obs (releaseTask line.2.itemId store task) = obs store) →
      obs ((store.pendingTasksOf line.1).foldl (releaseTask line.2.itemId) store) =
        obs store :=
    fun obs hobs => foldl_keeps obs hobs _ _
  refine ⟨hkeeps Store.pickTasks fun _ _ => rfl,
    hkeeps Store.pickBatchOrders fun _ _ => rfl,
    hkeeps Store.wavePickBreakdown fun _ _ => rfl,
    hkeeps Store.salesOrders fun _ _ => rfl,
    hkeeps Store.appSettings fun _ _ => rfl, ?_⟩
  have hlines := hkeeps Store.salesOrderLines fun _ _ => rfl
  rw [unwindLine, hlines]

/-- What `_unwind_allocated` does to a store. -/
structure Unwinds (store : Store) (soId : ℕ) (after : Store) : Prop where
  allocated : ∀ itemId warehouseId, after.warehouseAllocated itemId warehouseId =
    store.warehouseAllocated itemId warehouseId -
      ((store.allocatedLines soId).map fun line =>
        store.taskedUnits line itemId warehouseId).sum
  onHand : ∀ itemId warehouseId, after.warehouseOnHand itemId warehouseId =
    store.warehouseOnHand itemId warehouseId
  lines : after.salesOrderLines = store.salesOrderLines.updateWhere
    (fun line => line.soId == soId && decide (0 < line.quantityAllocated))
    fun line => { line with quantityAllocated := 0 }
  tasks : after.pickTasks = store.pickTasks.deleteWhere (PickTask.ofOrder soId)
  breakdown : after.wavePickBreakdown = store.wavePickBreakdown
  salesOrders : after.salesOrders = store.salesOrders
  appSettings : after.appSettings = store.appSettings

theorem unwindAllocated_spec (store : Store) (soId : ℕ) :
    (store.brokenDownTask soId = none ∧
      ∃ after, unwindAllocated store soId = .ok after ∧ Unwinds store soId after) ∨
    ∃ pickTaskId, store.brokenDownTask soId = some pickTaskId ∧
      unwindAllocated store soId = .error (.breakdownReferencesTask pickTaskId) := by
  have hkeeps : ∀ {Obs : Type} (obs : Store → Obs),
      (∀ store line, obs (unwindLine store line) = obs store) →
      obs ((store.allocatedLines soId).foldl unwindLine store) = obs store :=
    fun obs hobs => foldl_keeps obs hobs _ _
  have htasks := hkeeps Store.pickTasks fun store line => (unwindLine_frame store line).1
  have hbreakdown := hkeeps Store.wavePickBreakdown fun store line =>
    (unwindLine_frame store line).2.2.1
  have horders := hkeeps Store.salesOrders fun store line =>
    (unwindLine_frame store line).2.2.2.1
  have hsettings := hkeeps Store.appSettings fun store line =>
    (unwindLine_frame store line).2.2.2.2.1
  have hbroken : ((store.allocatedLines soId).foldl unwindLine store).brokenDownTask soId =
      store.brokenDownTask soId := by
    rw [Store.brokenDownTask, htasks, hbreakdown, Store.brokenDownTask]
  have hlines : ((store.allocatedLines soId).foldl unwindLine store).salesOrderLines =
      store.salesOrderLines.updateWhere
        (fun line => line.soId == soId && decide (0 < line.quantityAllocated))
        fun line => { line with quantityAllocated := 0 } := by
    rw [← Table.foldl_modify_select]
    exact (List.foldl_hom Store.salesOrderLines
      fun store line => (unwindLine_frame store line).2.2.2.2.2.symm).symm
  rw [unwindAllocated, deleteAllocation, hbroken]
  cases hnone : store.brokenDownTask soId with
  | some pickTaskId => exact .inr ⟨pickTaskId, rfl, rfl⟩
  | none =>
      refine .inl ⟨rfl, _, rfl, ?_⟩
      constructor
      · intro itemId warehouseId
        have hshift := foldl_shift (SameTasks store)
          (fun store => store.warehouseAllocated itemId warehouseId)
          (fun line => -store.taskedUnits line itemId warehouseId)
          (fun _ line hsame => unwindLine_sameTasks line hsame)
          (fun _ line hsame => unwindLine_allocated line hsame itemId warehouseId)
          (store.allocatedLines soId) ⟨rfl, fun _ _ _ => rfl⟩
        rw [sub_eq_add_neg, List.sum_neg, List.map_map]
        exact hshift
      · intro itemId warehouseId
        exact hkeeps (fun store => store.warehouseOnHand itemId warehouseId)
          fun store line => unwindLine_stock (fun _ _ => rfl) (fun _ _ => rfl) store line
      · exact hlines
      · exact congrArg (Table.deleteWhere · (PickTask.ofOrder soId)) htasks
      · exact hbreakdown
      · exact horders
      · exact hsettings

/-! ## Cancelling a live backorder -/

theorem mem_updateOrderLines {lines : Table SalesOrderLine} {soId : ℕ}
    {cond : SalesOrderLine → Bool} {change : SalesOrderLine → SalesOrderLine}
    (hchange : ∀ line, (change line).soId = line.soId) {entry : ℕ × SalesOrderLine}
    (hother : entry.2.soId ≠ soId) :
    entry ∈ (lines.updateWhere (fun line => line.soId == soId && cond line)
        change).entries ↔ entry ∈ lines.entries := by
  obtain ⟨soLineId, line⟩ := entry
  rw [Table.updateWhere, Table.mem_mapRows]
  constructor
  · rintro ⟨before, hbefore, hline⟩
    split at hline
    next hcond =>
      rw [Bool.and_eq_true, beq_iff_eq] at hcond
      rw [← hline, hchange] at hother
      exact absurd hcond.1 hother
    next => exact hline ▸ hbefore
  · intro hline
    exact ⟨line, hline, if_neg (by simp [hother])⟩

def unwoundLines (child : ℕ × SalesOrder) (lines : Table SalesOrderLine) :
    Table SalesOrderLine :=
  match child.2.status with
  | .open =>
      lines.updateWhere
        (fun line => line.soId == child.1 && decide (0 < line.quantityAllocated))
        fun line => { line with quantityAllocated := 0 }
  | .picked | .packed =>
      lines.updateWhere
        (fun line => line.soId == child.1 && decide (0 < line.quantityPicked))
        fun line => { line with quantityPicked := 0, quantityPacked := 0 }
  | _ => lines

def unwoundTasks (child : ℕ × SalesOrder) (tasks : Table PickTask) : Table PickTask :=
  if child.2.status = .open then tasks.deleteWhere (PickTask.ofOrder child.1) else tasks

structure CancelsBackorder (store : Store) (child : ℕ × SalesOrder) (after : Store) :
    Prop where
  receivingBin : child.2.status = .picked ∨ child.2.status = .packed →
    ∃ binId, getDefaultReceivingBin store = .ok binId
  lines : after.salesOrderLines = unwoundLines child store.salesOrderLines
  tasks : after.pickTasks = unwoundTasks child store.pickTasks
  breakdown : after.wavePickBreakdown = store.wavePickBreakdown
  appSettings : after.appSettings = store.appSettings
  others : ∀ soId, soId ≠ child.1 →
    after.salesOrders.get? soId = store.salesOrders.get? soId

theorem restoreLine_frame (receivingBinId warehouseId : ℕ) (store : Store)
    (line : ℕ × SalesOrderLine) :
    (restoreLine receivingBinId warehouseId store line).pickTasks = store.pickTasks ∧
      (restoreLine receivingBinId warehouseId store line).wavePickBreakdown =
        store.wavePickBreakdown ∧
      (restoreLine receivingBinId warehouseId store line).catalog = store.catalog ∧
      (restoreLine receivingBinId warehouseId store line).salesOrderLines =
        store.salesOrderLines.modify line.1 fun line =>
          { line with quantityPicked := 0, quantityPacked := 0 } := by
  rw [restoreLine, addInventory]
  split <;> exact ⟨rfl, rfl, rfl, rfl⟩

theorem unwindPickedOrPacked_spec {warehouseId : ℕ}
    (hunwind : unwindPickedOrPacked store soId warehouseId = .ok after) :
    (∃ binId, getDefaultReceivingBin store = .ok binId) ∧
      after.salesOrderLines = store.salesOrderLines.updateWhere
        (fun line => line.soId == soId && decide (0 < line.quantityPicked))
        (fun line => { line with quantityPicked := 0, quantityPacked := 0 }) ∧
      after.pickTasks = store.pickTasks ∧
      after.wavePickBreakdown = store.wavePickBreakdown ∧
      after.catalog = store.catalog := by
  obtain ⟨binId, hbin, hrest⟩ := bind_eq_ok.mp hunwind
  cases hrest
  have hkeeps : ∀ {Obs : Type} (obs : Store → Obs),
      (∀ store line, obs (restoreLine binId warehouseId store line) = obs store) →
      obs ((store.salesOrderLines.select fun line =>
        line.soId == soId && decide (0 < line.quantityPicked)).foldl
          (restoreLine binId warehouseId) store) = obs store :=
    fun obs hobs => foldl_keeps obs hobs _ _
  refine ⟨⟨binId, hbin⟩, ?_,
    hkeeps Store.pickTasks fun store line => (restoreLine_frame _ _ store line).1,
    hkeeps Store.wavePickBreakdown fun store line =>
      (restoreLine_frame _ _ store line).2.1,
    hkeeps Store.catalog fun store line => (restoreLine_frame _ _ store line).2.2.1⟩
  rw [← Table.foldl_modify_select]
  exact (List.foldl_hom Store.salesOrderLines
    fun store line => (restoreLine_frame _ _ store line).2.2.2.symm).symm

theorem unwindPickedOrPacked_idle {warehouseId binId : ℕ}
    (hbin : getDefaultReceivingBin store = .ok binId)
    (hlines : ∀ entry ∈ store.salesOrderLines.entries,
      entry.2.soId = soId → entry.2.quantityPicked ≤ 0) :
    ∃ after, unwindPickedOrPacked store soId warehouseId = .ok after ∧
      after.inventory = store.inventory := by
  have hnone : (store.salesOrderLines.select fun line =>
      line.soId == soId && decide (0 < line.quantityPicked)) = [] := by
    rw [Table.select, List.filter_eq_nil_iff]
    intro entry hentry
    have hle := hlines entry hentry
    simp only [Bool.and_eq_true, beq_iff_eq, decide_eq_true_eq]
    omega
  rw [unwindPickedOrPacked, hbin, hnone]
  exact ⟨_, rfl, rfl⟩

theorem unwindAllocated_idle
    (hlines : ∀ entry ∈ store.salesOrderLines.entries,
      entry.2.soId = soId → entry.2.quantityAllocated ≤ 0)
    (htasks : ∀ entry ∈ store.pickTasks.entries, entry.2.ofOrder soId = false) :
    ∃ after, unwindAllocated store soId = .ok after ∧
      after.inventory = store.inventory := by
  have hnone : store.allocatedLines soId = [] := by
    rw [Store.allocatedLines, Table.select, List.filter_eq_nil_iff]
    intro entry hentry
    have hle := hlines entry hentry
    simp only [Bool.and_eq_true, beq_iff_eq, decide_eq_true_eq]
    omega
  have hbroken : store.brokenDownTask soId = none := by
    rw [Store.brokenDownTask, Option.map_eq_none_iff, List.find?_eq_none]
    intro row _
    rw [Option.any_eq_true]
    rintro ⟨task, htask, hof⟩
    rw [htasks _ ((Table.get?_eq_some _).mp htask)] at hof
    cases hof
  rw [unwindAllocated, hnone, List.foldl_nil, deleteAllocation, hbroken]
  exact ⟨_, rfl, rfl⟩

variable {child : ℕ × SalesOrder}

theorem unwind_spec (hunwind : unwind store child.1 child.2 = .ok after) :
    (child.2.status = .picked ∨ child.2.status = .packed →
        ∃ binId, getDefaultReceivingBin store = .ok binId) ∧
      after.salesOrderLines = unwoundLines child store.salesOrderLines ∧
      after.pickTasks = unwoundTasks child store.pickTasks ∧
      after.wavePickBreakdown = store.wavePickBreakdown ∧
      after.appSettings = store.appSettings ∧
      after.salesOrders = store.salesOrders := by
  obtain ⟨soId, order⟩ := child
  have hpickedOrPacked : ∀ {after : Store},
      unwindPickedOrPacked store soId order.warehouseId = .ok after →
      (∃ binId, getDefaultReceivingBin store = .ok binId) ∧
        after.salesOrderLines = store.salesOrderLines.updateWhere
          (fun line => line.soId == soId && decide (0 < line.quantityPicked))
          (fun line => { line with quantityPicked := 0, quantityPacked := 0 }) ∧
        after.pickTasks = store.pickTasks ∧
        after.wavePickBreakdown = store.wavePickBreakdown ∧
        after.appSettings = store.appSettings ∧
        after.salesOrders = store.salesOrders := by
    intro after hunwind
    obtain ⟨hbin, hlines, htasks, hbreakdown, hcatalog⟩ :=
      unwindPickedOrPacked_spec hunwind
    exact ⟨hbin, hlines, htasks, hbreakdown, congrArg Catalog.appSettings hcatalog,
      congrArg Catalog.salesOrders hcatalog⟩
  cases hstatus : order.status with
  | «open» =>
      simp only [unwind, hstatus] at hunwind
      rcases unwindAllocated_spec store soId with
        ⟨-, middle, hmiddle, hspec⟩ | ⟨pickTaskId, -, herror⟩
      · rw [hmiddle] at hunwind
        cases hunwind
        refine ⟨by simp, ?_, ?_, hspec.breakdown, hspec.appSettings, hspec.salesOrders⟩
        · simpa only [unwoundLines, hstatus] using hspec.lines
        · simpa only [unwoundTasks, hstatus, if_true] using hspec.tasks
      · rw [herror] at hunwind
        cases hunwind
  | picked =>
      simp only [unwind, hstatus] at hunwind
      obtain ⟨hbin, hlines, htasks, hrest⟩ := hpickedOrPacked hunwind
      exact ⟨fun _ => hbin, by simpa only [unwoundLines, hstatus] using hlines,
        by simpa [unwoundTasks, hstatus] using htasks, hrest⟩
  | packed =>
      simp only [unwind, hstatus] at hunwind
      obtain ⟨hbin, hlines, htasks, hrest⟩ := hpickedOrPacked hunwind
      exact ⟨fun _ => hbin, by simpa only [unwoundLines, hstatus] using hlines,
        by simpa [unwoundTasks, hstatus] using htasks, hrest⟩
  | _ =>
      simp only [unwind, hstatus] at hunwind
      cases hunwind
      simp [unwoundLines, unwoundTasks, hstatus]

/-- An idle backorder is unwound without a change to the stock. -/
theorem unwind_idle (hidle : store.Idle child) :
    ∃ after, unwind store child.1 child.2 = .ok after ∧
      after.inventory = store.inventory := by
  obtain ⟨soId, order⟩ := child
  cases hstatus : order.status with
  | «open» =>
      simp only [Store.Idle, hstatus] at hidle
      simpa only [unwind, hstatus] using unwindAllocated_idle hidle.1 hidle.2
  | picked =>
      simp only [Store.Idle, hstatus] at hidle
      obtain ⟨⟨binId, hbin⟩, hlines⟩ := hidle
      simpa only [unwind, hstatus] using unwindPickedOrPacked_idle hbin hlines
  | packed =>
      simp only [Store.Idle, hstatus] at hidle
      obtain ⟨⟨binId, hbin⟩, hlines⟩ := hidle
      simpa only [unwind, hstatus] using unwindPickedOrPacked_idle hbin hlines
  | _ =>
      simp only [unwind, hstatus]
      exact ⟨store, rfl, rfl⟩

/-- The order is neither SHIPPED nor CANCELLED. -/
def SalesOrder.Live (order : SalesOrder) : Prop :=
  order.status ≠ .shipped ∧ order.status ≠ .cancelled

theorem cancelOrder_live {order : SalesOrder}
    (hget : store.salesOrders.get? soId = some order) (hlive : order.Live) :
    cancelOrder store soId = (unwind store soId order).map fun unwound =>
      ({ unwound with
        salesOrders := unwound.salesOrders.modify soId fun order =>
          { order with status := .cancelled } }, order) := by
  obtain ⟨hshipped, hcancelled⟩ := hlive
  rw [cancelOrder, hget]
  dsimp only
  split
  next heq => exact absurd heq hshipped
  next heq => exact absurd heq hcancelled
  next => cases unwind store soId order <;> rfl

section Backorder

variable {child : ℕ × SalesOrder}

def stampBackorder (store : Store) (child : ℕ × SalesOrder) : Store :=
  { store with
    salesOrders := store.salesOrders.modify child.1 fun order =>
      { order with cancellationReason := some "parent_cancelled" } }

theorem cancelBackorder_live (hget : store.salesOrders.get? child.1 = some child.2)
    (hlive : child.2.Live) :
    cancelBackorder store child =
      (unwind (stampBackorder store child) child.1 child.2).map fun unwound =>
        { unwound with
          salesOrders := unwound.salesOrders.modify child.1 fun order =>
            { order with status := .cancelled } } := by
  have hstamped : (stampBackorder store child).salesOrders.get? child.1 =
      some { child.2 with cancellationReason := some "parent_cancelled" } := by
    rw [stampBackorder, Table.modify, Table.get?_mapRows, hget]
    simp
  have hsame : unwind (stampBackorder store child) child.1
      { child.2 with cancellationReason := some "parent_cancelled" } =
        unwind (stampBackorder store child) child.1 child.2 := rfl
  have hcancel := cancelOrder_live hstamped hlive
  rw [hsame] at hcancel
  change (cancelOrder (stampBackorder store child) child.1 >>= fun cancelled =>
    Except.ok cancelled.1) = _
  rw [hcancel]
  cases unwind (stampBackorder store child) child.1 child.2 <;> rfl

theorem cancelBackorder_spec (hget : store.salesOrders.get? child.1 = some child.2)
    (hlive : child.2.Live) (hcancel : cancelBackorder store child = .ok after) :
    CancelsBackorder store child after := by
  rw [cancelBackorder_live hget hlive] at hcancel
  cases hunwind : unwind (stampBackorder store child) child.1 child.2 with
  | error error =>
      rw [hunwind] at hcancel
      cases hcancel
  | ok unwound =>
      rw [hunwind] at hcancel
      cases hcancel
      obtain ⟨hbin, hlines, htasks, hbreakdown, hsettings, horders⟩ :=
        unwind_spec hunwind
      refine ⟨hbin, hlines, htasks, hbreakdown, hsettings, ?_⟩
      intro soId hne
      dsimp only
      rw [Table.get?_modify_of_ne _ hne, horders, stampBackorder,
        Table.get?_modify_of_ne _ hne]

theorem cancelBackorder_idle (hget : store.salesOrders.get? child.1 = some child.2)
    (hlive : child.2.Live) (hidle : store.Idle child) :
    ∃ after, cancelBackorder store child = .ok after ∧
      after.inventory = store.inventory := by
  have hstamped : (stampBackorder store child).Idle child := hidle
  obtain ⟨unwound, hunwind, hinventory⟩ := unwind_idle hstamped
  rw [cancelBackorder_live hget hlive, hunwind]
  exact ⟨_, rfl, hinventory⟩

theorem nonpos_of_kept {lines : Table SalesOrderLine} {soId : ℕ}
    {quantity : SalesOrderLine → ℤ} {change : SalesOrderLine → SalesOrderLine}
    (hchange : ∀ line, quantity (change line) = 0)
    (hkept : ∀ entry ∈ lines.entries, entry.2.soId = soId →
      entry ∈ (lines.updateWhere
        (fun line => line.soId == soId && decide (0 < quantity line)) change).entries) :
    ∀ entry ∈ lines.entries, entry.2.soId = soId → quantity entry.2 ≤ 0 := by
  rintro ⟨soLineId, line⟩ hentry hsoId
  obtain ⟨before, hbefore, hline⟩ :=
    (Table.mem_mapRows _).mp (hkept _ hentry hsoId)
  have hsame := lines.row_unique hentry hbefore
  subst hsame
  by_contra hpos
  have hcond : (line.soId == soId && decide (0 < quantity line)) = true := by
    rw [Bool.and_eq_true, beq_iff_eq, decide_eq_true_eq]
    exact ⟨hsoId, not_le.mp hpos⟩
  have hzero : quantity line = 0 := by
    rw [← hline, if_pos hcond, hchange]
  exact hpos hzero.le

theorem idle_of_kept
    (hbin : child.2.status = .picked ∨ child.2.status = .packed →
      ∃ binId, getDefaultReceivingBin store = .ok binId)
    (hlines : ∀ entry ∈ store.salesOrderLines.entries, entry.2.soId = child.1 →
      entry ∈ (unwoundLines child store.salesOrderLines).entries)
    (htasks : ∀ entry ∈ store.pickTasks.entries, entry.2.ofOrder child.1 = true →
      entry ∈ (unwoundTasks child store.pickTasks).entries) :
    store.Idle child := by
  cases hstatus : child.2.status with
  | «open» =>
      simp only [unwoundLines, hstatus] at hlines
      simp only [unwoundTasks, hstatus, if_true] at htasks
      simp only [Store.Idle, hstatus]
      refine ⟨nonpos_of_kept (fun _ => rfl) hlines, ?_⟩
      intro entry hentry
      by_contra hof
      have hkept := htasks entry hentry (Bool.eq_true_of_not_eq_false hof)
      exact hof ((Table.mem_deleteWhere _).mp hkept).2
  | picked =>
      simp only [unwoundLines, hstatus] at hlines
      simp only [Store.Idle, hstatus]
      exact ⟨hbin (.inl hstatus), nonpos_of_kept (fun _ => rfl) hlines⟩
  | packed =>
      simp only [unwoundLines, hstatus] at hlines
      simp only [Store.Idle, hstatus]
      exact ⟨hbin (.inr hstatus), nonpos_of_kept (fun _ => rfl) hlines⟩
  | _ => simp only [Store.Idle, hstatus]

theorem unwound_idle (hidle : store.Idle child) :
    unwoundLines child store.salesOrderLines = store.salesOrderLines ∧
      unwoundTasks child store.pickTasks = store.pickTasks := by
  cases hstatus : child.2.status with
  | «open» =>
      simp only [Store.Idle, hstatus] at hidle
      simp only [unwoundLines, unwoundTasks, hstatus, if_true]
      constructor
      · apply Table.updateWhere_eq_self
        intro entry hentry
        have hle := hidle.1 entry hentry
        simp only [Bool.and_eq_false_iff, beq_eq_false_iff_ne, decide_eq_false_iff_not]
        omega
      · exact Table.deleteWhere_eq_self _ hidle.2
  | picked | packed =>
      simp only [Store.Idle, hstatus] at hidle
      simp only [unwoundLines, unwoundTasks, hstatus, reduceCtorEq, if_false, and_true]
      apply Table.updateWhere_eq_self
      intro entry hentry
      have hle := hidle.2 entry hentry
      simp only [Bool.and_eq_false_iff, beq_eq_false_iff_ne, decide_eq_false_iff_not]
      omega
  | _ => simp [unwoundLines, unwoundTasks, hstatus]

theorem mem_unwoundLines {lines : Table SalesOrderLine} {entry : ℕ × SalesOrderLine}
    (hother : entry.2.soId ≠ child.1) :
    entry ∈ (unwoundLines child lines).entries ↔ entry ∈ lines.entries := by
  rw [unwoundLines]
  split
  · exact mem_updateOrderLines (by intro line; rfl) hother
  · exact mem_updateOrderLines (by intro line; rfl) hother
  · exact mem_updateOrderLines (by intro line; rfl) hother
  · rfl

theorem mem_unwoundTasks {tasks : Table PickTask} {entry : ℕ × PickTask} :
    entry ∈ (unwoundTasks child tasks).entries ↔ entry ∈ tasks.entries ∧
      (child.2.status = .open → entry.2.ofOrder child.1 = false) := by
  rw [unwoundTasks]
  split
  next hopen => simp [hopen]
  next hopen => simp [hopen]

end Backorder

/-! ## The cascade -/

/-- The stock, the order lines, the tasks and their breakdown. -/
structure SameStock (store store' : Store) : Prop where
  inventory : store'.inventory = store.inventory
  lines : store'.salesOrderLines = store.salesOrderLines
  tasks : store'.pickTasks = store.pickTasks
  breakdown : store'.wavePickBreakdown = store.wavePickBreakdown
  appSettings : store'.appSettings = store.appSettings

theorem SameStock.idle (hsame : SameStock store store')
    (child : ℕ × SalesOrder) : store'.Idle child ↔ store.Idle child := by
  rw [Store.Idle, Store.Idle, getDefaultReceivingBin, getDefaultReceivingBin, hsame.lines,
    hsame.tasks, hsame.appSettings]

structure LiveOrders (store : Store) (children : List (ℕ × SalesOrder)) : Prop where
  nodup : (children.map Prod.fst).Nodup
  live : ∀ child ∈ children,
    store.salesOrders.get? child.1 = some child.2 ∧ child.2.Live

variable {children : List (ℕ × SalesOrder)}

theorem LiveOrders.tail (hlive : LiveOrders store (child :: children))
    (hcancel : CancelsBackorder store child after) : LiveOrders after children := by
  have hnodup := List.nodup_cons.mp hlive.nodup
  refine ⟨hnodup.2, ?_⟩
  intro child' hchild'
  have hne : child'.1 ≠ child.1 := fun heq =>
    hnodup.1 (heq ▸ List.mem_map_of_mem hchild')
  rw [hcancel.others _ hne]
  exact hlive.live child' (List.mem_cons_of_mem _ hchild')

theorem cascade_idle (hlive : LiveOrders store children)
    (hidle : ∀ child ∈ children, store.Idle child) :
    ∃ after, children.foldlM cancelBackorder store = .ok after ∧
      SameStock store after := by
  induction children generalizing store with
  | nil => exact ⟨store, rfl, rfl, rfl, rfl, rfl, rfl⟩
  | cons child children ih =>
      obtain ⟨hget, hchild⟩ := hlive.live child List.mem_cons_self
      have hfirst := hidle child List.mem_cons_self
      obtain ⟨middle, hcancel, hinventory⟩ := cancelBackorder_idle hget hchild hfirst
      have hspec := cancelBackorder_spec hget hchild hcancel
      obtain ⟨hlines, htasks⟩ := unwound_idle hfirst
      have hsame : SameStock store middle :=
        ⟨hinventory, hspec.lines.trans hlines, hspec.tasks.trans htasks,
          hspec.breakdown, hspec.appSettings⟩
      obtain ⟨after, hfold, hrest⟩ := ih (hlive.tail hspec) fun child' hchild' =>
        (hsame.idle child').mpr (hidle child' (List.mem_cons_of_mem _ hchild'))
      refine ⟨after, ?_, hrest.inventory.trans hsame.inventory,
        hrest.lines.trans hsame.lines, hrest.tasks.trans hsame.tasks,
        hrest.breakdown.trans hsame.breakdown,
        hrest.appSettings.trans hsame.appSettings⟩
      rw [List.foldlM_cons, hcancel]
      exact hfold

theorem cascade_others (hlive : LiveOrders store children)
    (hfold : children.foldlM cancelBackorder store = .ok after) :
    (∀ entry : ℕ × SalesOrderLine, (∀ child ∈ children, entry.2.soId ≠ child.1) →
      (entry ∈ after.salesOrderLines.entries ↔
        entry ∈ store.salesOrderLines.entries)) ∧
      ∀ entry ∈ after.pickTasks.entries, entry ∈ store.pickTasks.entries := by
  induction children generalizing store with
  | nil =>
      cases hfold
      exact ⟨fun _ _ => Iff.rfl, fun _ hentry => hentry⟩
  | cons child children ih =>
      obtain ⟨hget, hchild⟩ := hlive.live child List.mem_cons_self
      obtain ⟨middle, hcancel, hrest⟩ := bind_eq_ok.mp hfold
      have hspec := cancelBackorder_spec hget hchild hcancel
      obtain ⟨hlines, htasks⟩ := ih (hlive.tail hspec) hrest
      constructor
      · intro entry hentry
        rw [hlines entry fun child' hchild' => hentry child' (List.mem_cons_of_mem _ hchild'),
          hspec.lines, mem_unwoundLines (hentry child List.mem_cons_self)]
      · intro entry hentry
        have hmiddle := htasks entry hentry
        rw [hspec.tasks, mem_unwoundTasks] at hmiddle
        exact hmiddle.1

theorem idle_of_cascade (hlive : LiveOrders store children)
    (hfold : children.foldlM cancelBackorder store = .ok after)
    (hlines : ∀ child ∈ children, ∀ entry ∈ store.salesOrderLines.entries, entry.2.soId = child.1 → entry ∈ after.salesOrderLines.entries)
    (htasks : ∀ child ∈ children, ∀ entry ∈ store.pickTasks.entries, entry.2.ofOrder child.1 = true → entry ∈ after.pickTasks.entries) :
    ∀ child ∈ children, store.Idle child := by
  induction children generalizing store with
  | nil =>
      intro child hchild
      cases hchild
  | cons child children ih =>
      obtain ⟨hget, hchild⟩ := hlive.live child List.mem_cons_self
      obtain ⟨middle, hcancel, hrest⟩ := bind_eq_ok.mp hfold
      have hspec := cancelBackorder_spec hget hchild hcancel
      have htail := hlive.tail hspec
      obtain ⟨hotherLines, hfewerTasks⟩ := cascade_others htail hrest
      have hdistinct : ∀ child' ∈ children, child.1 ≠ child'.1 := fun child' hchild' heq =>
        (List.nodup_cons.mp hlive.nodup).1 (heq ▸ List.mem_map_of_mem hchild')
      have hidle : store.Idle child := by
        apply idle_of_kept hspec.receivingBin
        · intro entry hentry hsoId
          rw [← hspec.lines, ← hotherLines entry fun child' hchild' =>
            hsoId ▸ hdistinct child' hchild']
          exact hlines child List.mem_cons_self entry hentry hsoId
        · intro entry hentry hof
          rw [← hspec.tasks]
          exact hfewerTasks entry (htasks child List.mem_cons_self entry hentry hof)
      obtain ⟨hkeptLines, hkeptTasks⟩ := unwound_idle hidle
      have hmiddleLines := hspec.lines.trans hkeptLines
      have hmiddleTasks := hspec.tasks.trans hkeptTasks
      have hothers : ∀ child' ∈ children, middle.Idle child' := by
        apply ih htail hrest
        · intro child' hchild' entry hentry
          rw [hmiddleLines] at hentry
          exact hlines child' (List.mem_cons_of_mem _ hchild') entry hentry
        · intro child' hchild' entry hentry
          rw [hmiddleTasks] at hentry
          exact htasks child' (List.mem_cons_of_mem _ hchild') entry hentry
      intro child' hchild'
      rcases List.mem_cons.mp hchild' with rfl | hin
      · exact hidle
      · have hmiddle := hothers child' hin
        rwa [Store.Idle, getDefaultReceivingBin, hmiddleLines, hmiddleTasks,
          hspec.appSettings, ← getDefaultReceivingBin, ← Store.Idle] at hmiddle

/-! ## The cancelled order -/

section OpenOrder

variable {order : SalesOrder} {unwound : Store}

/-- An order that is cancelled along the tasks gives back exactly what it holds when
these carry its reservation and nothing was picked. -/
theorem releasesExactly_iff (hunwinds : Unwinds store soId unwound)
    (hunbroken : store.brokenDownTask soId = none)
    (hsame : SameStock unwound after) (warehouseId : ℕ) :
    ReleasesExactly store soId warehouseId after ↔
      (∀ itemId warehouseId', ((store.allocatedLines soId).map fun line =>
        store.taskedUnits line itemId warehouseId').sum =
          if warehouseId' = warehouseId then store.outstandingOf soId itemId else 0) ∧
      ∀ itemId, store.pickedOf soId itemId = 0 := by
  have hallocated : ∀ itemId warehouseId', after.warehouseAllocated itemId warehouseId' =
      store.warehouseAllocated itemId warehouseId' -
        ((store.allocatedLines soId).map fun line =>
          store.taskedUnits line itemId warehouseId').sum := by
    intro itemId warehouseId'
    rw [← hunwinds.allocated, Store.warehouseAllocated, Store.stock, hsame.inventory]
    rfl
  have honHand : ∀ itemId warehouseId', after.warehouseOnHand itemId warehouseId' =
      store.warehouseOnHand itemId warehouseId' := by
    intro itemId warehouseId'
    rw [← hunwinds.onHand, Store.warehouseOnHand, Store.stock, hsame.inventory]
    rfl
  constructor
  · intro hreleases
    constructor
    · intro itemId warehouseId'
      have heq := hreleases.allocated itemId warehouseId'
      rw [hallocated] at heq
      omega
    · intro itemId
      have heq := hreleases.onHand itemId warehouseId
      rw [honHand, if_pos rfl] at heq
      omega
  · rintro ⟨htasked, hunpicked⟩
    constructor
    · intro itemId warehouseId'
      rw [hallocated, htasked]
    · intro itemId warehouseId'
      rw [honHand, hunpicked, ite_self, add_zero]
    · intro soLineId line hline hother
      rw [hsame.lines, hunwinds.lines]
      exact (mem_updateOrderLines (by intro line; rfl) hother).mpr hline
    · intro pickTaskId task htask hserves
      rw [hsame.tasks, hunwinds.tasks, Table.mem_deleteWhere]
      refine ⟨htask, ?_⟩
      rcases hserves with hother | ⟨breakdownId, row, hrow, hpickTask, -⟩
      · exact hother
      · rw [Store.brokenDownTask, Option.map_eq_none_iff, List.find?_eq_none] at hunbroken
        have hnone := hunbroken _ hrow
        rw [hpickTask, (Table.get?_eq_some _).mpr htask] at hnone
        simpa using hnone
    · intro breakdownId row hrow _
      rwa [hsame.breakdown, hunwinds.breakdown]

def markCancelled (unwound : Store) (soId : ℕ) : Store :=
  { unwound with
    salesOrders := unwound.salesOrders.modify soId fun order =>
      { order with status := .cancelled } }

theorem markCancelled_sameStock (unwound : Store) (soId : ℕ) :
    SameStock unwound (markCancelled unwound soId) :=
  ⟨rfl, rfl, rfl, rfl, rfl⟩

variable {child : ℕ × SalesOrder}

theorem mem_liveBackorders :
    child ∈ store.liveBackorders soId ↔ child ∈ store.salesOrders.entries ∧
      child.2.parentSoId = some soId ∧ child.2.orderType = .backorder ∧
      child.2.status ≠ .cancelled ∧ child.2.status ≠ .shipped := by
  simp [Store.liveBackorders, Table.mem_select, and_assoc]

theorem mem_liveBackorders_markCancelled (hget : store.salesOrders.get? soId = some order)
    (htype : order.orderType ≠ .backorder)
    (horders : unwound.salesOrders = store.salesOrders) :
    child ∈ (markCancelled unwound soId).liveBackorders soId ↔
      child ∈ store.liveBackorders soId := by
  have hrow := (Table.get?_eq_some _).mp hget
  obtain ⟨childId, childOrder⟩ := child
  rw [mem_liveBackorders, mem_liveBackorders, markCancelled]
  dsimp only
  rw [horders, Table.mem_modify]
  constructor
  · rintro ⟨⟨before, hbefore, hchild⟩, hparent, hbackorder, hlive, hshipped⟩
    split at hchild
    next => exact absurd (congrArg SalesOrder.status hchild).symm hlive
    next => exact ⟨hchild ▸ hbefore, hparent, hbackorder, hlive, hshipped⟩
  · rintro ⟨hchild, hparent, hbackorder, hlive, hshipped⟩
    refine ⟨⟨childOrder, hchild, if_neg ?_⟩, hparent, hbackorder, hlive, hshipped⟩
    rintro rfl
    rw [store.salesOrders.row_unique hchild hrow] at hbackorder
    exact htype hbackorder

theorem liveOrders_liveBackorders (store : Store) (soId : ℕ) :
    LiveOrders store (store.liveBackorders soId) where
  nodup := store.salesOrders.select_nodup _
  live child hchild := by
    obtain ⟨hmem, -, -, hcancelled, hshipped⟩ := mem_liveBackorders.mp hchild
    exact ⟨(Table.get?_eq_some _).mpr hmem, hshipped, hcancelled⟩

theorem idle_unwound (hunwinds : Unwinds store soId unwound) (hchild : child.1 ≠ soId) :
    (markCancelled unwound soId).Idle child ↔ store.Idle child := by
  have hlines : ∀ quantity : SalesOrderLine → ℤ,
      (∀ entry ∈ (markCancelled unwound soId).salesOrderLines.entries,
        entry.2.soId = child.1 → quantity entry.2 ≤ 0) ↔
      ∀ entry ∈ store.salesOrderLines.entries,
        entry.2.soId = child.1 → quantity entry.2 ≤ 0 := by
    intro quantity
    apply forall_congr'
    intro entry
    rw [markCancelled, hunwinds.lines]
    constructor
    · intro hall hentry hsoId
      exact hall ((mem_updateOrderLines (by intro line; rfl) (hsoId ▸ hchild)).mpr hentry)
        hsoId
    · intro hall hentry hsoId
      exact hall ((mem_updateOrderLines (by intro line; rfl) (hsoId ▸ hchild)).mp hentry)
        hsoId
  have htasks : (∀ entry ∈ (markCancelled unwound soId).pickTasks.entries,
        entry.2.ofOrder child.1 = false) ↔
      ∀ entry ∈ store.pickTasks.entries, entry.2.ofOrder child.1 = false := by
    apply forall_congr'
    intro entry
    rw [markCancelled, hunwinds.tasks, Table.mem_deleteWhere]
    constructor
    · intro hall hentry
      by_contra hof
      have hother : entry.2.ofOrder soId = false := by
        rw [PickTask.ofOrder] at hof ⊢
        split at hof <;> simp_all
      exact hof (hall ⟨hentry, hother⟩)
    · exact fun hall hentry => hall hentry.1
  have hbin : getDefaultReceivingBin (markCancelled unwound soId) =
      getDefaultReceivingBin store := by
    rw [getDefaultReceivingBin, markCancelled, hunwinds.appSettings, getDefaultReceivingBin]
  rw [Store.Idle, Store.Idle, hlines, hlines, htasks, hbin]

theorem cancelSalesOrder_unwound (hget : store.salesOrders.get? soId = some order)
    (hopen : order.status = .open) (hunwind : unwindAllocated store soId = .ok unwound) :
    cancelSalesOrder store soId =
      if order.orderType = .backorder then
        .ok (markCancelled unwound soId,
          { preStatus := order.status, soNumber := order.soNumber })
      else
        (((markCancelled unwound soId).liveBackorders soId).foldlM cancelBackorder
          (markCancelled unwound soId)).map fun after =>
            (after, { preStatus := order.status, soNumber := order.soNumber }) := by
  have hlive : order.Live := by
    rw [SalesOrder.Live, hopen]
    exact ⟨nofun, nofun⟩
  have hcancel : cancelOrder store soId = .ok (markCancelled unwound soId, order) := by
    rw [cancelOrder_live hget hlive, unwind, hopen]
    dsimp only
    rw [hunwind]
    rfl
  have hnot : order.status ≠ .cancelled := hlive.2
  rw [cancelSalesOrder, hcancel]
  simp only [bind, Except.bind, hnot, false_or]
  split
  · rfl
  · cases ((markCancelled unwound soId).liveBackorders soId).foldlM cancelBackorder
      (markCancelled unwound soId) <;> rfl

/-- Cancelling an OPEN order releases exactly what it holds if and only if its
pending tasks carry all of it and nothing is shared. -/
theorem cancel_releases_iff (hget : store.salesOrders.get? soId = some order)
    (hopen : order.status = .open) :
    (∃ after result, cancelSalesOrder store soId = .ok (after, result) ∧
      ReleasesExactly store soId order.warehouseId after) ↔
      HeldByTasks store soId order := by
  rcases unwindAllocated_spec store soId with
    ⟨hunbroken, unwound, hunwind, hunwinds⟩ | ⟨pickTaskId, hbroken, herror⟩
  · rw [cancelSalesOrder_unwound hget hopen hunwind]
    by_cases htype : order.orderType = .backorder
    · have hreleases := releasesExactly_iff hunwinds hunbroken
        (markCancelled_sameStock unwound soId) order.warehouseId
      rw [if_pos htype]
      constructor
      · rintro ⟨after, result, hok, hexact⟩
        cases hok
        obtain ⟨htasked, hunpicked⟩ := hreleases.mp hexact
        exact ⟨htasked, hunpicked, hunbroken, fun hnot => absurd htype hnot⟩
      · intro hheld
        exact ⟨_, _, rfl, hreleases.mpr ⟨hheld.tasked, hheld.unpicked⟩⟩
    · rw [if_neg htype]
      have hlive := liveOrders_liveBackorders (markCancelled unwound soId) soId
      have hchildren : ∀ {child},
          child ∈ (markCancelled unwound soId).liveBackorders soId ↔
            child ∈ store.liveBackorders soId :=
        mem_liveBackorders_markCancelled hget htype hunwinds.salesOrders
      have hdistinct : ∀ child ∈ store.liveBackorders soId, child.1 ≠ soId := by
        intro child hchild heq
        obtain ⟨hmem, -, hbackorder, -⟩ := mem_liveBackorders.mp hchild
        have hrow := (Table.get?_eq_some _).mp hget
        rw [← heq] at hrow
        rw [store.salesOrders.row_unique hmem hrow] at hbackorder
        exact htype hbackorder
      constructor
      · rintro ⟨after, result, hok, hexact⟩
        cases hfold : ((markCancelled unwound soId).liveBackorders soId).foldlM
            cancelBackorder (markCancelled unwound soId) with
        | error error =>
            rw [hfold] at hok
            cases hok
        | ok cancelled =>
            rw [hfold] at hok
            cases hok
            have hidle : ∀ child ∈ (markCancelled unwound soId).liveBackorders soId,
                (markCancelled unwound soId).Idle child := by
              apply idle_of_cascade hlive hfold
              · rintro child hchild ⟨soLineId, line⟩ hline hsoId
                have hother : line.soId ≠ soId :=
                  hsoId ▸ hdistinct child (hchildren.mp hchild)
                rw [markCancelled, hunwinds.lines,
                  mem_updateOrderLines (by intro line; rfl) hother] at hline
                exact hexact.lines soLineId line hline hother
              · rintro child hchild ⟨pickTaskId, task⟩ htask -
                rw [markCancelled, hunwinds.tasks, Table.mem_deleteWhere] at htask
                exact hexact.tasks pickTaskId task htask.1 (.inl htask.2)
            obtain ⟨after', hfold', hsame⟩ := cascade_idle hlive hidle
            cases hfold.symm.trans hfold'
            have hkept := markCancelled_sameStock unwound soId
            obtain ⟨htasked, hunpicked⟩ := (releasesExactly_iff hunwinds hunbroken
              ⟨hsame.inventory, hsame.lines, hsame.tasks, hsame.breakdown,
                hsame.appSettings⟩ order.warehouseId).mp hexact
            refine ⟨htasked, hunpicked, hunbroken, fun _ child hchild => ?_⟩
            exact (idle_unwound hunwinds (hdistinct child hchild)).mp
              (hidle child (hchildren.mpr hchild))
      · intro hheld
        have hidle : ∀ child ∈ (markCancelled unwound soId).liveBackorders soId,
            (markCancelled unwound soId).Idle child := by
          intro child hchild
          have hin := hchildren.mp hchild
          exact (idle_unwound hunwinds (hdistinct child hin)).mpr
            (hheld.backorders htype child hin)
        obtain ⟨after, hfold, hsame⟩ := cascade_idle hlive hidle
        rw [hfold]
        exact ⟨_, _, rfl, (releasesExactly_iff hunwinds hunbroken
          ⟨hsame.inventory, hsame.lines, hsame.tasks, hsame.breakdown,
            hsame.appSettings⟩ order.warehouseId).mpr ⟨hheld.tasked, hheld.unpicked⟩⟩
  · constructor
    · rintro ⟨after, result, hok, -⟩
      have hlive : order.Live := by
        rw [SalesOrder.Live, hopen]
        exact ⟨nofun, nofun⟩
      rw [cancelSalesOrder, cancelOrder_live hget hlive, unwind, hopen] at hok
      dsimp only at hok
      rw [herror] at hok
      cases hok
    · intro hheld
      rw [hheld.undivided] at hbroken
      cases hbroken

end OpenOrder

/-! ## Orders of a small shop -/

/-- An OPEN order for two units whose task reserves them in its bin. -/
def taskedStore : Store where
  inventory := .ofRows
    [{ itemId := 1, binId := 1, warehouseId := 1, quantityOnHand := 5,
       quantityAllocated := 2, lotNumber := none, updatedAt := 0 }]
  salesOrders := .ofRows
    [{ soNumber := "SO-1", soBarcode := none, status := .open, warehouseId := 1,
       orderType := .sale, parentSoId := none, cancellationReason := none }]
  salesOrderLines := .ofRows
    [{ soId := 1, itemId := 1, lineNumber := 1, quantityOrdered := 2,
       quantityAllocated := 2, quantityPicked := 0 }]
  pickTasks := .ofRows
    [{ batchId := 1, target := .salesOrder 1 (some 1), itemId := 1, binId := 1,
       quantityToPick := 2, quantityPicked := 0, pickSequence := 1,
       toteNumber := none, status := .pending }]

theorem heldByTasks_taskedStore (order : SalesOrder)
    (hwarehouse : order.warehouseId = 1) : HeldByTasks taskedStore 1 order where
  tasked itemId warehouseId := by
    have hlot : taskedStore.lotRows itemId 1 warehouseId =
        (if 1 == itemId && 1 == 1 && 1 == warehouseId then 1 else 0) + 0 := rfl
    have htasked : ((taskedStore.allocatedLines 1).map fun line =>
        taskedStore.taskedUnits line itemId warehouseId).sum =
          (if 1 = itemId then 2 * taskedStore.lotRows itemId 1 warehouseId else 0) + 0 + 0 :=
      rfl
    have hheld : taskedStore.outstandingOf 1 itemId =
        (if 1 == 1 && 1 == itemId then 2 - 0 else 0) + 0 := rfl
    rw [htasked, hlot, hheld, hwarehouse]
    grind
  unpicked itemId := by
    have hpicked : taskedStore.pickedOf 1 itemId =
        (if 1 == 1 && 1 == itemId then 0 else 0) + 0 := rfl
    rw [hpicked, ite_self, add_zero]
  undivided := rfl
  backorders _ child hchild := by
    cases hchild

theorem cancel_releases_taskedStore :
    ∃ after result, cancelSalesOrder taskedStore 1 = .ok (after, result) ∧
      ReleasesExactly taskedStore 1 1 after :=
  (cancel_releases_iff rfl rfl).mpr (heldByTasks_taskedStore _ rfl)

def phoneOrderStore : Store :=
  ((checkout (shopStore [2]) "" [1] (twoLinesBody true)).toOption.map Prod.fst).getD
    (shopStore [2])

def cancelledPhoneStore : Store :=
  ((cancelSalesOrder phoneOrderStore 1).toOption.map Prod.fst).getD phoneOrderStore

/-- A phone order reserves without tasks: its cancellation zeroes the lines and
leaves both units reserved. -/
theorem cancel_strands_phone_order :
    checkout (shopStore [2]) "" [1] (twoLinesBody true) =
        .ok (phoneOrderStore, { soNumber := "POS-1", replayed := false }) ∧
      cancelSalesOrder phoneOrderStore 1 =
        .ok (cancelledPhoneStore, { preStatus := .open, soNumber := "POS-1" }) ∧
      phoneOrderStore.outstandingOf 1 1 = 2 ∧
      cancelledPhoneStore.outstandingOf 1 1 = 0 ∧
      phoneOrderStore.warehouseAllocated 1 1 = 2 ∧
      cancelledPhoneStore.warehouseAllocated 1 1 = 2 ∧
      ¬ ReleasesExactly phoneOrderStore 1 1 cancelledPhoneStore := by
  refine ⟨rfl, rfl, rfl, rfl, rfl, rfl, ?_⟩
  intro hreleases
  have hallocated : (2 : ℤ) = 2 - 2 := hreleases.allocated 1 1
  cases hallocated

end SentryWms
