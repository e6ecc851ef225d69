import SentryWms.Picking.TakenOut
import SentryWms.Picking.WaveCredit
import SentryWms.SalesOrder.Revert

/-!
# What a revert gives back

Releasing a task returns all its units to the bin and takes them off the one line that the
task names, floored at zero. A task that was picked for several lines names only the first of
them: its units go back while the other lines keep them, and an order whose units came from
such a task has no task of its own to release.
-/

namespace SentryWms

open Relational Transition

def Store.linesPicked (store : Store) (itemId : ℕ) : ℤ :=
  store.salesOrderLines.total fun _ line =>
    if line.itemId = itemId then line.quantityPicked else 0

def pickedFor (tasks : List (ℕ × PickTask)) (soLineId : ℕ) : ℤ :=
  (tasks.map fun entry =>
    if entry.2.target.soLineId = some soLineId then entry.2.quantityPicked else 0).sum

def Store.releasableTasks (store : Store) (soId : ℕ) : List (ℕ × PickTask) :=
  store.pickTasks.select fun task =>
    task.status == .picked &&
      match task.target with
      | .salesOrder soId' _ => soId' == soId
      | .transferOrder _ _ => false

/-- Quantities picked are not negative, and a task picks the item of the line it names. -/
structure Store.PicksKept (store : Store) : Prop where
  tasks : ∀ entry ∈ store.pickTasks.entries, 0 ≤ entry.2.quantityPicked
  lines : ∀ entry ∈ store.salesOrderLines.entries, 0 ≤ entry.2.quantityPicked
  named : ∀ entry ∈ store.pickTasks.entries, ∀ soLineId,
    entry.2.target.soLineId = some soLineId →
    ∃ line, (soLineId, line) ∈ store.salesOrderLines.entries ∧
      line.itemId = entry.2.itemId

def Store.CountsReleased (store : Store) (tasks : List (ℕ × PickTask)) : Prop :=
  (∀ entry ∈ store.salesOrderLines.entries,
    pickedFor tasks entry.1 ≤ entry.2.quantityPicked) ∧
  ∀ entry ∈ tasks, entry.2.target.soLineId = none → entry.2.quantityPicked = 0

def Store.PickedByTasks (store : Store) (soId : ℕ) : Prop :=
  ∀ entry ∈ store.salesOrderLines.entries, entry.2.soId = soId →
    entry.2.quantityPicked ≤ pickedFor (store.releasableTasks soId) entry.1

section Release

variable {store : Store} {warehouseId : ℕ}

/-! ## One task after the other -/

@[simp]
theorem pickedFor_nil (soLineId : ℕ) : pickedFor [] soLineId = 0 := rfl

@[simp]
theorem pickedFor_cons (entry : ℕ × PickTask) (tasks : List (ℕ × PickTask))
    (soLineId : ℕ) :
    pickedFor (entry :: tasks) soLineId =
      (if entry.2.target.soLineId = some soLineId then entry.2.quantityPicked else 0) +
        pickedFor tasks soLineId := by
  simp [pickedFor]

variable {tasks : List (ℕ × PickTask)}

theorem pickedFor_nonneg (htasks : ∀ entry ∈ tasks, 0 ≤ entry.2.quantityPicked)
    (soLineId : ℕ) :
    0 ≤ pickedFor tasks soLineId := by
  apply List.sum_nonneg
  intro picked hpicked
  obtain ⟨entry, hentry, rfl⟩ := List.mem_map.mp hpicked
  have hnonneg := htasks entry hentry
  split <;> omega

theorem takeOffLine_inventory (store : Store) (task : PickTask) :
    (takeOffLine store task).inventory = store.inventory := by
  rw [takeOffLine]
  split <;> rfl

theorem restoreBin_lines (store : Store) (warehouseId : ℕ) (task : PickTask) :
    (restoreBin store warehouseId task).salesOrderLines = store.salesOrderLines := by
  rw [restoreBin]
  split
  · obtain ⟨inventory, hadd⟩ := addInventory_spec store task.itemId task.binId warehouseId
      task.quantityPicked none
    rw [hadd]
  · rfl

theorem releasePick_onHand {entry : ℕ × PickTask} (hpicked : 0 ≤ entry.2.quantityPicked)
    (store : Store) (itemId : ℕ) :
    (releasePick warehouseId store entry).onHand itemId =
      store.onHand itemId + if entry.2.itemId = itemId then entry.2.quantityPicked else 0 := by
  have hsame : (releasePick warehouseId store entry).inventory =
      (restoreBin store warehouseId entry.2).inventory :=
    takeOffLine_inventory _ _
  rw [onHand_congr hsame, restoreBin]
  split
  next => exact addInventory_onHand _ _ _ _ _ _ _
  next hnone =>
    have hzero : entry.2.quantityPicked = 0 := by omega
    rw [hzero, ite_self, add_zero]

theorem releasePick_lines (warehouseId : ℕ) (entry : ℕ × PickTask) (store : Store) :
    ∃ quantityAllocated : ℕ → SalesOrderLine → ℤ,
      (releasePick warehouseId store entry).salesOrderLines =
        store.salesOrderLines.mapRows fun soLineId line =>
          { line with
            quantityPicked :=
              if entry.2.target.soLineId = some soLineId then
                max (line.quantityPicked - entry.2.quantityPicked) 0
              else line.quantityPicked
            quantityAllocated := quantityAllocated soLineId line } := by
  have hlines := restoreBin_lines store warehouseId entry.2
  have hsame : (releasePick warehouseId store entry).salesOrderLines =
      (takeOffLine (restoreBin store warehouseId entry.2) entry.2).salesOrderLines := rfl
  rw [hsame, takeOffLine]
  cases htarget : entry.2.target.soLineId with
  | none =>
      refine ⟨fun _ line => line.quantityAllocated, ?_⟩
      dsimp only
      rw [hlines]
      simp only [reduceCtorEq, if_false]
      exact (Table.mapRows_id _).symm
  | some named =>
      refine ⟨fun soLineId line => if soLineId = named then
        max (line.quantityAllocated - entry.2.quantityToPick) 0
        else line.quantityAllocated, ?_⟩
      dsimp only
      rw [hlines, Table.modify]
      congr 1
      funext soLineId line
      by_cases hkey : soLineId = named
      · simp [hkey]
      · simp [hkey, Ne.symm hkey]

theorem releaseFold_lines (warehouseId : ℕ)
    (htasks : ∀ entry ∈ tasks, 0 ≤ entry.2.quantityPicked) {store : Store}
    (hlines : ∀ entry ∈ store.salesOrderLines.entries, 0 ≤ entry.2.quantityPicked) :
    ∃ quantityAllocated : ℕ → SalesOrderLine → ℤ,
      (tasks.foldl (releasePick warehouseId) store).salesOrderLines =
        store.salesOrderLines.mapRows fun soLineId line =>
          { line with
            quantityPicked := max (line.quantityPicked - pickedFor tasks soLineId) 0
            quantityAllocated := quantityAllocated soLineId line } := by
  induction tasks generalizing store with
  | nil =>
      refine ⟨fun _ line => line.quantityAllocated, ?_⟩
      rw [List.foldl_nil]
      conv_lhs => rw [← Table.mapRows_id store.salesOrderLines]
      apply Table.mapRows_congr
      intro soLineId line hline
      have hnonneg := hlines (soLineId, line) hline
      rw [pickedFor_nil, sub_zero, max_eq_left hnonneg]
  | cons entry tasks ih =>
      obtain ⟨hentry, hrest⟩ := List.forall_mem_cons.mp htasks
      obtain ⟨allocated, hfirst⟩ := releasePick_lines warehouseId entry store
      have hmiddle : ∀ found ∈
          (releasePick warehouseId store entry).salesOrderLines.entries,
          0 ≤ found.2.quantityPicked := by
        rintro ⟨soLineId, line⟩ hline
        rw [hfirst] at hline
        obtain ⟨before, hbefore, rfl⟩ := (Table.mem_mapRows _).mp hline
        have hnonneg := hlines _ hbefore
        dsimp only at hnonneg ⊢
        split
        · exact le_max_right _ _
        · exact hnonneg
      obtain ⟨allocated', hothers⟩ := ih hrest hmiddle
      have hpicked := pickedFor_nonneg hrest
      refine ⟨fun soLineId line => allocated' soLineId
        { line with
          quantityPicked :=
            if entry.2.target.soLineId = some soLineId then
              max (line.quantityPicked - entry.2.quantityPicked) 0
            else line.quantityPicked
          quantityAllocated := allocated soLineId line }, ?_⟩
      rw [List.foldl_cons, hothers, hfirst, Table.mapRows_mapRows]
      congr 1
      funext soLineId line
      have hnonneg := hpicked soLineId
      have hfloor : max ((if entry.2.target.soLineId = some soLineId then
            max (line.quantityPicked - entry.2.quantityPicked) 0
          else line.quantityPicked) - pickedFor tasks soLineId) 0 =
          max (line.quantityPicked - pickedFor (entry :: tasks) soLineId) 0 := by
        rw [pickedFor_cons]
        split <;> omega
      rw [hfloor]

theorem releaseFold_onHand (htasks : ∀ entry ∈ tasks, 0 ≤ entry.2.quantityPicked)
    (store : Store) (itemId : ℕ) :
    (tasks.foldl (releasePick warehouseId) store).onHand itemId =
      store.onHand itemId + (tasks.map fun entry =>
        if entry.2.itemId = itemId then entry.2.quantityPicked else 0).sum := by
  induction tasks generalizing store with
  | nil => simp
  | cons entry tasks ih =>
      obtain ⟨hentry, hrest⟩ := List.forall_mem_cons.mp htasks
      rw [List.foldl_cons, ih hrest, releasePick_onHand hentry, List.map_cons, List.sum_cons,
        add_assoc]

/-! ## Given back and taken off -/

theorem sum_tasks_eq (hkept : store.PicksKept)
    (htasks : ∀ entry ∈ tasks, entry ∈ store.pickTasks.entries) (itemId : ℕ) :
    (tasks.map fun entry =>
        if entry.2.itemId = itemId then entry.2.quantityPicked else 0).sum =
      (store.salesOrderLines.total fun soLineId line =>
        if line.itemId = itemId then pickedFor tasks soLineId else 0) +
      (tasks.map fun entry =>
        if entry.2.target.soLineId = none ∧ entry.2.itemId = itemId then
          entry.2.quantityPicked
        else 0).sum := by
  induction tasks with
  | nil => simp
  | cons entry tasks ih =>
      obtain ⟨hentry, hrest⟩ := List.forall_mem_cons.mp htasks
      have hsplit : (store.salesOrderLines.total fun soLineId line =>
          if line.itemId = itemId then pickedFor (entry :: tasks) soLineId else 0) =
          (store.salesOrderLines.total fun soLineId line =>
            if line.itemId = itemId then
              if entry.2.target.soLineId = some soLineId then entry.2.quantityPicked else 0
            else 0) +
          store.salesOrderLines.total fun soLineId line =>
            if line.itemId = itemId then pickedFor tasks soLineId else 0 := by
        rw [← Table.total_add]
        apply Table.total_congr
        intro soLineId line _
        rw [pickedFor_cons]
        split <;> simp
      have hhead : (if entry.2.itemId = itemId then entry.2.quantityPicked else 0) =
          (store.salesOrderLines.total fun soLineId line =>
            if line.itemId = itemId then
              if entry.2.target.soLineId = some soLineId then entry.2.quantityPicked else 0
            else 0) +
          if entry.2.target.soLineId = none ∧ entry.2.itemId = itemId then
            entry.2.quantityPicked
          else 0 := by
        cases htarget : entry.2.target.soLineId with
        | none => simp
        | some named =>
            obtain ⟨line, hline, hitem⟩ := hkept.named entry hentry named htarget
            have hsingle := store.salesOrderLines.total_single hline fun _ line =>
              if line.itemId = itemId then entry.2.quantityPicked else 0
            rw [hitem] at hsingle
            rw [← hsingle]
            simp only [reduceCtorEq, false_and, if_false, add_zero]
            apply Table.total_congr
            intro soLineId found _
            by_cases hkey : soLineId = named
            · simp [hkey]
            · simp [hkey, Ne.symm hkey]
      rw [List.map_cons, List.sum_cons, ih hrest, hsplit, List.map_cons, List.sum_cons, hhead]
      ring

theorem releaseFold_iff (warehouseId : ℕ) (hkept : store.PicksKept)
    (htasks : ∀ entry ∈ tasks, entry ∈ store.pickTasks.entries) :
    (∀ itemId, (tasks.foldl (releasePick warehouseId) store).onHand itemId -
          store.onHand itemId =
        store.linesPicked itemId -
          (tasks.foldl (releasePick warehouseId) store).linesPicked itemId) ↔
      store.CountsReleased tasks := by
  have hnonneg : ∀ entry ∈ tasks, 0 ≤ entry.2.quantityPicked := fun entry hentry =>
    hkept.tasks entry (htasks entry hentry)
  obtain ⟨quantityAllocated, hlines⟩ :=
    releaseFold_lines warehouseId hnonneg hkept.lines
  -- what is given back beyond what the lines lose, line by line and task by task
  have hbeyond : ∀ itemId,
      ((tasks.foldl (releasePick warehouseId) store).onHand itemId - store.onHand itemId) -
        (store.linesPicked itemId -
          (tasks.foldl (releasePick warehouseId) store).linesPicked itemId) =
      (store.salesOrderLines.total fun soLineId line =>
        if line.itemId = itemId then
          max (pickedFor tasks soLineId - line.quantityPicked) 0
        else 0) +
      (tasks.map fun entry =>
        if entry.2.target.soLineId = none ∧ entry.2.itemId = itemId then
          entry.2.quantityPicked
        else 0).sum := by
    intro itemId
    have hafter : (tasks.foldl (releasePick warehouseId) store).linesPicked itemId =
        store.salesOrderLines.total fun soLineId line =>
          if line.itemId = itemId then
            max (line.quantityPicked - pickedFor tasks soLineId) 0
          else 0 := by
      rw [Store.linesPicked, hlines, Table.total_mapRows]
    have hsum : (store.salesOrderLines.total fun soLineId line =>
          if line.itemId = itemId then pickedFor tasks soLineId else 0) -
        (store.linesPicked itemId -
          store.salesOrderLines.total fun soLineId line =>
            if line.itemId = itemId then
              max (line.quantityPicked - pickedFor tasks soLineId) 0
            else 0) =
        store.salesOrderLines.total fun soLineId line =>
          if line.itemId = itemId then
            max (pickedFor tasks soLineId - line.quantityPicked) 0
          else 0 := by
      rw [Store.linesPicked, ← Table.total_sub, ← Table.total_sub]
      apply Table.total_congr
      intro soLineId line _
      split <;> omega
    rw [releaseFold_onHand hnonneg, sum_tasks_eq hkept htasks, hafter, ← hsum]
    ring
  have hlost : ∀ itemId, 0 ≤ (tasks.map fun entry =>
      if entry.2.target.soLineId = none ∧ entry.2.itemId = itemId then
        entry.2.quantityPicked
      else 0).sum := by
    intro itemId
    apply List.sum_nonneg
    intro lost hmem
    obtain ⟨entry, hentry, rfl⟩ := List.mem_map.mp hmem
    have hentry := hnonneg entry hentry
    split <;> omega
  have hover : ∀ itemId, ∀ soLineId line,
      (soLineId, line) ∈ store.salesOrderLines.entries →
      0 ≤ if line.itemId = itemId then
          max (pickedFor tasks soLineId - line.quantityPicked) 0
        else 0 := by
    intro itemId soLineId line _
    split <;> omega
  constructor
  · intro hequal
    have hzero : ∀ itemId, _ = (0 : ℤ) := fun itemId =>
      (hbeyond itemId).symm.trans (sub_eq_zero.mpr (hequal itemId))
    constructor
    · rintro ⟨soLineId, line⟩ hline
      have hle := Table.le_total _ (hover line.itemId) hline
      have hlostItem := hlost line.itemId
      have hzeroItem := hzero line.itemId
      rw [if_pos rfl] at hle
      dsimp only
      omega
    · intro entry hentry hnone
      have hle : (if entry.2.target.soLineId = none ∧ entry.2.itemId = entry.2.itemId then
          entry.2.quantityPicked else 0) ≤ (tasks.map fun other =>
            if other.2.target.soLineId = none ∧ other.2.itemId = entry.2.itemId then
              other.2.quantityPicked
            else 0).sum := by
        apply List.single_le_sum
        · intro lost hmem
          obtain ⟨other, hother, rfl⟩ := List.mem_map.mp hmem
          have hother := hnonneg other hother
          split <;> omega
        · exact List.mem_map_of_mem hentry
      rw [if_pos ⟨hnone, rfl⟩] at hle
      have htotal := Table.total_nonneg _ (hover entry.2.itemId)
      have hzeroItem := hzero entry.2.itemId
      have hentry := hnonneg entry hentry
      omega
  · rintro ⟨hcounts, hgone⟩ itemId
    have hline : (store.salesOrderLines.total fun soLineId line =>
        if line.itemId = itemId then
          max (pickedFor tasks soLineId - line.quantityPicked) 0
        else 0) = 0 := by
      apply Table.total_eq_zero
      intro soLineId line hline
      have hcount := hcounts (soLineId, line) hline
      dsimp only at hcount
      split <;> omega
    have hnone : (tasks.map fun entry =>
        if entry.2.target.soLineId = none ∧ entry.2.itemId = itemId then
          entry.2.quantityPicked
        else 0).sum = 0 := by
      apply List.sum_eq_zero
      intro lost hmem
      obtain ⟨entry, hentry, rfl⟩ := List.mem_map.mp hmem
      split
      next hcond => exact hgone entry hentry hcond.1
      next => rfl
    have hsub := hbeyond itemId
    rw [hline, hnone, add_zero] at hsub
    exact sub_eq_zero.mp hsub

/-! ## The revert -/

variable {soId : ℕ}

theorem mem_releasedTasks {pickTaskIds : List ℕ} {entry : ℕ × PickTask}
    (hentry : entry ∈ store.releasedTasks soId pickTaskIds) :
    entry ∈ store.pickTasks.entries ∧ entry.1 ∈ pickTaskIds := by
  obtain ⟨hmem, hcond⟩ := List.mem_filter.mp hentry
  exact ⟨hmem, List.contains_iff_mem.mp (Bool.and_eq_true_iff.mp hcond).1⟩

theorem releasedTasks_dedup (store : Store) (soId : ℕ) (pickTaskIds : List ℕ) :
    store.releasedTasks soId pickTaskIds.dedup = store.releasedTasks soId pickTaskIds := by
  unfold Store.releasedTasks
  congr 1
  funext entry
  have hcontains : pickTaskIds.dedup.contains entry.1 = pickTaskIds.contains entry.1 := by
    rw [Bool.eq_iff_iff, List.contains_iff_mem, List.contains_iff_mem, List.mem_dedup]
  rw [hcontains]

theorem demote_counts (store : Store) (soId : ℕ) (order : SalesOrder) (curIdx newIdx : ℕ)
    (newStatus : SoStatus) (itemId : ℕ) :
    (demote store soId order curIdx newIdx newStatus).onHand itemId = store.onHand itemId ∧
      (demote store soId order curIdx newIdx newStatus).linesPicked itemId =
        store.linesPicked itemId := by
  have hunpack : (unpackLines store soId).linesPicked itemId = store.linesPicked itemId := by
    rw [Store.linesPicked, unpackLines, Table.updateWhere, Table.total_mapRows]
    apply Table.total_congr
    intro soLineId line _
    split <;> rfl
  rw [demote]
  constructor
  · split <;> split <;> split <;> rfl
  · split <;> split <;> split <;> first | rfl | exact hunpack

theorem revert_spec {newStatus : SoStatus} {releasePickTaskIds : List ℕ} {after : Store}
    (hrevert : revertSalesOrderStatus store soId newStatus releasePickTaskIds = .ok after) :
    ∃ order curIdx newIdx, after = demote
      ((store.releasedTasks soId releasePickTaskIds).foldl
        (releasePick order.warehouseId) store) soId order curIdx newIdx newStatus := by
  rw [revertSalesOrderStatus] at hrevert
  split at hrevert
  · cases hrevert
  next newIdx _ =>
  split at hrevert
  · cases hrevert
  next order _ =>
  split at hrevert
  · cases hrevert
  split at hrevert
  · cases hrevert
  split at hrevert
  · cases hrevert
  next curIdx _ =>
  split at hrevert
  · cases hrevert
  obtain ⟨released, hrelease, hrest⟩ := bind_eq_ok.mp hrevert
  split at hrest
  · cases hrest
  · cases hrest
    rw [releasePicks] at hrelease
    split at hrelease
    · cases hrelease
    split at hrelease
    · cases hrelease
    · cases hrelease
      refine ⟨order, curIdx, newIdx, ?_⟩
      rw [releasedTasks_dedup]

theorem releasePicks_releasable (store : Store) (soId warehouseId : ℕ) :
    releasePicks store soId warehouseId
        ((store.releasableTasks soId).map Prod.fst).dedup =
      .ok ((store.releasableTasks soId).foldl (releasePick warehouseId) store) := by
  have htasks : store.releasedTasks soId ((store.releasableTasks soId).map Prod.fst).dedup =
      store.releasableTasks soId := by
    rw [releasedTasks_dedup, Store.releasedTasks, Store.releasableTasks, Table.select]
    apply List.filter_congr
    rintro ⟨pickTaskId, task⟩ htask
    rw [Bool.eq_iff_iff, Bool.and_eq_true, Bool.and_eq_true, List.contains_iff_mem]
    refine and_congr_left fun horder => ?_
    constructor
    · intro hmem
      obtain ⟨⟨found, task'⟩, hfound, hkey⟩ := List.mem_map.mp hmem
      obtain ⟨hmem', hcond⟩ := List.mem_filter.mp hfound
      dsimp only at hkey
      subst hkey
      rw [store.pickTasks.row_unique htask hmem']
      exact (Bool.and_eq_true_iff.mp hcond).1
    · intro hpicked
      exact List.mem_map_of_mem (f := Prod.fst)
        (List.mem_filter.mpr ⟨htask, Bool.and_eq_true_iff.mpr ⟨hpicked, horder⟩⟩)
  have hmissing : (((store.releasableTasks soId).map Prod.fst).dedup.filter fun pickTaskId =>
      !((store.releasableTasks soId).map Prod.fst).contains pickTaskId) = [] := by
    rw [List.filter_eq_nil_iff]
    intro pickTaskId hmem
    rw [List.mem_dedup] at hmem
    simpa using hmem
  have hwrong : ((store.releasableTasks soId).filter fun entry =>
      entry.2.status != .picked) = [] := by
    rw [List.filter_eq_nil_iff]
    intro entry hentry
    have hpicked := (Bool.and_eq_true_iff.mp (List.mem_filter.mp hentry).2).1
    rw [beq_iff_eq] at hpicked
    rw [hpicked]
    decide
  rw [releasePicks, htasks, hmissing, hwrong]

theorem pickedUnits_pos_iff (hkept : store.PicksKept) (soId warehouseId : ℕ) :
    0 < ((store.releasableTasks soId).foldl (releasePick warehouseId) store).pickedUnits
        soId ↔ ¬ store.PickedByTasks soId := by
  have hnonneg : ∀ entry ∈ store.releasableTasks soId, 0 ≤ entry.2.quantityPicked :=
    fun entry hentry => hkept.tasks entry (List.mem_filter.mp hentry).1
  obtain ⟨quantityAllocated, hlines⟩ := releaseFold_lines warehouseId hnonneg hkept.lines
  have hunits : ((store.releasableTasks soId).foldl (releasePick warehouseId)
      store).pickedUnits soId = store.salesOrderLines.total fun soLineId line =>
        if line.soId == soId then
          max (line.quantityPicked - pickedFor (store.releasableTasks soId) soLineId) 0
        else 0 := by
    rw [Store.pickedUnits, hlines, Table.total_mapRows]
  have hline : ∀ soLineId line, (soLineId, line) ∈ store.salesOrderLines.entries →
      0 ≤ if line.soId == soId then
          max (line.quantityPicked - pickedFor (store.releasableTasks soId) soLineId) 0
        else 0 := by
    intro soLineId line _
    split <;> omega
  rw [hunits]
  constructor
  · intro hpos hpicked
    have hzero : (store.salesOrderLines.total fun soLineId line =>
        if line.soId == soId then
          max (line.quantityPicked - pickedFor (store.releasableTasks soId) soLineId) 0
        else 0) = 0 := by
      apply Table.total_eq_zero
      intro soLineId line hmem
      split
      next hso =>
        have hle := hpicked (soLineId, line) hmem (beq_iff_eq.mp hso)
        dsimp only at hle
        omega
      next => rfl
    omega
  · intro hleft
    rw [Store.PickedByTasks, not_forall] at hleft
    obtain ⟨⟨soLineId, line⟩, hmore⟩ := hleft
    rw [Classical.not_imp, Classical.not_imp, not_le] at hmore
    obtain ⟨hmem, hso, hlt⟩ := hmore
    have hle := Table.le_total _ hline hmem
    rw [if_pos (beq_iff_eq.mpr hso)] at hle
    dsimp only at hlt
    omega

theorem revert_open_iff (hkept : store.PicksKept) {order : SalesOrder}
    (horder : store.salesOrders.get? soId = some order)
    (hladder : order.status = .picked ∨ order.status = .packed ∨ order.status = .shipped) :
    (∃ after, revertSalesOrderStatus store soId .open
        ((store.releasableTasks soId).map Prod.fst) = .ok after) ↔
      orderTypeAllowsFulfillmentOps order.orderType = true ∧ store.PickedByTasks soId := by
  obtain ⟨curIdx, hcur⟩ : ∃ curIdx, statusOrder order.status = some curIdx := by
    rcases hladder with hstatus | hstatus | hstatus <;> rw [hstatus]
    · exact ⟨1, rfl⟩
    · exact ⟨2, rfl⟩
    · exact ⟨3, rfl⟩
  have hlive : order.status ≠ .cancelled := by
    rcases hladder with hstatus | hstatus | hstatus <;> rw [hstatus] <;> decide
  have hunits := pickedUnits_pos_iff hkept soId order.warehouseId
  have hopen : statusOrder .open = some 0 := rfl
  rw [revertSalesOrderStatus, hopen, horder]
  dsimp only
  rw [if_neg hlive, hcur]
  dsimp only
  rw [if_neg (Nat.not_lt_zero curIdx), releasePicks_releasable]
  by_cases htype : orderTypeAllowsFulfillmentOps order.orderType = true
  · rw [if_neg (not_not.mpr htype)]
    by_cases hpicked : store.PickedByTasks soId
    · have hzero := mt hunits.mp (not_not.mpr hpicked)
      exact iff_of_true ⟨_, if_neg fun hcond => hzero hcond.2⟩ ⟨htype, hpicked⟩
    · have hpos := hunits.mpr hpicked
      refine iff_of_false ?_ fun hboth => hpicked hboth.2
      rintro ⟨after, hrevert⟩
      have herror := hrevert.symm.trans (if_pos ⟨Nat.zero_lt_one, hpos⟩)
      cases herror
  · rw [if_pos htype]
    refine iff_of_false ?_ fun hboth => htype hboth.1
    rintro ⟨after, hrevert⟩
    cases hrevert

/-- A revert gives back what the lines lose exactly when each line counts what the released
tasks picked for it, and releasing all tasks reopens an order exactly when they picked all
that its lines count. -/
theorem revert_givesBack_iff (hkept : store.PicksKept) {soId : ℕ} {order : SalesOrder}
    (horder : store.salesOrders.get? soId = some order)
    (hladder : order.status = .picked ∨ order.status = .packed ∨ order.status = .shipped) :
    (∀ newStatus releasePickTaskIds after,
      revertSalesOrderStatus store soId newStatus releasePickTaskIds = .ok after →
      ((∀ itemId, after.onHand itemId - store.onHand itemId =
          store.linesPicked itemId - after.linesPicked itemId) ↔
        store.CountsReleased (store.releasedTasks soId releasePickTaskIds))) ∧
    ((∃ after, revertSalesOrderStatus store soId .open
        ((store.releasableTasks soId).map Prod.fst) = .ok after) ↔
      orderTypeAllowsFulfillmentOps order.orderType = true ∧ store.PickedByTasks soId) := by
  refine ⟨?_, revert_open_iff hkept horder hladder⟩
  intro newStatus releasePickTaskIds after hrevert
  obtain ⟨order, curIdx, newIdx, rfl⟩ := revert_spec hrevert
  rw [← releaseFold_iff order.warehouseId hkept fun entry hentry =>
    (mem_releasedTasks hentry).1]
  apply forall_congr'
  intro itemId
  obtain ⟨honHand, hpicked⟩ := demote_counts
    ((store.releasedTasks soId releasePickTaskIds).foldl
      (releasePick order.warehouseId) store) soId order curIdx newIdx newStatus itemId
  rw [honHand, hpicked]

end Release

/-! ## A standard batch and a wave -/

def pickedInFull (created : Except PickError (Store × ℕ)) (quantity : ℤ) : Store :=
  ((created.toOption.bind fun batch =>
    (confirmPick batch.1 1 "1" quantity).toOption).bind fun picked =>
      (completeBatch picked 1 "ann" none).toOption).getD twoOrderStore

/-- The second order picked from a batch of its own. -/
def standardPicked : Store :=
  pickedInFull (createPickBatch twoOrderStore ["SO-2"] 1 "ann" []) 3

def wavePicked : Store :=
  pickedInFull (waveCreate twoOrderStore [1, 2] 1 "ann" []) 5

/-- The first order of the wave reopened. -/
def waveReverted : Store :=
  ((revertSalesOrderStatus wavePicked 1 .open [1]).toOption).getD wavePicked

theorem standardPicked_givesBack :
    standardPicked.PicksKept ∧
      (∀ newStatus releasePickTaskIds after,
        revertSalesOrderStatus standardPicked 2 newStatus releasePickTaskIds = .ok after →
        ((∀ itemId, after.onHand itemId - standardPicked.onHand itemId =
            standardPicked.linesPicked itemId - after.linesPicked itemId) ↔
          standardPicked.CountsReleased
            (standardPicked.releasedTasks 2 releasePickTaskIds))) ∧
      ((∃ after, revertSalesOrderStatus standardPicked 2 .open
          ((standardPicked.releasableTasks 2).map Prod.fst) = .ok after) ↔
        orderTypeAllowsFulfillmentOps .sale = true ∧ standardPicked.PickedByTasks 2) := by
  have hkept : standardPicked.PicksKept := by
    refine ⟨by decide +kernel, by decide +kernel, ?_⟩
    intro entry hentry soLineId hnamed
    have htask : ∀ entry ∈ standardPicked.pickTasks.entries,
        entry.2.target.soLineId = some 2 ∧ entry.2.itemId = 1 := by decide +kernel
    obtain ⟨htarget, hitem⟩ := htask entry hentry
    obtain rfl := Option.some.inj (htarget.symm.trans hnamed)
    have hline : (standardPicked.salesOrderLines.get? 2).map SalesOrderLine.itemId =
        some 1 := rfl
    obtain ⟨line, hget, hsame⟩ := Option.map_eq_some_iff.mp hline
    exact ⟨line, (Table.get?_eq_some _).mp hget, hsame.trans hitem.symm⟩
  have horder : standardPicked.salesOrders.get? 2 =
      some { soNumber := "SO-2", soBarcode := none, status := .picked, warehouseId := 1,
             orderType := .sale, parentSoId := none, cancellationReason := none } := rfl
  exact ⟨hkept, revert_givesBack_iff hkept horder (.inl rfl)⟩

/-- Reopening the first order of a wave returns the units of both to the bin, and the second
one, picked in full, has no task to be reopened with. -/
theorem wave_givesBack_both :
    revertSalesOrderStatus wavePicked 1 .open [1] = .ok waveReverted ∧
      waveReverted.onHand 1 - wavePicked.onHand 1 = 5 ∧
      wavePicked.linesPicked 1 - waveReverted.linesPicked 1 = 2 ∧
      (∀ entry ∈ wavePicked.salesOrderLines.entries,
        entry.2.quantityPicked = entry.2.quantityOrdered) ∧
      (wavePicked.releasableTasks 2).map Prod.fst = [] ∧
      revertSalesOrderStatus wavePicked 2 .open [] =
        .error (.pickedQtyRemaining 3 .open) :=
  ⟨rfl, rfl, rfl, by decide +kernel, rfl, rfl⟩

end SentryWms
