import SentryWms.Picking.Coverage
import SentryWms.Picking.WaveCredit

/-!
# The turns of a wave

A wave meets the needs of its lines item by item: the takes of one bin after the other are
handed out over the lines that still need the item. Each take is handed out whole, and each
line ends with its need. Both sums are carried through the two loops by what the lines still
need.
-/

namespace SentryWms

open Relational Transition

/-! ## Handing out one take -/

def neededBy (soLineId : ℕ) (contributions : List Contribution) : ℤ :=
  (contributions.map fun contribution =>
    if contribution.soLineId = soLineId then contribution.needed else 0).sum

def carriedFor (soLineId : ℕ) (parts : List (Contribution × ℤ)) : ℤ :=
  (parts.map fun part => if part.1.soLineId = soLineId then part.2 else 0).sum

section Distribute

variable {contributions : List Contribution}

theorem combinedNeeded_cons (contribution : Contribution) (rest : List Contribution) :
    combinedNeeded (contribution :: rest) = contribution.needed + combinedNeeded rest := by
  simp [combinedNeeded]

theorem combinedNeeded_nonneg (hneeded : ∀ contribution ∈ contributions,
    0 ≤ contribution.needed) : 0 ≤ combinedNeeded contributions := by
  apply List.sum_nonneg
  simpa using hneeded

theorem mem_distribute (hneeded : ∀ contribution ∈ contributions,
    0 ≤ contribution.needed) {remaining : ℤ} {part : Contribution × ℤ}
    (hpart : part ∈ distribute remaining contributions) :
    0 ≤ part.2 ∧ part.2 ≤ part.1.needed := by
  induction contributions generalizing remaining with
  | nil => cases hpart
  | cons contribution rest ih =>
      obtain ⟨hhead, hrest⟩ := List.forall_mem_cons.mp hneeded
      rcases List.mem_cons.mp hpart with rfl | hpart
      · dsimp only
        omega
      · exact ih hrest hpart

/-- A take is handed out whole as long as that much is needed. -/
theorem sum_distribute (hneeded : ∀ contribution ∈ contributions,
    0 ≤ contribution.needed) {remaining : ℤ} (hremaining : 0 ≤ remaining)
    (hle : remaining ≤ combinedNeeded contributions) :
    ((distribute remaining contributions).map Prod.snd).sum = remaining := by
  induction contributions generalizing remaining with
  | nil =>
      have hzero : remaining ≤ 0 := hle
      simp only [distribute, List.map_nil, List.sum_nil]
      omega
  | cons contribution rest ih =>
      obtain ⟨hhead, hrest⟩ := List.forall_mem_cons.mp hneeded
      rw [combinedNeeded_cons] at hle
      have hnonneg := combinedNeeded_nonneg hrest
      rw [distribute, List.map_cons, List.sum_cons, ih hrest (by omega) (by omega)]
      dsimp only
      omega

theorem neededBy_stillNeeded (soLineId : ℕ) (remaining : ℤ)
    (contributions : List Contribution) :
    neededBy soLineId (stillNeeded (distribute remaining contributions)) +
        carriedFor soLineId (distribute remaining contributions) =
      neededBy soLineId contributions := by
  induction contributions generalizing remaining with
  | nil => rfl
  | cons contribution rest ih =>
      have hrest := ih (remaining - max 0 (min remaining contribution.needed))
      simp only [neededBy, carriedFor, stillNeeded, distribute, List.map_cons,
        List.sum_cons] at hrest ⊢
      rw [← hrest]
      split <;> ring

theorem combinedNeeded_stillNeeded (remaining : ℤ) (contributions : List Contribution) :
    combinedNeeded (stillNeeded (distribute remaining contributions)) =
      combinedNeeded contributions -
        ((distribute remaining contributions).map Prod.snd).sum := by
  induction contributions generalizing remaining with
  | nil => rfl
  | cons contribution rest ih =>
      have hrest := ih (remaining - max 0 (min remaining contribution.needed))
      simp only [combinedNeeded, stillNeeded, distribute, List.map_cons,
        List.sum_cons] at hrest ⊢
      rw [hrest]
      ring

theorem stillNeeded_nonneg (hneeded : ∀ contribution ∈ contributions,
    0 ≤ contribution.needed) (remaining : ℤ) :
    ∀ contribution ∈ stillNeeded (distribute remaining contributions),
      0 ≤ contribution.needed := by
  intro contribution hmem
  obtain ⟨part, hpart, rfl⟩ := List.mem_map.mp hmem
  obtain ⟨-, hle⟩ := mem_distribute hneeded hpart
  dsimp only
  omega

theorem neededBy_eq_zero (hneeded : ∀ contribution ∈ contributions,
    0 ≤ contribution.needed) (hzero : combinedNeeded contributions ≤ 0) (soLineId : ℕ) :
    neededBy soLineId contributions = 0 := by
  induction contributions with
  | nil => rfl
  | cons contribution rest ih =>
      obtain ⟨hhead, hrest⟩ := List.forall_mem_cons.mp hneeded
      have hnonneg := combinedNeeded_nonneg hrest
      rw [combinedNeeded_cons] at hzero
      have hothers := ih hrest (by omega)
      have hnone : contribution.needed = 0 := by omega
      rw [neededBy] at hothers ⊢
      rw [List.map_cons, List.sum_cons, hothers, hnone, ite_self, add_zero]

end Distribute

/-! ## The turns of the allocation -/

/-- One turn of the inner loop: the row drawn on, the task created, and the parts it is
broken down into. -/
structure WaveTurn where
  inventoryId : ℕ
  task : PickTask
  parts : List (Contribution × ℤ)

def WaveTurn.write (store : Store) (turn : WaveTurn) : Store :=
  turn.parts.foldl (allocatePart store.pickTasks.next)
    ((store.reserve turn.inventoryId turn.task.quantityToPick).insertTask turn.task)

def takeTask (batchId itemId : ℕ) (first : Contribution) (draw : (ℕ × Candidate) × ℤ) :
    PickTask where
  batchId := batchId
  target := .salesOrder first.soId (some first.soLineId)
  itemId := itemId
  binId := draw.1.2.binId
  quantityToPick := draw.2
  quantityPicked := 0
  pickSequence := draw.1.2.pickSequence
  toteNumber := some "WAVE"
  status := .pending

def itemTurns (batchId itemId : ℕ) (first : Contribution) :
    List Contribution → List ((ℕ × Candidate) × ℤ) → List WaveTurn
  | _, [] => []
  | contributions, draw :: rest =>
      let parts := distribute draw.2 contributions
      ⟨draw.1.1, takeTask batchId itemId first draw, parts⟩ ::
        itemTurns batchId itemId first (stillNeeded parts) rest

def entryTurns (batchId : ℕ) (locked : LockedRows) (entry : ℕ × List Contribution) :
    List WaveTurn :=
  match entry.2 with
  | [] => []
  | first :: rest =>
      itemTurns batchId entry.1 first (first :: rest)
        (rowTakes (combinedNeeded (first :: rest)) (locked.of entry.1))

theorem allocateWaveTake_foldl (batchId itemId : ℕ) (first : Contribution)
    (draws : List ((ℕ × Candidate) × ℤ)) (store : Store)
    (contributions : List Contribution) :
    (draws.foldl (allocateWaveTake batchId itemId first) (store, contributions)).1 =
      (itemTurns batchId itemId first contributions draws).foldl WaveTurn.write store := by
  induction draws generalizing store contributions with
  | nil => rfl
  | cons draw draws ih =>
      rw [List.foldl_cons, itemTurns, List.foldl_cons, ← ih]
      rfl

theorem allocateItem_eq (batchId : ℕ) (locked : LockedRows) (store : Store)
    (entry : ℕ × List Contribution) :
    allocateItem batchId locked store entry =
      (entryTurns batchId locked entry).foldl WaveTurn.write store := by
  obtain ⟨itemId, contributions⟩ := entry
  cases contributions with
  | nil => rfl
  | cons first rest => exact allocateWaveTake_foldl _ _ _ _ _ _

theorem allocateItem_foldl (batchId : ℕ) (locked : LockedRows) (coverage : CoverageMap)
    (store : Store) :
    coverage.foldl (allocateItem batchId locked) store =
      (coverage.flatMap (entryTurns batchId locked)).foldl WaveTurn.write store := by
  rw [List.foldl_flatMap]
  congr 1
  funext store entry
  exact allocateItem_eq batchId locked store entry

/-- A turn hands its task out whole, in parts that are not negative. -/
structure WaveTurn.Whole (batchId : ℕ) (turn : WaveTurn) : Prop where
  batch : turn.task.batchId = batchId
  nonneg : ∀ part ∈ turn.parts, 0 ≤ part.2
  sum : (turn.parts.map Prod.snd).sum = turn.task.quantityToPick

theorem itemTurns_spec (batchId itemId : ℕ) (first : Contribution)
    {draws : List ((ℕ × Candidate) × ℤ)} (hdraws : ∀ draw ∈ draws, 0 ≤ draw.2)
    {contributions : List Contribution}
    (hneeded : ∀ contribution ∈ contributions, 0 ≤ contribution.needed)
    (hsupply : supply draws = combinedNeeded contributions) :
    (∀ turn ∈ itemTurns batchId itemId first contributions draws, turn.Whole batchId) ∧
      ∀ soLineId, ((itemTurns batchId itemId first contributions draws).map fun turn =>
        carriedFor soLineId turn.parts).sum = neededBy soLineId contributions := by
  induction draws generalizing contributions with
  | nil =>
      refine ⟨by simp [itemTurns], ?_⟩
      intro soLineId
      rw [neededBy_eq_zero hneeded (le_of_eq hsupply.symm)]
      rfl
  | cons draw draws ih =>
      obtain ⟨hdraw, hothers⟩ := List.forall_mem_cons.mp hdraws
      have hrest := Walk.supply_nonneg hothers
      rw [Walk.supply_cons] at hsupply
      have hwhole := sum_distribute hneeded hdraw (by omega)
      have hleft : supply draws =
          combinedNeeded (stillNeeded (distribute draw.2 contributions)) := by
        rw [combinedNeeded_stillNeeded, hwhole]
        omega
      obtain ⟨hturns, hlines⟩ := ih hothers (stillNeeded_nonneg hneeded draw.2) hleft
      refine ⟨?_, ?_⟩
      · rw [itemTurns, List.forall_mem_cons]
        exact ⟨⟨rfl, fun part hpart => (mem_distribute hneeded hpart).1, hwhole⟩, hturns⟩
      · intro soLineId
        rw [itemTurns, List.map_cons, List.sum_cons, hlines,
          ← neededBy_stillNeeded soLineId draw.2 contributions, add_comm]

/-! ## What a turn writes -/

def breakdownRow (pickTaskId : ℕ) (part : Contribution × ℤ) : WavePickBreakdown where
  pickTaskId := pickTaskId
  soId := part.1.soId
  soLineId := some part.1.soLineId
  quantity := part.2
  quantityPicked := 0
  shortQuantity := 0

theorem allocateParts_writes (pickTaskId : ℕ) (parts : List (Contribution × ℤ))
    (store : Store) :
    ∃ salesOrderLines wavePickBreakdown,
      parts.foldl (allocatePart pickTaskId) store =
        { store with salesOrderLines, wavePickBreakdown } := by
  induction parts generalizing store with
  | nil => exact ⟨store.salesOrderLines, store.wavePickBreakdown, rfl⟩
  | cons part parts ih =>
      obtain ⟨salesOrderLines, wavePickBreakdown, hrest⟩ :=
        ih (allocatePart pickTaskId store part)
      refine ⟨salesOrderLines, wavePickBreakdown, ?_⟩
      rw [List.foldl_cons, hrest, allocatePart]
      split <;> rfl

theorem write_writes (store : Store) (turn : WaveTurn) :
    ∃ salesOrderLines wavePickBreakdown, turn.write store =
      { store with
        inventory := store.inventory.modify turn.inventoryId
          (reserveUnits turn.task.quantityToPick)
        pickTasks := store.pickTasks.insert turn.task
        salesOrderLines, wavePickBreakdown } :=
  allocateParts_writes _ _ _

variable {store : Store}

theorem mem_allocateParts {pickTaskId : ℕ} {parts : List (Contribution × ℤ)} {id : ℕ}
    {row : WavePickBreakdown}
    (hrow : (id, row) ∈ (parts.foldl (allocatePart pickTaskId) store).wavePickBreakdown.entries) :
    (id, row) ∈ store.wavePickBreakdown.entries ∨
      row.pickTaskId = pickTaskId ∧ 0 < row.quantity := by
  induction parts generalizing store with
  | nil => exact .inl hrow
  | cons part parts ih =>
      rcases ih hrow with hkept | hnew
      · rw [allocatePart] at hkept
        split at hkept
        next => exact .inl hkept
        next hpos =>
          rcases (Table.mem_insert _).mp hkept with hbefore | hinserted
          · exact .inl hbefore
          · cases hinserted
            exact .inr ⟨rfl, not_le.mp hpos⟩
      · exact .inr hnew

theorem total_allocateParts (value : WavePickBreakdown → ℤ) (pickTaskId : ℕ)
    (parts : List (Contribution × ℤ)) (store : Store) :
    (parts.foldl (allocatePart pickTaskId) store).wavePickBreakdown.total
        (fun _ row => value row) =
      store.wavePickBreakdown.total (fun _ row => value row) +
        (parts.map fun part =>
          if part.2 ≤ 0 then 0 else value (breakdownRow pickTaskId part)).sum := by
  induction parts generalizing store with
  | nil => simp
  | cons part parts ih =>
      rw [List.foldl_cons, ih, List.map_cons, List.sum_cons, ← add_assoc]
      congr 1
      rw [allocatePart]
      split
      next => rw [add_zero]
      next => exact Table.total_insert _ _ _

theorem allocateParts_line {parts : List (Contribution × ℤ)}
    (hnonneg : ∀ part ∈ parts, 0 ≤ part.2) (pickTaskId soLineId : ℕ) (store : Store) :
    (parts.foldl (allocatePart pickTaskId) store).salesOrderLines.get? soLineId =
      (store.salesOrderLines.get? soLineId).map fun line =>
        { line with
          quantityAllocated := line.quantityAllocated + carriedFor soLineId parts } := by
  induction parts generalizing store with
  | nil => simp [carriedFor]
  | cons part parts ih =>
      obtain ⟨hpart, hrest⟩ := List.forall_mem_cons.mp hnonneg
      have hhead : (allocatePart pickTaskId store part).salesOrderLines.get? soLineId =
          (store.salesOrderLines.get? soLineId).map fun line =>
            { line with
              quantityAllocated := line.quantityAllocated +
                if part.1.soLineId = soLineId then part.2 else 0 } := by
        rw [allocatePart]
        split
        next hnone =>
          have hzero : part.2 = 0 := le_antisymm hnone hpart
          simp [hzero]
        next =>
          by_cases hsame : part.1.soLineId = soLineId
          · simp [Store.bumpAllocated, Table.modify, hsame]
          · rw [Store.bumpAllocated]
            dsimp only
            rw [Table.get?_modify_of_ne _ (Ne.symm hsame)]
            simp [hsame]
      rw [List.foldl_cons, ih hrest, hhead, Option.map_map]
      congr 1
      funext line
      simp only [Function.comp_apply, carriedFor, List.map_cons, List.sum_cons, add_assoc]

/-! ## The tasks of a wave -/

/-- What the tasks of a batch are broken down into for a line. -/
def Store.servedFor (store : Store) (batchId soLineId : ℕ) : ℤ :=
  ((store.batchTasks batchId).map fun entry =>
    sumOver soLineId (fun row => row.2.quantity) (store.breakdown entry.1)).sum

/-- Every breakdown row belongs to a task, and the tasks of a batch are broken down whole,
into positive parts. -/
structure Store.BrokenDown (store : Store) (batchId : ℕ) : Prop where
  rows : ∀ entry ∈ store.wavePickBreakdown.entries,
    entry.2.pickTaskId < store.pickTasks.next
  positive : ∀ entry ∈ store.batchTasks batchId, ∀ row ∈ store.breakdown entry.1,
    0 < row.2.quantity
  sum : ∀ entry ∈ store.batchTasks batchId,
    ((store.breakdown entry.1).map fun row => row.2.quantity).sum = entry.2.quantityToPick

theorem mem_batchTasks {batchId : ℕ} {entry : ℕ × PickTask} :
    entry ∈ store.batchTasks batchId ↔
      entry ∈ store.pickTasks.entries ∧ entry.2.batchId = batchId := by
  rw [Store.batchTasks, Table.mem_select, beq_iff_eq]

theorem sum_breakdown (store : Store) (pickTaskId : ℕ) (value : WavePickBreakdown → ℤ) :
    ((store.breakdown pickTaskId).map fun row => value row.2).sum =
      store.wavePickBreakdown.total fun _ row =>
        if row.pickTaskId = pickTaskId then value row else 0 := by
  have hperm := (orderBy_perm (fun entry : ℕ × WavePickBreakdown => entry.2.soId)
    (store.wavePickBreakdown.select fun row => row.pickTaskId == pickTaskId)).map
      fun row => value row.2
  rw [Store.breakdown, hperm.sum_eq]
  have htotal := store.wavePickBreakdown.total_select
    (fun row => row.pickTaskId == pickTaskId) fun _ row => value row
  simpa using htotal

section Write

variable {store : Store} {batchId : ℕ} {turn : WaveTurn}

theorem write_next (store : Store) (turn : WaveTurn) :
    (turn.write store).pickTasks.next = store.pickTasks.next + 1 := by
  obtain ⟨salesOrderLines, wavePickBreakdown, hwrite⟩ := write_writes store turn
  rw [hwrite]
  rfl

theorem write_batchTasks (hwhole : turn.Whole batchId) :
    (turn.write store).batchTasks batchId =
      store.batchTasks batchId ++ [(store.pickTasks.next, turn.task)] := by
  obtain ⟨salesOrderLines, wavePickBreakdown, hwrite⟩ := write_writes store turn
  rw [hwrite, Store.batchTasks]
  dsimp only
  rw [Table.select_insert, Store.batchTasks, if_pos (by simpa using hwhole.batch)]

theorem sum_breakdown_write_of_ne {pickTaskId : ℕ}
    (hother : pickTaskId ≠ store.pickTasks.next) (value : WavePickBreakdown → ℤ) :
    (((turn.write store).breakdown pickTaskId).map fun row => value row.2).sum =
      ((store.breakdown pickTaskId).map fun row => value row.2).sum := by
  rw [sum_breakdown, sum_breakdown, WaveTurn.write, total_allocateParts fun row =>
    if row.pickTaskId = pickTaskId then value row else 0]
  have hnone : (turn.parts.map fun part =>
      if part.2 ≤ 0 then 0
      else if (breakdownRow store.pickTasks.next part).pickTaskId = pickTaskId then
        value (breakdownRow store.pickTasks.next part)
      else 0).sum = 0 := by
    apply List.sum_eq_zero
    intro summand hsummand
    obtain ⟨part, -, rfl⟩ := List.mem_map.mp hsummand
    have hne : (breakdownRow store.pickTasks.next part).pickTaskId ≠ pickTaskId :=
      Ne.symm hother
    rw [if_neg hne, ite_self]
  rw [hnone, add_zero]
  rfl

theorem sum_breakdown_write (hrows : ∀ entry ∈ store.wavePickBreakdown.entries,
      entry.2.pickTaskId < store.pickTasks.next)
    (value : WavePickBreakdown → ℤ) :
    (((turn.write store).breakdown store.pickTasks.next).map fun row => value row.2).sum =
      (turn.parts.map fun part =>
        if part.2 ≤ 0 then 0 else value (breakdownRow store.pickTasks.next part)).sum := by
  rw [sum_breakdown, WaveTurn.write, total_allocateParts fun row =>
    if row.pickTaskId = store.pickTasks.next then value row else 0]
  have hnone : (store.wavePickBreakdown.total fun _ row =>
      if row.pickTaskId = store.pickTasks.next then value row else 0) = 0 := by
    apply Table.total_eq_zero
    intro id row hrow
    exact if_neg (Nat.ne_of_lt (hrows (id, row) hrow))
  have hbefore : ((store.reserve turn.inventoryId turn.task.quantityToPick).insertTask
      turn.task).wavePickBreakdown = store.wavePickBreakdown := rfl
  rw [hbefore, hnone, zero_add]
  simp only [breakdownRow, if_true]

theorem write_brokenDown (hwhole : turn.Whole batchId) (hbroken : store.BrokenDown batchId) :
    (turn.write store).BrokenDown batchId := by
  have hmem : ∀ entry ∈ (turn.write store).wavePickBreakdown.entries,
      entry ∈ store.wavePickBreakdown.entries ∨
        entry.2.pickTaskId = store.pickTasks.next ∧ 0 < entry.2.quantity := by
    rintro ⟨id, row⟩ hrow
    rcases mem_allocateParts hrow with hkept | hnew
    · exact .inl hkept
    · exact .inr hnew
  have hold : ∀ entry ∈ store.batchTasks batchId, entry.1 < store.pickTasks.next :=
    fun entry hentry => Table.lt_next_of_mem _ (mem_batchTasks.mp hentry).1
  constructor
  · intro entry hentry
    rw [write_next]
    rcases hmem entry hentry with hkept | ⟨hnew, -⟩
    · exact Nat.lt_succ_of_lt (hbroken.rows entry hkept)
    · omega
  · intro entry hentry row hrow
    obtain ⟨hrow', hcond⟩ := (Table.mem_select _).mp (mem_orderBy.mp hrow)
    rw [beq_iff_eq] at hcond
    rcases hmem row hrow' with hkept | ⟨-, hpos⟩
    · have hlt := hbroken.rows row hkept
      rw [write_batchTasks hwhole, List.mem_append, List.mem_singleton] at hentry
      rcases hentry with hbefore | rfl
      · apply hbroken.positive entry hbefore
        exact mem_orderBy.mpr ((Table.mem_select _).mpr ⟨hkept, by simpa using hcond⟩)
      · exact absurd hcond (Nat.ne_of_lt hlt)
    · exact hpos
  · intro entry hentry
    rw [write_batchTasks hwhole, List.mem_append, List.mem_singleton] at hentry
    rcases hentry with hbefore | rfl
    · rw [sum_breakdown_write_of_ne (Nat.ne_of_lt (hold entry hbefore))
        WavePickBreakdown.quantity]
      exact hbroken.sum entry hbefore
    · rw [sum_breakdown_write hbroken.rows WavePickBreakdown.quantity, ← hwhole.sum]
      congr 1
      apply List.map_congr_left
      intro part hpart
      have hpart := hwhole.nonneg part hpart
      dsimp only [breakdownRow]
      split <;> omega

theorem write_servedFor (hwhole : turn.Whole batchId) (hbroken : store.BrokenDown batchId)
    (soLineId : ℕ) :
    (turn.write store).servedFor batchId soLineId =
      store.servedFor batchId soLineId + carriedFor soLineId turn.parts := by
  have hold : ∀ entry ∈ store.batchTasks batchId, entry.1 < store.pickTasks.next :=
    fun entry hentry => Table.lt_next_of_mem _ (mem_batchTasks.mp hentry).1
  rw [Store.servedFor, write_batchTasks hwhole, List.map_append, List.sum_append,
    List.map_singleton, List.sum_singleton]
  congr 1
  · rw [Store.servedFor]
    congr 1
    apply List.map_congr_left
    intro entry hentry
    exact sum_breakdown_write_of_ne (Nat.ne_of_lt (hold entry hentry)) fun row =>
      if row.soLineId = some soLineId then row.quantity else 0
  · rw [carriedFor]
    refine (sum_breakdown_write hbroken.rows fun row =>
      if row.soLineId = some soLineId then row.quantity else 0).trans ?_
    congr 1
    apply List.map_congr_left
    intro part hpart
    have hpart := hwhole.nonneg part hpart
    simp only [breakdownRow, Option.some_inj]
    split <;> split <;> omega

theorem write_batchUnits (hwhole : turn.Whole batchId) :
    (turn.write store).batchUnits batchId =
      store.batchUnits batchId + turn.task.quantityToPick := by
  rw [Store.batchUnits, write_batchTasks hwhole, List.map_append, List.sum_append,
    List.map_singleton, List.sum_singleton, Store.batchUnits]

end Write

/-! ## A run of turns -/

def gainOf (soLineId : ℕ) (turns : List WaveTurn) : ℤ :=
  (turns.map fun turn => carriedFor soLineId turn.parts).sum

def drawsOf (turns : List WaveTurn) : List (ℕ × ℤ) :=
  turns.map fun turn => (turn.inventoryId, turn.task.quantityToPick)

structure Turned (batchId : ℕ) (turns : List WaveTurn) (store after : Store) : Prop where
  brokenDown : after.BrokenDown batchId
  servedFor : ∀ soLineId, after.servedFor batchId soLineId =
    store.servedFor batchId soLineId + gainOf soLineId turns
  batchUnits : after.batchUnits batchId = store.batchUnits batchId + supply (drawsOf turns)
  line : ∀ soLineId, after.salesOrderLines.get? soLineId =
    (store.salesOrderLines.get? soLineId).map fun line =>
      { line with quantityAllocated := line.quantityAllocated + gainOf soLineId turns }
  inventory : after.inventory = store.inventory.applyTakes reserveUnits (drawsOf turns)
  pickBatches : after.pickBatches = store.pickBatches

theorem turns_spec {batchId : ℕ} {turns : List WaveTurn}
    (hwhole : ∀ turn ∈ turns, turn.Whole batchId) (hbroken : store.BrokenDown batchId) :
    Turned batchId turns store (turns.foldl WaveTurn.write store) := by
  induction turns generalizing store with
  | nil =>
      exact
        { brokenDown := hbroken
          servedFor := fun _ => (add_zero _).symm
          batchUnits := (add_zero _).symm
          line := fun _ => by simp [gainOf]
          inventory := rfl
          pickBatches := rfl }
  | cons turn turns ih =>
      obtain ⟨hturn, hrest⟩ := List.forall_mem_cons.mp hwhole
      have hafter := ih hrest (write_brokenDown hturn hbroken)
      obtain ⟨salesOrderLines, wavePickBreakdown, hwrite⟩ := write_writes store turn
      refine
        { brokenDown := hafter.brokenDown
          servedFor := ?_
          batchUnits := ?_
          line := ?_
          inventory := ?_
          pickBatches := ?_ }
      · intro soLineId
        rw [List.foldl_cons, hafter.servedFor, write_servedFor hturn hbroken, add_assoc]
        rfl
      · rw [List.foldl_cons, hafter.batchUnits, write_batchUnits hturn, add_assoc]
        rfl
      · intro soLineId
        have hline := allocateParts_line hturn.nonneg store.pickTasks.next soLineId
          ((store.reserve turn.inventoryId turn.task.quantityToPick).insertTask turn.task)
        rw [List.foldl_cons, hafter.line, WaveTurn.write, hline, Option.map_map]
        congr 1
        funext line
        simp only [Function.comp_apply, gainOf, List.map_cons, List.sum_cons, add_assoc]
      · rw [List.foldl_cons, hafter.inventory, hwrite]
        rfl
      · rw [List.foldl_cons, hafter.pickBatches, hwrite]

theorem drawsOf_itemTurns (batchId itemId : ℕ) (first : Contribution)
    (draws : List ((ℕ × Candidate) × ℤ)) (contributions : List Contribution) :
    drawsOf (itemTurns batchId itemId first contributions draws) =
      draws.map fun draw => (draw.1.1, draw.2) := by
  induction draws generalizing contributions with
  | nil => rfl
  | cons draw draws ih =>
      rw [List.map_cons, ← ih (stillNeeded (distribute draw.2 contributions))]
      rfl

end SentryWms
