import SentryWms.Counting.Submission
import SentryWms.Store.Stock

/-!
# Counting makes the bin match

From the creation of a count to the approval of its last adjustment. The adjustments are
the variances when every line is stated once; and the bin then holds what was counted
when the row each approval reads absorbs the variance. A row that would fall below zero
is cut off there, and rows below zero are not part of what was expected.
-/

namespace SentryWms.Counting

open Relational Transition

/-! ## The property -/

def CountingStore.pendingAdjustments (store : CountingStore) (countId : ℕ) :
    List (ℕ × Adjustment) :=
  store.adjustments.select fun row =>
    row.cycleCountId == some countId && row.status == .pending

/-- At most one pending adjustment for each item, and each is what was counted less what
was expected. -/
structure FilesVariances (store : CountingStore) (countId : ℕ) : Prop where
  once : ((store.pendingAdjustments countId).map fun entry => entry.2.itemId).Nodup
  variance : ∀ entry ∈ store.pendingAdjustments countId,
    ∃ line ∈ store.countLines.entries, line.2.counts countId entry.2.itemId = true ∧
      ∃ counted, line.2.countedQuantity = some counted ∧
        entry.2.quantityChange = counted - line.2.expectedQuantity

def BinMatches (store : CountingStore) (countId binId : ℕ) : Prop :=
  ∀ line ∈ store.countLines.entries, line.2.countId = countId →
    ∀ counted, line.2.countedQuantity = some counted →
      store.binOnHand line.2.itemId binId = counted

/-! ## The condition -/

/-- What the rows of an item lack together: the sum of those below zero. -/
def negativeStock (rows : List (ℕ × Inventory)) : ℤ :=
  (rows.map fun entry => min entry.2.quantityOnHand 0).sum

/-- What an item's last statement needs of its rows: if an adjustment was filed, the row
that is read falls below zero by exactly the negative stock; otherwise there is none. -/
def LevelsOut (fetchOne : FetchOne Inventory) (rows : List (ℕ × Inventory))
    (filed : Bool) (variance : ℤ) : Prop :=
  if filed then
    match fetchOne.fetch rows with
    | none => True
    | some read => negativeStock rows = min (read.2.quantityOnHand + variance) 0
  else negativeStock rows = 0

instance (fetchOne : FetchOne Inventory) (rows : List (ℕ × Inventory)) (filed : Bool) (variance : ℤ) :
    Decidable (LevelsOut fetchOne rows filed variance) :=
  match filed, hfetch : fetchOne.fetch rows with
  | true, none => isTrue (by simp [LevelsOut, hfetch])
  | true, some read =>
      decidable_of_iff (negativeStock rows = min (read.2.quantityOnHand + variance) 0)
        (by simp [LevelsOut, hfetch])
  | false, _ => decidable_of_iff (negativeStock rows = 0) (by simp [LevelsOut])

/-- Every line that is stated levels out with what was stated last of it. -/
def AllLevelOut (fetchOne : FetchOne Inventory) (store : CountingStore) (binId : ℕ)
    (submissions : List Submission) : Prop :=
  ∀ submission ∈ submissions, ∀ counted ∈ lastCount submission.lineId submissions,
    LevelsOut fetchOne (store.inventory.select (Inventory.inBin submission.itemId binId))
      (submissions.any fun other => other.lineId == submission.lineId && other.files)
      (counted - submission.expected)

/-! ## Runs -/

structure Elsewhere (countId binId : ℕ) (store after : CountingStore) : Prop where
  stock : (after.inventory.select fun row => row.binId == binId) =
    store.inventory.select fun row => row.binId == binId
  count : (after.cycleCounts.get? countId).map (·.binId) =
    (store.cycleCounts.get? countId).map (·.binId)
  lines : (after.countLines.select fun line => line.countId == countId) =
    store.countLines.select fun line => line.countId == countId
  adjustments : after.countAdjustments countId = store.countAdjustments countId

/-- What happens after a count is submitted: a review, or anything elsewhere. -/
inductive Movement where
  | review (reviewer : String) (decisions : List AdjustmentDecision)
  | elsewhere (after : CountingStore)

def step (fetchOne : FetchOne Inventory) (store : CountingStore) :
    Movement → Option CountingStore
  | .review reviewer decisions =>
      (reviewAdjustments fetchOne store reviewer decisions).toOption
  | .elsewhere after => some after

def LeavesBin (countId binId : ℕ) (store : CountingStore) : Movement → Prop
  | .review _ decisions =>
      ∀ decision ∈ decisions, decision.approve = true → ∀ row,
        store.adjustments.get? decision.adjustmentId = some row → row.status = .pending →
        row.binId = binId → row.cycleCountId = some countId
  | .elsewhere after => Elsewhere countId binId store after

/-! ## Rows of a bin -/

/-- What rows hold together. -/
def rowsOnHand (rows : List (ℕ × Inventory)) : ℤ :=
  (rows.map fun entry => entry.2.quantityOnHand).sum

def stockedOnHand (rows : List (ℕ × Inventory)) : ℤ :=
  (rows.map fun entry => max entry.2.quantityOnHand 0).sum

/-- What the rows of an item hold once an adjustment is approved. -/
def approvedOnHand (fetchOne : FetchOne Inventory) (rows : List (ℕ × Inventory))
    (change : ℤ) : ℤ :=
  match fetchOne.fetch rows with
  | some read =>
      rowsOnHand rows - read.2.quantityOnHand + max 0 (read.2.quantityOnHand + change)
  | none => max change 0

variable {fetchOne : FetchOne Inventory} {countId binId : ℕ}
  {store after submitted : CountingStore}

theorem rowsOnHand_eq (rows : List (ℕ × Inventory)) :
    rowsOnHand rows = stockedOnHand rows + negativeStock rows := by
  rw [rowsOnHand, stockedOnHand, negativeStock, ← List.sum_map_add]
  congr 1
  apply List.map_congr_left
  intro entry _
  omega

theorem binOnHand_eq (store : Store) (itemId binId : ℕ) :
    store.binOnHand itemId binId =
      rowsOnHand (store.inventory.select (Inventory.inBin itemId binId)) :=
  (store.inventory.total_select _ fun _ row => row.quantityOnHand).symm

theorem select_inBin (inventory : Table Inventory) (itemId binId : ℕ) :
    inventory.select (Inventory.inBin itemId binId) =
      (inventory.select fun row => row.binId == binId).filter
        fun entry => entry.2.itemId == itemId := by
  simp only [Table.select, List.filter_filter]
  rfl

theorem fetch_eq_none {rows : List (ℕ × Inventory)} (hfetch : fetchOne.fetch rows = none) :
    rows = [] := by
  by_contra hrows
  have hsome := fetchOne.isSome hrows
  rw [hfetch] at hsome
  cases hsome

/-! ## Approving an adjustment -/

theorem applyAdjustment_frame (fetchOne : FetchOne Inventory) (store : CountingStore)
    (row : Adjustment) :
    ∃ inventory, applyAdjustment fetchOne store row = { store with inventory } := by
  rw [applyAdjustment]
  split
  · exact ⟨_, rfl⟩
  · split
    · exact ⟨_, rfl⟩
    · exact ⟨_, rfl⟩

theorem applyAdjustment_elsewhere (row : Adjustment) {cond : Inventory → Bool}
    (hcond : ∀ stock : Inventory, stock.inBin row.itemId row.binId = true →
      cond stock = false) :
    (applyAdjustment fetchOne store row).inventory.select cond =
      store.inventory.select cond := by
  rw [applyAdjustment]
  split
  · next inventoryId existing hfetch =>
      have hread := store.inventory.mem_select.mp (fetchOne.mem hfetch)
      apply Table.select_mapRows_elsewhere
      intro key stock hmem
      by_cases hkey : key = inventoryId
      · rw [hkey] at hmem
        obtain rfl := store.inventory.row_unique hmem hread.1
        rw [if_pos hkey]
        exact .inr ⟨hcond _ hread.2, hcond _ hread.2⟩
      · exact .inl (if_neg hkey)
  · split
    · rw [Table.select_insert, hcond _ (by simp [Inventory.inBin])]
      simp
    · rfl

theorem applyAdjustment_binOnHand (fetchOne : FetchOne Inventory) (store : CountingStore)
    (row : Adjustment) :
    (applyAdjustment fetchOne store row).binOnHand row.itemId row.binId =
      approvedOnHand fetchOne
        (store.inventory.select (Inventory.inBin row.itemId row.binId))
        row.quantityChange := by
  have hbefore := binOnHand_eq store.toStore row.itemId row.binId
  rw [applyAdjustment, approvedOnHand]
  cases hfetch : fetchOne.fetch
    (store.inventory.select (Inventory.inBin row.itemId row.binId)) with
  | some read =>
      obtain ⟨hmem, hcond⟩ := store.inventory.mem_select.mp (fetchOne.mem hfetch)
      rw [← hbefore]
      simp only [Store.binOnHand, Store.stock]
      rw [Table.total_modify _ hmem]
      have hkept : Inventory.inBin row.itemId row.binId
          { read.2 with
            quantityOnHand := max 0 (read.2.quantityOnHand + row.quantityChange)
            updatedAt := store.now } = true := hcond
      rw [if_pos hkept, if_pos hcond]
      ring
  | none =>
      rw [fetch_eq_none hfetch, rowsOnHand, List.map_nil, List.sum_nil] at hbefore
      dsimp only
      split
      · next hpos =>
          simp only [Store.binOnHand, Store.stock, Table.total_insert] at hbefore ⊢
          rw [hbefore, if_pos (by simp [Inventory.inBin]), zero_add,
            max_eq_left (Int.le_of_lt hpos)]
      · next hnonpos => rw [hbefore, max_eq_right (not_lt.mp hnonpos)]

theorem approvedOnHand_eq_iff {rows : List (ℕ × Inventory)} {counted expected : ℤ}
    (hexpected : expected = stockedOnHand rows) (hcounted : 0 ≤ counted) :
    approvedOnHand fetchOne rows (counted - expected) = counted ↔
      LevelsOut fetchOne rows true (counted - expected) := by
  rw [approvedOnHand, LevelsOut, if_pos rfl]
  cases hfetch : fetchOne.fetch rows with
  | some read =>
      dsimp only
      rw [rowsOnHand_eq, ← hexpected]
      omega
  | none =>
      have hnone : expected = 0 := by
        rw [hexpected, fetch_eq_none hfetch]
        rfl
      dsimp only
      rw [hnone, sub_zero, max_eq_left hcounted]
      exact iff_of_true rfl trivial

theorem rowsOnHand_eq_iff {rows : List (ℕ × Inventory)} {expected : ℤ}
    (hexpected : expected = stockedOnHand rows) (variance : ℤ) :
    rowsOnHand rows = expected ↔ LevelsOut fetchOne rows false variance := by
  rw [rowsOnHand_eq, ← hexpected, LevelsOut, if_neg Bool.false_ne_true]
  omega

/-! ## An open count -/

/-- The count covers the bin as it is, and nothing has been stated of it. -/
structure Opened (countId binId : ℕ) (store : CountingStore) : Prop where
  count : (store.cycleCounts.get? countId).map (·.binId) = some binId
  lines : (store.countLines.select fun line => line.countId == countId).map
      (fun entry => (entry.2.itemId, entry.2.expectedQuantity)) =
    binSnapshot store.toStore binId
  uncounted : ∀ entry ∈ store.countLines.select fun line => line.countId == countId,
    entry.2.countedQuantity = none
  adjustments : store.countAdjustments countId = []

theorem mem_countLines {lines : Table CountLine} {key : ℕ} {line : CountLine} :
    (key, line) ∈ lines.select (fun line => line.countId == countId) ↔
      (key, line) ∈ lines.entries ∧ line.countId = countId := by
  simp [Table.mem_select]

theorem binSnapshot_nodup (store : Store) (binId : ℕ) :
    ((binSnapshot store binId).map Prod.fst).Nodup := by
  simp only [binSnapshot, List.map_map, Function.comp_def, List.map_id']
  exact List.nodup_dedup _

theorem stock_stocked (store : Store) (itemId binId : ℕ) :
    store.stock (Inventory.stocked itemId binId) Inventory.quantityOnHand =
      stockedOnHand (store.inventory.select (Inventory.inBin itemId binId)) := by
  rw [stockedOnHand, store.inventory.total_select _ fun _ row => max row.quantityOnHand 0,
    Store.stock]
  apply Table.total_congr
  intro key row _
  cases hbin : row.inBin itemId binId with
  | false => simp [Inventory.stocked, hbin]
  | true =>
      by_cases hpos : 0 < row.quantityOnHand
      · simp [Inventory.stocked, hbin, hpos, Int.le_of_lt hpos]
      · simp [Inventory.stocked, hbin, hpos, not_lt.mp hpos]

theorem snapshot_expected {store : Store} {itemId : ℕ} {expected : ℤ}
    (hmem : (itemId, expected) ∈ binSnapshot store binId) :
    expected = stockedOnHand (store.inventory.select (Inventory.inBin itemId binId)) := by
  simp only [binSnapshot, List.mem_map, Prod.mk.injEq] at hmem
  obtain ⟨item, -, rfl, hexpected⟩ := hmem
  rw [← hexpected, stock_stocked]

theorem snapshot_absent {store : Store} {itemId : ℕ}
    (habsent : ∀ expected, (itemId, expected) ∉ binSnapshot store binId) :
    stockedOnHand (store.inventory.select (Inventory.inBin itemId binId)) = 0 := by
  rw [stockedOnHand]
  apply List.sum_eq_zero
  intro quantity hquantity
  obtain ⟨entry, hentry, rfl⟩ := List.mem_map.mp hquantity
  obtain ⟨hmem, hbin⟩ := store.inventory.mem_select.mp hentry
  obtain ⟨hitem, hbinId⟩ := inBin_iff.mp hbin
  apply max_eq_right
  by_contra hpos
  refine habsent _ (List.mem_map.mpr ⟨itemId, ?_, rfl⟩)
  rw [List.mem_dedup, List.mem_map]
  refine ⟨entry, store.inventory.mem_select.mpr ⟨hmem, ?_⟩, hitem⟩
  simp [hbinId, not_le.mp hpos]

theorem Opened.oneLineEach (hopened : Opened countId binId store) :
    OneLineEach countId store.countLines := by
  intro key key' line line' hline hline' hcount hcount' hitem
  have hnodup : ((store.countLines.select fun line => line.countId == countId).map
      fun entry => entry.2.itemId).Nodup := by
    have hfst := binSnapshot_nodup store.toStore binId
    rw [← hopened.lines, List.map_map] at hfst
    exact hfst
  have heq := List.inj_on_of_nodup_map hnodup (mem_countLines.mpr ⟨hline, hcount⟩)
    (mem_countLines.mpr ⟨hline', hcount'⟩) hitem
  exact congrArg Prod.fst heq

variable {count : CycleCount} {username : String} {subs : List Submission}

theorem Opened.expected (hopened : Opened countId binId store)
    (hsubmits : Submits countId count username store subs after) {submission : Submission}
    (hmem : submission ∈ subs) :
    submission.expected =
      stockedOnHand (store.inventory.select (Inventory.inBin submission.itemId binId)) := by
  cases hsubmits.origin hmem with
  | inl hline =>
      obtain ⟨line, hline, hname⟩ := hline
      rw [CountLine.name, Prod.mk.injEq, Prod.mk.injEq] at hname
      apply snapshot_expected
      rw [← hopened.lines, ← hname.2.1, ← hname.2.2]
      exact List.mem_map.mpr ⟨_, mem_countLines.mpr ⟨hline, hname.1⟩, rfl⟩
  | inr hnone =>
      rw [hnone.1, snapshot_absent]
      intro expected hsnapshot
      rw [← hopened.lines, List.mem_map] at hsnapshot
      obtain ⟨⟨key, line⟩, hline, hitem⟩ := hsnapshot
      obtain ⟨hline, hcount⟩ := mem_countLines.mp hline
      have hhas : hasCountLine store.countLines countId submission.itemId = true :=
        hasCountLine_eq_true.mpr ⟨key, line, store.countLines.get?_eq_some.mpr hline, hcount,
          congrArg Prod.fst hitem⟩
      rw [hnone.2] at hhas
      cases hhas

theorem Opened.counted (hopened : Opened countId binId store)
    (hsubmits : Submits countId count username store subs after) {key : ℕ}
    {line : CountLine} (hline : (key, line) ∈ after.countLines.entries)
    (hcount : line.countId = countId) :
    line.countedQuantity = (lastCount key subs).map Nat.cast := by
  have hshown := hsubmits.counted key
  have hbefore : (store.countLines.get? key).bind CountLine.countedQuantity = none := by
    cases hget : store.countLines.get? key with
    | none => rfl
    | some before =>
        have hmem := store.countLines.get?_eq_some.mp hget
        obtain ⟨found, hfound, hname⟩ := hsubmits.keeps hmem
        rw [after.countLines.row_unique hfound hline] at hname
        have hsame : before.countId = countId := by
          rw [← hcount]
          exact (congrArg Prod.fst hname).symm
        exact hopened.uncounted _ (mem_countLines.mpr ⟨hmem, hsame⟩)
  rw [after.countLines.get?_eq_some.mpr hline, hbefore, Option.or_none] at hshown
  exact hshown

theorem Submits.line_of_item (hopened : Opened countId binId store)
    (hsubmits : Submits countId count username store subs after) {submission : Submission}
    (hmem : submission ∈ subs) {key : ℕ} {line : CountLine}
    (hline : (key, line) ∈ after.countLines.entries) (hcount : line.countId = countId)
    (hitem : line.itemId = submission.itemId) :
    key = submission.lineId ∧ line.expectedQuantity = submission.expected := by
  obtain ⟨found, hfound, hname⟩ := hsubmits.line hmem
  rw [CountLine.name, Prod.mk.injEq, Prod.mk.injEq] at hname
  have hkey := hsubmits.oneLineEach hopened.oneLineEach hline hfound hcount hname.1
    (hitem.trans hname.2.1.symm)
  rw [hkey] at hline
  rw [after.countLines.row_unique hline hfound]
  exact ⟨hkey, hname.2.2⟩

theorem Submits.lineId_eq_iff (hopened : Opened countId binId store)
    (hsubmits : Submits countId count username store subs after)
    {submission other : Submission} (hmem : submission ∈ subs) (hother : other ∈ subs) :
    submission.lineId = other.lineId ↔ submission.itemId = other.itemId := by
  obtain ⟨found, hfound, hname⟩ := hsubmits.line hmem
  rw [CountLine.name, Prod.mk.injEq, Prod.mk.injEq] at hname
  constructor
  · intro hline
    obtain ⟨found', hfound', hname'⟩ := hsubmits.line hother
    rw [CountLine.name, Prod.mk.injEq, Prod.mk.injEq] at hname'
    rw [hline] at hfound
    rw [← hname.2.1, ← hname'.2.1, after.countLines.row_unique hfound hfound']
  · intro hitem
    exact (hsubmits.line_of_item hopened hother hfound hname.1 (hname.2.1.trans hitem)).1

/-! ## The adjustments are the variances -/

theorem pendingAdjustments_eq
    (hpending : ∀ entry ∈ store.countAdjustments countId, entry.2.status = .pending) :
    store.pendingAdjustments countId = store.countAdjustments countId := by
  rw [CountingStore.pendingAdjustments, CountingStore.countAdjustments, Table.select,
    Table.select]
  apply List.filter_congr
  intro entry hentry
  cases hcount : (entry.2.cycleCountId == some countId) with
  | false => rfl
  | true =>
      have hstatus := hpending entry (store.adjustments.mem_select.mpr ⟨hentry, hcount⟩)
      simp [hstatus]

theorem variance_iff (hopened : Opened countId binId store)
    (hsubmits : Submits countId count username store subs after) {submission : Submission}
    (hmem : submission ∈ subs) :
    (∃ line ∈ after.countLines.entries,
        line.2.counts countId submission.variance.1 = true ∧
        ∃ counted, line.2.countedQuantity = some counted ∧
          submission.variance.2 = counted - line.2.expectedQuantity) ↔
      lastCount submission.lineId subs = some submission.counted := by
  constructor
  · rintro ⟨⟨key, line⟩, hline, hcounts, counted, hcounted, hchange⟩
    rw [CountLine.counts, Bool.and_eq_true, beq_iff_eq, beq_iff_eq] at hcounts
    obtain ⟨hkey, hexpected⟩ := hsubmits.line_of_item hopened hmem hline hcounts.1 hcounts.2
    rw [hopened.counted hsubmits hline hcounts.1, hkey, Option.map_eq_some_iff] at hcounted
    obtain ⟨last, hlast, rfl⟩ := hcounted
    rw [hlast, Option.some.injEq]
    dsimp only at hchange
    rw [Submission.variance, hexpected] at hchange
    dsimp only at hchange
    omega
  · intro hlast
    obtain ⟨line, hline, hname⟩ := hsubmits.line hmem
    rw [CountLine.name, Prod.mk.injEq, Prod.mk.injEq] at hname
    refine ⟨(submission.lineId, line), hline, ?_, submission.counted, ?_, ?_⟩
    · simp [CountLine.counts, Submission.variance, hname.1, hname.2.1]
    · rw [hopened.counted hsubmits hline hname.1, hlast, Option.map_some]
    · rw [Submission.variance, hname.2.2]

theorem filesVariances_iff (hopened : Opened countId binId store)
    (hsubmits : Submits countId count username store subs after) :
    FilesVariances after countId ↔ StatedOnce subs := by
  have hpending : after.pendingAdjustments countId = after.countAdjustments countId := by
    apply pendingAdjustments_eq
    intro entry hentry
    have hnone : ∀ entry ∈ store.countAdjustments countId,
        entry.2.status = .pending ∧ entry.2.binId = count.binId := by
      simp [hopened.adjustments]
    exact (hsubmits.pending hnone entry hentry).1
  have hfiled := hsubmits.adjustments
  rw [hopened.adjustments, List.map_nil, List.nil_append] at hfiled
  have honce : ((after.pendingAdjustments countId).map fun entry => entry.2.itemId).Nodup ↔
      (subs.filter Submission.files).Pairwise (·.lineId ≠ ·.lineId) := by
    have hitems := congrArg (List.map Prod.fst) hfiled
    rw [List.map_map, List.map_map] at hitems
    rw [hpending]
    refine Iff.trans (iff_of_eq (congrArg List.Nodup hitems)) ?_
    rw [List.Nodup, List.pairwise_map]
    apply List.Pairwise.iff_of_mem
    intro first next hfirst hnext
    exact not_congr (hsubmits.lineId_eq_iff hopened (List.mem_filter.mp hfirst).1
      (List.mem_filter.mp hnext).1).symm
  have hvariance : (∀ entry ∈ after.pendingAdjustments countId,
      ∃ line ∈ after.countLines.entries, line.2.counts countId entry.2.itemId = true ∧
        ∃ counted, line.2.countedQuantity = some counted ∧
          entry.2.quantityChange = counted - line.2.expectedQuantity) ↔
      ∀ submission ∈ subs, submission.files = true →
        lastCount submission.lineId subs = some submission.counted := by
    have hpairs : ∀ P : ℕ × ℤ → Prop,
        (∀ entry ∈ after.countAdjustments countId,
          P (entry.2.itemId, entry.2.quantityChange)) ↔
        ∀ submission ∈ subs, submission.files = true → P submission.variance := by
      intro P
      rw [← List.forall_mem_map (P := P), hfiled, List.forall_mem_map]
      simp only [List.mem_filter, and_imp]
    rw [hpending, hpairs fun pair => ∃ line ∈ after.countLines.entries,
      line.2.counts countId pair.1 = true ∧ ∃ counted,
        line.2.countedQuantity = some counted ∧
          pair.2 = counted - line.2.expectedQuantity]
    apply forall₂_congr
    intro submission hmem
    rw [variance_iff hopened hsubmits hmem]
  rw [statedOnce_iff hsubmits.consistent, ← honce, ← hvariance]
  exact ⟨fun hfiles => ⟨hfiles.once, hfiles.variance⟩, fun hfiles => ⟨hfiles.1, hfiles.2⟩⟩

/-! ## Reviews -/

theorem releaseSatisfiableBackorders_inventory (store : Store) (warehouseId itemId : ℕ) :
    (releaseSatisfiableBackorders store warehouseId itemId).inventory = store.inventory := by
  obtain ⟨salesOrders, hreleased⟩ :=
    releaseSatisfiableBackorders_spec store warehouseId itemId
  rw [hreleased]

theorem reviewDecision_cases {reviewer : String} {state result : CountingStore × List (ℕ × ℕ)}
    {decision : AdjustmentDecision}
    (hreview : reviewDecision fetchOne reviewer state decision = .ok result) :
    result = state ∨
    ∃ row, (decision.adjustmentId, row) ∈ state.1.adjustments.entries ∧
      row.status = .pending ∧
      (result.1 = setAdjustmentStatus state.1 decision.adjustmentId .rejected ∨
        decision.approve = true ∧ ∃ adjustmentEvents,
          result.1 = { setAdjustmentStatus (applyAdjustment fetchOne state.1 row)
            decision.adjustmentId .approved with adjustmentEvents }) := by
  rw [reviewDecision] at hreview
  dsimp only at hreview
  cases hget : state.1.adjustments.get? decision.adjustmentId with
  | none =>
      rw [hget] at hreview
      cases hreview
      exact .inl rfl
  | some row =>
      rw [hget] at hreview
      dsimp only at hreview
      have hmem := state.1.adjustments.get?_eq_some.mp hget
      by_cases hstatus : row.status = .pending
      · rw [if_neg (not_not_intro hstatus)] at hreview
        refine .inr ⟨row, hmem, hstatus, ?_⟩
        cases happrove : decision.approve with
        | false =>
            rw [happrove] at hreview
            cases hreview
            exact .inl rfl
        | true =>
            rw [happrove, if_neg (by simp)] at hreview
            split at hreview
            · cases hreview
            · obtain ⟨events, -, hresult⟩ := bind_eq_ok.mp hreview
              cases hresult
              exact .inr ⟨rfl, _, rfl⟩
      · rw [if_pos hstatus] at hreview
        cases hreview
        exact .inl rfl

/-- How far the review of a submitted count has come: an item whose adjustment is
approved holds what the approval left, and the rows of any other item are untouched. -/
structure Reviewing (fetchOne : FetchOne Inventory) (countId binId : ℕ)
    (submitted store : CountingStore) : Prop where
  lines : (store.countLines.select fun line => line.countId == countId) =
    submitted.countLines.select fun line => line.countId == countId
  adjustments : (store.countAdjustments countId).map
      (fun entry => (entry.1, entry.2.itemId, entry.2.binId, entry.2.quantityChange)) =
    (submitted.countAdjustments countId).map
      fun entry => (entry.1, entry.2.itemId, entry.2.binId, entry.2.quantityChange)
  approved : ∀ entry ∈ store.countAdjustments countId, entry.2.status = .approved →
    store.binOnHand entry.2.itemId binId = approvedOnHand fetchOne
      (submitted.inventory.select (Inventory.inBin entry.2.itemId binId))
      entry.2.quantityChange
  untouched : ∀ itemId, (∀ entry ∈ store.countAdjustments countId,
      entry.2.itemId = itemId → entry.2.status ≠ .approved) →
    store.inventory.select (Inventory.inBin itemId binId) =
      submitted.inventory.select (Inventory.inBin itemId binId)

structure OneAdjustmentEach (countId binId : ℕ) (store : CountingStore) : Prop where
  items : ((store.countAdjustments countId).map fun entry => entry.2.itemId).Nodup
  bins : ∀ entry ∈ store.countAdjustments countId, entry.2.binId = binId

theorem mem_countAdjustments {entry : ℕ × Adjustment} :
    entry ∈ store.countAdjustments countId ↔
      entry ∈ store.adjustments.entries ∧ entry.2.cycleCountId = some countId := by
  simp [CountingStore.countAdjustments, Table.mem_select]

theorem Reviewing.oneAdjustmentEach (hone : OneAdjustmentEach countId binId submitted)
    (hreviewing : Reviewing fetchOne countId binId submitted store) :
    OneAdjustmentEach countId binId store where
  items := by
    have hitems := congrArg (List.map fun named => named.2.1) hreviewing.adjustments
    rw [List.map_map, List.map_map] at hitems
    exact (congrArg List.Nodup hitems).mpr hone.items
  bins := by
    intro entry hentry
    have hmem := List.mem_map_of_mem
      (f := fun entry => (entry.1, entry.2.itemId, entry.2.binId, entry.2.quantityChange))
      hentry
    rw [hreviewing.adjustments, List.mem_map] at hmem
    obtain ⟨before, hbefore, hnamed⟩ := hmem
    rw [Prod.mk.injEq, Prod.mk.injEq, Prod.mk.injEq] at hnamed
    rw [← hnamed.2.2.1]
    exact hone.bins before hbefore

theorem OneAdjustmentEach.unique (hone : OneAdjustmentEach countId binId store)
    {entry entry' : ℕ × Adjustment} (hentry : entry ∈ store.countAdjustments countId)
    (hentry' : entry' ∈ store.countAdjustments countId)
    (hitem : entry.2.itemId = entry'.2.itemId) : entry = entry' :=
  List.inj_on_of_nodup_map hone.items hentry hentry' hitem

theorem countAdjustments_setStatus (adjustmentId : ℕ) (status : AdjustmentStatus) :
    (setAdjustmentStatus store adjustmentId status).countAdjustments countId =
      (store.countAdjustments countId).map fun entry =>
        (entry.1, if entry.1 = adjustmentId then { entry.2 with status } else entry.2) := by
  calc (setAdjustmentStatus store adjustmentId status).countAdjustments countId
      = (store.adjustments.mapRows fun key row =>
          if key = adjustmentId then { row with status } else row).select
            fun row => row.cycleCountId == some countId := rfl
    _ = _ := by
        rw [Table.select_mapRows]
        · rfl
        · intro key row
          split <;> rfl

theorem named_setStatus (entries : List (ℕ × Adjustment)) (adjustmentId : ℕ)
    (status : AdjustmentStatus) :
    (entries.map fun entry => (entry.1,
        if entry.1 = adjustmentId then { entry.2 with status } else entry.2)).map
      (fun entry => (entry.1, entry.2.itemId, entry.2.binId, entry.2.quantityChange)) =
    entries.map
      fun entry => (entry.1, entry.2.itemId, entry.2.binId, entry.2.quantityChange) := by
  rw [List.map_map]
  apply List.map_congr_left
  intro entry _
  rw [Function.comp_apply]
  split <;> rfl

theorem Reviewing.reject (hreviewing : Reviewing fetchOne countId binId submitted store)
    {adjustmentId : ℕ} {row : Adjustment}
    (hrow : (adjustmentId, row) ∈ store.adjustments.entries) (hpending : row.status = .pending) :
    Reviewing fetchOne countId binId submitted
      (setAdjustmentStatus store adjustmentId .rejected) where
  lines := hreviewing.lines
  adjustments := by
    rw [countAdjustments_setStatus, named_setStatus, hreviewing.adjustments]
  approved := by
    intro entry hentry happroved
    rw [countAdjustments_setStatus, List.mem_map] at hentry
    obtain ⟨before, hbefore, rfl⟩ := hentry
    dsimp only at happroved ⊢
    split at happroved
    · cases happroved
    · next hkey =>
        rw [if_neg hkey]
        exact hreviewing.approved before hbefore happroved
  untouched := by
    intro itemId hnone
    apply hreviewing.untouched itemId
    intro entry hentry hitem happroved
    rw [countAdjustments_setStatus] at hnone
    have hafter := hnone _ (List.mem_map_of_mem hentry)
    dsimp only at hafter
    by_cases hkey : entry.1 = adjustmentId
    · have hsame := (mem_countAdjustments.mp hentry).1
      rw [← hkey] at hrow
      rw [store.adjustments.row_unique hsame hrow, hpending] at happroved
      cases happroved
    · rw [if_neg hkey] at hafter
      exact hafter hitem happroved

theorem Reviewing.approve (hone : OneAdjustmentEach countId binId submitted)
    (hreviewing : Reviewing fetchOne countId binId submitted store)
    {adjustmentId : ℕ} {row : Adjustment}
    (hrow : (adjustmentId, row) ∈ store.countAdjustments countId)
    (hpending : row.status = .pending) :
    Reviewing fetchOne countId binId submitted
      (setAdjustmentStatus (applyAdjustment fetchOne store row) adjustmentId .approved) := by
  obtain ⟨inventory, hframe⟩ := applyAdjustment_frame fetchOne store row
  have hadjustments : (applyAdjustment fetchOne store row).countAdjustments countId =
      store.countAdjustments countId := by
    rw [hframe]
    rfl
  have honeStore := hreviewing.oneAdjustmentEach hone
  have hbin : row.binId = binId := honeStore.bins _ hrow
  have hother : ∀ {itemId : ℕ}, itemId ≠ row.itemId →
      (applyAdjustment fetchOne store row).inventory.select (Inventory.inBin itemId binId) =
        store.inventory.select (Inventory.inBin itemId binId) := by
    intro itemId hitem
    apply applyAdjustment_elsewhere
    intro stock hstock
    have hsame := (inBin_iff.mp hstock).1
    simp [Inventory.inBin, hsame, Ne.symm hitem]
  constructor
  · rw [hframe]
    exact hreviewing.lines
  · rw [countAdjustments_setStatus, named_setStatus, hadjustments, hreviewing.adjustments]
  · intro entry hentry happroved
    rw [countAdjustments_setStatus, hadjustments, List.mem_map] at hentry
    obtain ⟨⟨key, before⟩, hbefore, rfl⟩ := hentry
    by_cases hkey : key = adjustmentId
    · have hsame := (mem_countAdjustments.mp hbefore).1
      rw [hkey] at hsame
      have hrowEq := store.adjustments.row_unique hsame (mem_countAdjustments.mp hrow).1
      dsimp only
      rw [if_pos hkey, hrowEq]
      have hleft := applyAdjustment_binOnHand fetchOne store row
      rw [hbin] at hleft
      have hrows : store.inventory.select (Inventory.inBin row.itemId binId) =
          submitted.inventory.select (Inventory.inBin row.itemId binId) := by
        apply hreviewing.untouched
        intro entry hentry hitem
        rw [honeStore.unique hentry hrow hitem, hpending]
        decide
      rw [hrows] at hleft
      exact hleft
    · dsimp only at happroved ⊢
      rw [if_neg hkey] at happroved ⊢
      have hitem : before.itemId ≠ row.itemId := fun hsame =>
        hkey (congrArg Prod.fst (honeStore.unique hbefore hrow hsame))
      have hheld := hreviewing.approved (key, before) hbefore happroved
      rw [binOnHand_eq] at hheld ⊢
      rw [← hheld]
      exact congrArg rowsOnHand (hother hitem)
  · intro itemId hnone
    rw [countAdjustments_setStatus, hadjustments] at hnone
    have hitem : itemId ≠ row.itemId := by
      intro hsame
      have hafter := hnone _ (List.mem_map_of_mem hrow)
      dsimp only at hafter
      rw [if_pos rfl] at hafter
      exact hafter hsame.symm rfl
    refine Eq.trans (hother hitem) (hreviewing.untouched itemId ?_)
    intro entry hentry hentryItem happroved
    have hafter := hnone _ (List.mem_map_of_mem hentry)
    dsimp only at hafter
    split at hafter
    · exact hafter hentryItem rfl
    · exact hafter hentryItem happroved

theorem Reviewing.approveElsewhere
    (hreviewing : Reviewing fetchOne countId binId submitted store)
    {adjustmentId : ℕ} {row : Adjustment}
    (hrow : (adjustmentId, row) ∈ store.adjustments.entries)
    (hcount : row.cycleCountId ≠ some countId) (hbin : row.binId ≠ binId) :
    Reviewing fetchOne countId binId submitted
      (setAdjustmentStatus (applyAdjustment fetchOne store row) adjustmentId .approved) := by
  obtain ⟨inventory, hframe⟩ := applyAdjustment_frame fetchOne store row
  have hadjustments : (setAdjustmentStatus (applyAdjustment fetchOne store row) adjustmentId
      .approved).countAdjustments countId = store.countAdjustments countId := by
    rw [countAdjustments_setStatus]
    have hsame : (applyAdjustment fetchOne store row).countAdjustments countId =
        store.countAdjustments countId := by
      rw [hframe]
      rfl
    rw [hsame]
    conv_rhs => rw [← List.map_id (store.countAdjustments countId)]
    apply List.map_congr_left
    intro entry hentry
    obtain ⟨hmem, hcountEntry⟩ := mem_countAdjustments.mp hentry
    have hkey : entry.1 ≠ adjustmentId := by
      intro hkey
      rw [← hkey] at hrow
      rw [store.adjustments.row_unique hrow hmem] at hcount
      exact hcount hcountEntry
    rw [if_neg hkey]
    rfl
  have hstock : ∀ itemId,
      (applyAdjustment fetchOne store row).inventory.select (Inventory.inBin itemId binId) =
        store.inventory.select (Inventory.inBin itemId binId) := by
    intro itemId
    apply applyAdjustment_elsewhere
    intro stock hstock
    have hsame := (inBin_iff.mp hstock).2
    simp [Inventory.inBin, hsame, hbin]
  constructor
  · rw [hframe]
    exact hreviewing.lines
  · rw [hadjustments, hreviewing.adjustments]
  · intro entry hentry happroved
    rw [hadjustments] at hentry
    have hheld := hreviewing.approved entry hentry happroved
    rw [binOnHand_eq] at hheld ⊢
    rw [← hheld]
    exact congrArg rowsOnHand (hstock _)
  · intro itemId hnone
    rw [hadjustments] at hnone
    exact Eq.trans (hstock itemId) (hreviewing.untouched itemId hnone)

theorem step_reviewing (hone : OneAdjustmentEach countId binId submitted)
    {movement : Movement}
    (hreviewing : Reviewing fetchOne countId binId submitted store)
    (hleaves : LeavesBin countId binId store movement)
    (hstep : step fetchOne store movement = some after) :
    Reviewing fetchOne countId binId submitted after := by
  cases movement with
  | review reviewer decisions =>
      rw [step, toOption_eq_some, reviewAdjustments] at hstep
      obtain ⟨reviewed, hfold, hresult⟩ := bind_eq_ok.mp hstep
      -- A row that is still pending is as it was when the request came in.
      have hdecisions : Reviewing fetchOne countId binId submitted reviewed.1 ∧
          ∀ key row, (key, row) ∈ reviewed.1.adjustments.entries → row.status = .pending →
            (key, row) ∈ store.adjustments.entries := by
        refine foldlM_invariant (fun state : CountingStore × List (ℕ × ℕ) =>
          Reviewing fetchOne countId binId submitted state.1 ∧
          ∀ key row, (key, row) ∈ state.1.adjustments.entries → row.status = .pending →
            (key, row) ∈ store.adjustments.entries) ?_ hfold
          ⟨hreviewing, fun key row hmem _ => hmem⟩
        intro state decision result hdecision hstate hreview
        have hstatus : ∀ (applied : CountingStore) (status : AdjustmentStatus),
            applied.adjustments = state.1.adjustments → status ≠ .pending →
            ∀ key row, (key, row) ∈
              (setAdjustmentStatus applied decision.adjustmentId status).adjustments.entries →
            row.status = .pending → (key, row) ∈ store.adjustments.entries := by
          intro applied status happlied hdecided key row hmem hpending
          obtain ⟨before, hbefore, hrow⟩ := (Table.mem_modify _).mp hmem
          rw [happlied] at hbefore
          split at hrow
          · rw [← hrow] at hpending
            exact absurd hpending hdecided
          · rw [hrow] at hbefore
            exact hstate.2 key row hbefore hpending
        cases reviewDecision_cases hreview with
        | inl hsame => exact hsame ▸ hstate
        | inr hdecided =>
            obtain ⟨row, hrow, hpending, hrejected | ⟨happrove, events, happroved⟩⟩ := hdecided
            · rw [hrejected]
              exact ⟨hstate.1.reject hrow hpending,
                hstatus state.1 .rejected rfl (by decide)⟩
            · obtain ⟨inventory, hframe⟩ :=
                applyAdjustment_frame fetchOne state.1 row
              have hkept := hstatus (applyAdjustment fetchOne state.1 row) .approved
                (by rw [hframe]) (by decide)
              rw [happroved]
              by_cases hcount : row.cycleCountId = some countId
              · have happroval := hstate.1.approve hone
                  (mem_countAdjustments.mpr ⟨hrow, hcount⟩) hpending
                exact ⟨⟨happroval.lines, happroval.adjustments, happroval.approved,
                  happroval.untouched⟩, hkept⟩
              · have hbin : row.binId ≠ binId := fun hbin =>
                  hcount (hleaves decision hdecision happrove row
                    ((Table.get?_eq_some _).mpr (hstate.2 _ _ hrow hpending)) hpending hbin)
                have happroval := hstate.1.approveElsewhere hrow hcount hbin
                exact ⟨⟨happroval.lines, happroval.adjustments, happroval.approved,
                  happroval.untouched⟩, hkept⟩
      obtain ⟨hreviewed, -⟩ := hdecisions
      have hinventory : (reviewed.2.foldl (fun store pair =>
          releaseSatisfiableBackorders store pair.1 pair.2) reviewed.1.toStore).inventory =
          reviewed.1.inventory := by
        refine foldl_invariant
          (fun released : Store => released.inventory = reviewed.1.inventory) ?_ _ rfl
        intro released pair hsame
        rw [releaseSatisfiableBackorders_inventory, hsame]
      cases hresult
      constructor
      · exact hreviewed.lines
      · exact hreviewed.adjustments
      · intro entry hentry happroved
        have hheld := hreviewed.approved entry hentry happroved
        rw [binOnHand_eq] at hheld ⊢
        rw [← hheld]
        exact congrArg (fun inventory : Table Inventory =>
          rowsOnHand (inventory.select (Inventory.inBin entry.2.itemId binId))) hinventory
      · intro itemId hnone
        rw [← hreviewed.untouched itemId hnone]
        exact congrArg (fun inventory : Table Inventory =>
          inventory.select (Inventory.inBin itemId binId)) hinventory
  | elsewhere next =>
      cases hstep
      have hstock : ∀ itemId, after.inventory.select (Inventory.inBin itemId binId) =
          store.inventory.select (Inventory.inBin itemId binId) := by
        intro itemId
        rw [select_inBin, hleaves.stock, ← select_inBin]
      constructor
      · rw [hleaves.lines, hreviewing.lines]
      · rw [hleaves.adjustments, hreviewing.adjustments]
      · intro entry hentry happroved
        rw [hleaves.adjustments] at hentry
        rw [← hreviewing.approved entry hentry happroved, binOnHand_eq, binOnHand_eq, hstock]
      · intro itemId hnone
        rw [hleaves.adjustments] at hnone
        rw [hstock, hreviewing.untouched itemId hnone]

/-! ## Creating a count -/

/-- Lines and adjustments refer to counts that exist, as the foreign keys demand. -/
structure Referenced (store : CountingStore) : Prop where
  lines : ∀ entry ∈ store.countLines.entries, entry.2.countId ∈ store.cycleCounts.keys
  adjustments : ∀ entry ∈ store.adjustments.entries, ∀ countId,
    entry.2.cycleCountId = some countId → countId ∈ store.cycleCounts.keys

theorem mem_insertSnapshot {snapshot : List (ℕ × ℤ)} {lines : Table CountLine}
    {entry : ℕ × CountLine}
    (hmem : entry ∈ (insertSnapshot countId snapshot lines).entries) :
    entry ∈ lines.entries ∨ entry.2.countId = countId ∧ entry.2.countedQuantity = none := by
  induction snapshot generalizing lines with
  | nil => exact .inl hmem
  | cons row rest ih =>
      cases ih hmem with
      | inl hmem =>
          cases (Table.mem_insert _).mp hmem with
          | inl hold => exact .inl hold
          | inr hnew => exact .inr (by rw [hnew]; exact ⟨rfl, rfl⟩)
      | inr hnew => exact .inr hnew

theorem select_insertSnapshot_other {other : ℕ} (hother : other ≠ countId)
    (snapshot : List (ℕ × ℤ)) (lines : Table CountLine) :
    ((insertSnapshot countId snapshot lines).select fun line => line.countId == other) =
      lines.select fun line => line.countId == other := by
  induction snapshot generalizing lines with
  | nil => rfl
  | cons row rest ih =>
      calc ((insertSnapshot countId (row :: rest) lines).select fun line =>
            line.countId == other)
          = (lines.insert { countId, itemId := row.1, expectedQuantity := row.2 }).select
              fun line => line.countId == other := ih _
        _ = lines.select fun line => line.countId == other := by
            rw [Table.select_insert, if_neg (by simp [Ne.symm hother]), List.append_nil]

theorem select_insertSnapshot (snapshot : List (ℕ × ℤ)) (lines : Table CountLine) :
    ((insertSnapshot countId snapshot lines).select fun line => line.countId == countId).map
        (fun entry => (entry.2.itemId, entry.2.expectedQuantity)) =
      (lines.select fun line => line.countId == countId).map
        (fun entry => (entry.2.itemId, entry.2.expectedQuantity)) ++ snapshot := by
  induction snapshot generalizing lines with
  | nil => simp [insertSnapshot]
  | cons row rest ih =>
      calc ((insertSnapshot countId (row :: rest) lines).select fun line =>
            line.countId == countId).map
              (fun entry => (entry.2.itemId, entry.2.expectedQuantity))
          = ((lines.insert { countId, itemId := row.1, expectedQuantity := row.2 }).select
              fun line => line.countId == countId).map
                (fun entry => (entry.2.itemId, entry.2.expectedQuantity)) ++ rest := ih _
        _ = _ := by
            rw [Table.select_insert, if_pos (beq_self_eq_true _), List.map_append,
              List.append_assoc]
            rfl

theorem Referenced.fresh (hreferenced : Referenced store)
    (hfresh : countId ∉ store.cycleCounts.keys) :
    (store.countLines.select fun line => line.countId == countId) = [] ∧
      store.countAdjustments countId = [] := by
  constructor
  · rw [Table.select, List.filter_eq_nil_iff]
    intro entry hentry hcount
    exact hfresh (beq_iff_eq.mp hcount ▸ hreferenced.lines entry hentry)
  · rw [CountingStore.countAdjustments, Table.select, List.filter_eq_nil_iff]
    intro entry hentry hcount
    exact hfresh (hreferenced.adjustments entry hentry countId (beq_iff_eq.mp hcount))

variable {warehouseId : ℕ} {state : CountingStore × List CreatedCount}

theorem openCount_keys {key : ℕ} (hkey : key ∈ state.1.cycleCounts.keys) :
    key ∈ (openCount username warehouseId state binId).1.cycleCounts.keys := by
  simp only [openCount, Table.keys, Table.insert, List.map_append]
  exact List.mem_append_left _ hkey

theorem openCount_referenced (hreferenced : Referenced state.1) :
    Referenced (openCount username warehouseId state binId).1 where
  lines := by
    intro entry hentry
    cases mem_insertSnapshot hentry with
    | inl hold => exact openCount_keys (hreferenced.lines entry hold)
    | inr hnew =>
        rw [hnew.1]
        simp [openCount, Table.keys, Table.insert]
  adjustments := fun entry hentry countId hcount =>
    openCount_keys (hreferenced.adjustments entry hentry countId hcount)

theorem openCount_opened (hreferenced : Referenced state.1) :
    Opened state.1.cycleCounts.next binId
      (openCount username warehouseId state binId).1 := by
  have hfresh : state.1.cycleCounts.next ∉ state.1.cycleCounts.keys := fun hmem =>
    Nat.lt_irrefl _ (state.1.cycleCounts.fresh _ hmem)
  obtain ⟨hlines, hadjustments⟩ := hreferenced.fresh hfresh
  constructor
  · rw [openCount]
    dsimp only
    rw [Table.get?_insert_self]
    rfl
  · refine Eq.trans (select_insertSnapshot _ _) ?_
    rw [hlines]
    rfl
  · intro entry hentry
    obtain ⟨hmem, hcount⟩ := mem_countLines.mp hentry
    cases mem_insertSnapshot hmem with
    | inl hold =>
        have hnone := mem_countLines.mpr ⟨hold, hcount⟩
        rw [hlines] at hnone
        cases hnone
    | inr hnew => exact hnew.2
  · exact hadjustments

theorem openCount_keeps {other : ℕ} (hopened : Opened countId other state.1) :
    Opened countId other (openCount username warehouseId state binId).1 := by
  have hother : countId ≠ state.1.cycleCounts.next := by
    intro hnext
    have hcount := hopened.count
    rw [Option.map_eq_some_iff] at hcount
    obtain ⟨count, hget, -⟩ := hcount
    have hlt := state.1.cycleCounts.lt_next_of_mem (state.1.cycleCounts.get?_eq_some.mp hget)
    exact absurd hlt (hnext ▸ Nat.lt_irrefl _)
  have hlines := select_insertSnapshot_other hother
    (binSnapshot state.1.toStore binId) state.1.countLines
  constructor
  · rw [openCount]
    dsimp only
    rw [Table.get?_insert_of_ne _ hother]
    exact hopened.count
  · exact Eq.trans (congrArg (List.map _) hlines) hopened.lines
  · intro entry hentry
    rw [openCount] at hentry
    dsimp only at hentry
    rw [hlines] at hentry
    exact hopened.uncounted entry hentry
  · exact hopened.adjustments

/-- The counts that were created so far cover their bins. -/
def CountsOpened (state : CountingStore × List CreatedCount) : Prop :=
  Referenced state.1 ∧ ∀ count ∈ state.2, Opened count.countId count.binId state.1

theorem openCount_counts (hstate : CountsOpened state) :
    CountsOpened (openCount username warehouseId state binId) := by
  refine ⟨openCount_referenced hstate.1, ?_⟩
  intro count hcount
  cases List.mem_append.mp hcount with
  | inl hold => exact openCount_keeps (hstate.2 count hold)
  | inr hnew =>
      rw [List.mem_singleton.mp hnew]
      exact openCount_opened hstate.1

theorem createCycleCount_opened {created : CountingStore} {request : CreateCycleCountRequest}
    {counts : List CreatedCount} (hreferenced : Referenced store)
    (hcreate : createCycleCount store username request = .ok (created, counts))
    {count : CreatedCount} (hcount : count ∈ counts) :
    Opened count.countId count.binId created := by
  rw [createCycleCount] at hcreate
  split at hcreate
  · cases hcreate
  · split at hcreate
    · cases hcreate
    · have hfold := Except.ok.inj hcreate
      have hopens : ∀ state binId, CountsOpened state →
          CountsOpened (openCount username request.warehouseId state binId) :=
        fun state binId hstate => openCount_counts hstate
      have hnone : CountsOpened (store, []) := ⟨hreferenced, by simp⟩
      have hinv := foldl_invariant CountsOpened hopens request.binIds hnone
      rw [hfold] at hinv
      exact hinv.2 count hcount

theorem Elsewhere.opened (helsewhere : Elsewhere countId binId store after)
    (hopened : Opened countId binId store) : Opened countId binId after := by
  have hrows : (after.inventory.select fun row =>
        row.binId == binId && decide (0 < row.quantityOnHand)) =
      store.inventory.select fun row =>
        row.binId == binId && decide (0 < row.quantityOnHand) := by
    have hfilter : ∀ inventory : Table Inventory, (inventory.select fun row =>
        row.binId == binId && decide (0 < row.quantityOnHand)) =
        (inventory.select fun row => row.binId == binId).filter
          fun entry => decide (0 < entry.2.quantityOnHand) := by
      intro inventory
      simp only [Table.select, List.filter_filter]
      apply List.filter_congr
      intro entry _
      exact Bool.and_comm _ _
    rw [hfilter, helsewhere.stock, ← hfilter]
  have hsnapshot : binSnapshot after.toStore binId = binSnapshot store.toStore binId := by
    simp only [binSnapshot, hrows, stock_stocked, select_inBin, helsewhere.stock]
  constructor
  · rw [helsewhere.count, hopened.count]
  · rw [helsewhere.lines, hopened.lines, hsnapshot]
  · intro entry hentry
    rw [helsewhere.lines] at hentry
    exact hopened.uncounted entry hentry
  · rw [helsewhere.adjustments, hopened.adjustments]

/-! ## From the snapshot to the last approval -/

theorem submitCycleCount_submits {scope : WarehouseScope} {request : SubmitCycleCountRequest}
    (hsubmit : submitCycleCount store scope username request = .ok after) :
    ∃ count stated cycleCounts, store.cycleCounts.get? request.countId = some count ∧
      Submits request.countId count username store
        (submissions request.countId store.countLines request.lines) stated ∧
      after = { stated with cycleCounts } := by
  rw [submitCycleCount] at hsubmit
  cases hget : store.cycleCounts.get? request.countId with
  | none =>
      rw [hget] at hsubmit
      cases hsubmit
  | some count =>
      rw [hget] at hsubmit
      dsimp only at hsubmit
      split at hsubmit
      · cases hsubmit
      · split at hsubmit
        · cases hsubmit
        · obtain ⟨stated, hfold, hresult⟩ := bind_eq_ok.mp hsubmit
          cases hresult
          exact ⟨count, stated.1, _, rfl, submits_of_foldlM (SameLines.refl _) hfold, rfl⟩

theorem adjusted_iff (hopened : Opened countId binId store)
    (hsubmits : Submits countId count username store subs after) {submission : Submission}
    (hmem : submission ∈ subs) :
    (subs.any fun other => other.lineId == submission.lineId && other.files) = true ↔
      ∃ entry ∈ after.countAdjustments countId, entry.2.itemId = submission.itemId := by
  have hfiled := hsubmits.adjustments
  rw [hopened.adjustments, List.map_nil, List.nil_append] at hfiled
  have hitems := congrArg (List.map Prod.fst) hfiled
  rw [List.map_map, List.map_map] at hitems
  rw [List.any_eq_true]
  constructor
  · rintro ⟨other, hother, hfiles⟩
    rw [Bool.and_eq_true, beq_iff_eq] at hfiles
    have hitem := (hsubmits.lineId_eq_iff hopened hother hmem).mp hfiles.1
    have hin : other.itemId ∈ (subs.filter Submission.files).map
        (Prod.fst ∘ Submission.variance) :=
      List.mem_map.mpr ⟨other, List.mem_filter.mpr ⟨hother, hfiles.2⟩, rfl⟩
    rw [← hitems, List.mem_map] at hin
    obtain ⟨entry, hentry, hsame⟩ := hin
    exact ⟨entry, hentry, hsame.trans hitem⟩
  · rintro ⟨entry, hentry, hitem⟩
    have hin : entry.2.itemId ∈ (after.countAdjustments countId).map
        (Prod.fst ∘ fun entry => (entry.2.itemId, entry.2.quantityChange)) :=
      List.mem_map.mpr ⟨entry, hentry, rfl⟩
    rw [hitems, List.mem_map] at hin
    obtain ⟨other, hother, hsame⟩ := hin
    obtain ⟨hother, hfiles⟩ := List.mem_filter.mp hother
    have hline := (hsubmits.lineId_eq_iff hopened hother hmem).mpr (hsame.trans hitem)
    exact ⟨other, hother, by rw [hline, hfiles, beq_self_eq_true]; rfl⟩

theorem Reviewing.start (hpending : ∀ entry ∈ store.countAdjustments countId,
    entry.2.status = .pending) : Reviewing fetchOne countId binId store store where
  lines := rfl
  adjustments := rfl
  approved := by
    intro entry hentry happroved
    rw [hpending entry hentry] at happroved
    cases happroved
  untouched := fun _ _ => rfl

theorem Reviewing.entry (hreviewing : Reviewing fetchOne countId binId submitted store)
    {entry : ℕ × Adjustment} (hentry : entry ∈ submitted.countAdjustments countId) :
    ∃ found ∈ store.countAdjustments countId, found.2.itemId = entry.2.itemId ∧
      found.2.quantityChange = entry.2.quantityChange := by
  have hmem := List.mem_map_of_mem
    (f := fun entry => (entry.1, entry.2.itemId, entry.2.binId, entry.2.quantityChange))
    hentry
  rw [← hreviewing.adjustments, List.mem_map] at hmem
  obtain ⟨found, hfound, hnamed⟩ := hmem
  rw [Prod.mk.injEq, Prod.mk.injEq, Prod.mk.injEq] at hnamed
  exact ⟨found, hfound, hnamed.2.1, hnamed.2.2.2⟩

theorem Reviewing.matches_iff (hopened : Opened countId binId store)
    (hsubmits : Submits countId count username store subs submitted)
    (hfiles : FilesVariances submitted countId)
    (hpending : submitted.pendingAdjustments countId = submitted.countAdjustments countId)
    (hreviewing : Reviewing fetchOne countId binId submitted after)
    (happroved : ∀ entry ∈ after.countAdjustments countId, entry.2.status = .approved)
    {submission : Submission} (hmem : submission ∈ subs) {counted : ℕ}
    (hlast : lastCount submission.lineId subs = some counted) :
    after.binOnHand submission.itemId binId = counted ↔
      LevelsOut fetchOne (store.inventory.select (Inventory.inBin submission.itemId binId))
        (subs.any fun other => other.lineId == submission.lineId && other.files)
        (counted - submission.expected) := by
  have hexpected := hopened.expected hsubmits hmem
  have hstock : submitted.inventory = store.inventory :=
    congrArg Store.inventory hsubmits.toStore
  cases hadjusted : subs.any fun other =>
    other.lineId == submission.lineId && other.files with
  | true =>
      obtain ⟨entry, hentry, hitem⟩ := (adjusted_iff hopened hsubmits hmem).mp hadjusted
      obtain ⟨found, hfound, hfoundItem, hchange⟩ := hreviewing.entry hentry
      have hheld := hreviewing.approved found hfound (happroved found hfound)
      obtain ⟨⟨key, line⟩, hline, hcounts, shown, hshown, hvariance⟩ :=
        hfiles.variance entry (hpending ▸ hentry)
      rw [CountLine.counts, Bool.and_eq_true, beq_iff_eq, beq_iff_eq] at hcounts
      obtain ⟨hkey, hlineExpected⟩ := hsubmits.line_of_item hopened hmem hline hcounts.1
        (hcounts.2.trans hitem)
      rw [hopened.counted hsubmits hline hcounts.1, hkey, hlast, Option.map_some,
        Option.some.injEq] at hshown
      rw [hfoundItem, hitem, hchange, hvariance, hstock, ← hshown, hlineExpected] at hheld
      rw [hheld]
      exact approvedOnHand_eq_iff hexpected (Int.natCast_nonneg counted)
  | false =>
      have hnone : ∀ entry ∈ after.countAdjustments countId,
          entry.2.itemId = submission.itemId → entry.2.status ≠ .approved := by
        intro entry hentry hitem
        have hmemNamed := List.mem_map_of_mem
          (f := fun entry => (entry.1, entry.2.itemId, entry.2.binId, entry.2.quantityChange))
          hentry
        rw [hreviewing.adjustments, List.mem_map] at hmemNamed
        obtain ⟨before, hbefore, hnamed⟩ := hmemNamed
        have hbeforeItem : before.2.itemId = submission.itemId :=
          (congrArg (·.2.1) hnamed).trans hitem
        have htrue := (adjusted_iff hopened hsubmits hmem).mpr ⟨before, hbefore, hbeforeItem⟩
        rw [hadjusted] at htrue
        cases htrue
      obtain ⟨last, hlastMem, hline, hlastCounted⟩ := mem_of_lastCount hlast
      have hunfiled : last.files = false := by
        have hall := List.any_eq_false.mp hadjusted last hlastMem
        rw [hline, beq_self_eq_true, Bool.true_and, Bool.not_eq_true] at hall
        exact hall
      have hsettled : (last.counted : ℤ) = last.expected := by
        simpa [Submission.files] using (Bool.or_eq_false_iff.mp hunfiled).2
      obtain ⟨found, hfound, hname⟩ := hsubmits.line hmem
      obtain ⟨found', hfound', hname'⟩ := hsubmits.line hlastMem
      rw [hline] at hfound'
      rw [submitted.countLines.row_unique hfound hfound', hname'] at hname
      have hsame : last.expected = submission.expected := congrArg (·.2.2) hname
      have hcounted : (counted : ℤ) = submission.expected := by
        rw [← hlastCounted, hsettled, hsame]
      rw [binOnHand_eq, hreviewing.untouched submission.itemId hnone, hstock, hcounted]
      exact rowsOnHand_eq_iff hexpected _

theorem Reviewing.binMatches_iff (hopened : Opened countId binId store)
    (hsubmits : Submits countId count username store subs submitted)
    (hfiles : FilesVariances submitted countId)
    (hpending : submitted.pendingAdjustments countId = submitted.countAdjustments countId)
    (hreviewing : Reviewing fetchOne countId binId submitted after)
    (happroved : ∀ entry ∈ after.countAdjustments countId, entry.2.status = .approved) :
    BinMatches after countId binId ↔ AllLevelOut fetchOne store binId subs := by
  have hline : ∀ {key : ℕ} {line : CountLine}, (key, line) ∈ after.countLines.entries →
      line.countId = countId → (key, line) ∈ submitted.countLines.entries := by
    intro key line hmem hcount
    have hselected := mem_countLines.mpr ⟨hmem, hcount⟩
    rw [hreviewing.lines] at hselected
    exact (mem_countLines.mp hselected).1
  constructor
  · intro hmatches submission hmem counted hlast
    obtain ⟨found, hfound, hname⟩ := hsubmits.line hmem
    rw [CountLine.name, Prod.mk.injEq, Prod.mk.injEq] at hname
    have hselected := mem_countLines.mpr ⟨hfound, hname.1⟩
    rw [← hreviewing.lines] at hselected
    have hheld := hmatches _ (mem_countLines.mp hselected).1 hname.1 counted (by
      rw [hopened.counted hsubmits hfound hname.1, hlast, Option.map_some])
    rw [hname.2.1] at hheld
    exact (hreviewing.matches_iff hopened hsubmits hfiles hpending happroved hmem hlast).mp
      hheld
  · rintro hlevel ⟨key, line⟩ hmem hcount counted hcounted
    have hfound := hline hmem hcount
    dsimp only at hcount hcounted ⊢
    rw [hopened.counted hsubmits hfound hcount, Option.map_eq_some_iff] at hcounted
    obtain ⟨stated, hlast, rfl⟩ := hcounted
    obtain ⟨submission, hsubmission, hkey, -⟩ := mem_of_lastCount hlast
    obtain ⟨found, hfoundLine, hname⟩ := hsubmits.line hsubmission
    rw [hkey] at hfoundLine
    rw [submitted.countLines.row_unique hfoundLine hfound] at hname
    have hitem : line.itemId = submission.itemId := congrArg (·.2.1) hname
    rw [hitem]
    rw [← hkey] at hlast
    exact (hreviewing.matches_iff hopened hsubmits hfiles hpending happroved hsubmission
      hlast).mpr (hlevel submission hsubmission stated hlast)

/-- From the creation of a count on, with nothing else moving in its bin: the pending
adjustments are the variances exactly when every line is stated once, and once they are
approved the bin also holds what was counted exactly when every line levels out. -/
theorem countMatches_iff (fetchOne : FetchOne Inventory)
    {store created before submitted : CountingStore} {creator submitter : String}
    {createRequest : CreateCycleCountRequest} {counts : List CreatedCount}
    {count : CreatedCount} {scope : WarehouseScope} {request : SubmitCycleCountRequest}
    (hreferenced : Referenced store)
    (hcreate : createCycleCount store creator createRequest = .ok (created, counts))
    (hcount : count ∈ counts)
    (helsewhere : Elsewhere count.countId count.binId created before)
    (hrequest : request.countId = count.countId)
    (hsubmit : submitCycleCount before scope submitter request = .ok submitted) :
    (FilesVariances submitted count.countId ↔
      StatedOnce (submissions count.countId before.countLines request.lines)) ∧
    ∀ movements after,
      Run (step fetchOne) (LeavesBin count.countId count.binId) submitted movements after →
      (∀ entry ∈ after.countAdjustments count.countId, entry.2.status = .approved) →
      (FilesVariances submitted count.countId ∧
          BinMatches after count.countId count.binId ↔
        StatedOnce (submissions count.countId before.countLines request.lines) ∧
          AllLevelOut fetchOne before count.binId
            (submissions count.countId before.countLines request.lines)) := by
  have hopened := helsewhere.opened (createCycleCount_opened hreferenced hcreate hcount)
  obtain ⟨row, stated, cycleCounts, hget, hsubmits, hresult⟩ := submitCycleCount_submits hsubmit
  rw [hrequest] at hget hsubmits
  have hbin : row.binId = count.binId := by
    have hcounted := hopened.count
    rw [hget, Option.map_some, Option.some.injEq] at hcounted
    exact hcounted
  have hallPending : ∀ entry ∈ stated.countAdjustments count.countId,
      entry.2.status = .pending ∧ entry.2.binId = row.binId :=
    hsubmits.pending (by simp [hopened.adjustments])
  have hpending := pendingAdjustments_eq fun entry hentry => (hallPending entry hentry).1
  have hiff := filesVariances_iff hopened hsubmits
  have hfiles : FilesVariances submitted count.countId ↔ FilesVariances stated count.countId := by
    rw [hresult]
    exact ⟨fun hfiles => ⟨hfiles.once, hfiles.variance⟩,
      fun hfiles => ⟨hfiles.once, hfiles.variance⟩⟩
  refine ⟨hfiles.trans hiff, ?_⟩
  intro movements after hrun happroved
  rw [hfiles, ← hiff]
  refine and_congr_right fun hvariances => ?_
  have hone : OneAdjustmentEach count.countId count.binId submitted := by
    rw [hresult]
    refine ⟨?_, fun entry hentry => (hallPending entry hentry).2.trans hbin⟩
    have honce := hvariances.once
    rw [hpending] at honce
    exact honce
  have hstart : Reviewing fetchOne count.countId count.binId submitted submitted := by
    apply Reviewing.start
    rw [hresult]
    exact fun entry hentry => (hallPending entry hentry).1
  have hreviewing := hrun.invariant _ (fun hinv hguard hstep =>
    step_reviewing hone hinv hguard hstep) hstart
  have hstated : Reviewing fetchOne count.countId count.binId stated after := by
    rw [hresult] at hreviewing
    exact ⟨hreviewing.lines, hreviewing.adjustments, hreviewing.approved,
      hreviewing.untouched⟩
  exact hstated.binMatches_iff hopened hsubmits hvariances hpending happroved

/-! ## Two lots in one bin -/

/-- Two units of an item under one lot and five under another. -/
def twoLotStore : CountingStore where
  warehouses := .ofRows [⟨"MAIN", true⟩]
  items := .ofRows [⟨"SKU-1", none, [], true, none⟩]
  bins := .ofRows [⟨1, "A-1", .pickable, 1, true⟩]
  inventory := .ofRows [⟨1, 1, 1, 2, 0, some "A", 0⟩, ⟨1, 1, 1, 5, 0, some "B", 0⟩]

def openedStore : CountingStore := (openCount "ana" 1 (twoLotStore, []) 1).1

def statedQuantities (quantity : ℕ) (quantities : List ℕ) : SubmitCycleCountRequest :=
  ⟨1, (quantity :: quantities).map fun counted => ⟨some 1, counted, false, none⟩, by simp⟩

/-- The store once they are submitted. -/
def statedStore (quantity : ℕ) (quantities : List ℕ) : CountingStore :=
  (submitCycleCount openedStore ⟨none⟩ "ana" (statedQuantities quantity quantities)
    ).toOption.getD openedStore

def approvedStore (quantity : ℕ) : CountingStore :=
  (reviewAdjustments (.first _) (statedStore quantity []) "bob" [⟨1, true⟩]
    ).toOption.getD openedStore

theorem twoLotStore_referenced : Referenced twoLotStore where
  lines := by simp [twoLotStore, Table.empty]
  adjustments := by simp [twoLotStore, Table.empty]

theorem approvedStore_run {quantity : ℕ}
    (hreview : reviewAdjustments (.first _) (statedStore quantity []) "bob" [⟨1, true⟩] =
      .ok (approvedStore quantity))
    (hcount : ∀ entry ∈ (statedStore quantity []).adjustments.entries,
      entry.2.cycleCountId = some 1) :
    Run (step (.first _)) (LeavesBin 1 1) (statedStore quantity [])
      [.review "bob" [⟨1, true⟩]] (approvedStore quantity) := by
  refine Run.cons ?_ (toOption_eq_some.mpr hreview) (Run.nil _)
  intro decision _ _ row hget _ _
  exact hcount _ ((Table.get?_eq_some _).mp hget)

/-- One unit more than expected was counted. -/
theorem countMatches_oneOver :
    FilesVariances (statedStore 8 []) 1 ∧ BinMatches (approvedStore 8) 1 1 := by
  have hall := countMatches_iff (.first _) twoLotStore_referenced
    (rfl : createCycleCount twoLotStore "ana" ⟨1, [1], by simp⟩ =
      .ok (openedStore, [⟨1, 1, 1⟩])) (List.mem_singleton.mpr rfl)
    (⟨rfl, rfl, rfl, rfl⟩ : Elsewhere 1 1 openedStore openedStore) rfl
    (rfl : submitCycleCount openedStore ⟨none⟩ "ana" (statedQuantities 8 []) =
      .ok (statedStore 8 []))
  refine (hall.2 _ (approvedStore 8) (approvedStore_run rfl (by decide)) (by decide)).mpr
    ⟨by decide, ?_⟩
  intro submission hmem counted hlast
  have hsubmission := List.mem_singleton.mp hmem
  rw [hsubmission] at hlast ⊢
  obtain rfl : 8 = counted := Option.some.inj hlast
  decide

/-- A line that is stated twice files two adjustments; and a shortfall of four is taken
from the two units of the lot that is read, so that five are left where three were
counted. -/
theorem count_misses :
    (submitCycleCount openedStore ⟨none⟩ "ana" (statedQuantities 9 [8]) =
        .ok (statedStore 9 [8]) ∧ ¬FilesVariances (statedStore 9 [8]) 1) ∧
    submitCycleCount openedStore ⟨none⟩ "ana" (statedQuantities 3 []) =
        .ok (statedStore 3 []) ∧
      Run (step (.first _)) (LeavesBin 1 1) (statedStore 3 [])
        [.review "bob" [⟨1, true⟩]] (approvedStore 3) ∧
      (∀ entry ∈ (approvedStore 3).countAdjustments 1, entry.2.status = .approved) ∧
      ¬BinMatches (approvedStore 3) 1 1 := by
  refine ⟨⟨rfl, ?_⟩, rfl, approvedStore_run rfl (by decide), by decide, ?_⟩
  · intro hfiles
    exact absurd hfiles.once (by decide)
  · intro hmatches
    have hheld : ∀ line ∈ (approvedStore 3).countLines.entries, line.2.countId = 1 →
        line.2.countedQuantity = some 3 → (approvedStore 3).binOnHand line.2.itemId 1 = 3 :=
      fun line hline hcount hcounted => hmatches line hline hcount 3 hcounted
    exact absurd hheld (by decide)

end SentryWms.Counting
