import SentryWms.Core.Admission
import SentryWms.Core.Directory
import SentryWms.Picking.Frame
import SentryWms.Store.Stock

/-!
# What the coverage check reports

The coverage check collects the open lines of the orders by item and admits them, item by
item, to what the candidate rows offer. An order is reported as soon as one of its lines is
passed over. The orders that are left then fit together for every item.
-/

namespace SentryWms

open Relational

/-! ## The coverage map -/

/-- What an open line adds to the coverage map, under its item. -/
def contributionOf (order : ℕ × SalesOrder) (line : ℕ × SalesOrderLine) :
    ℕ × Contribution :=
  (line.2.itemId,
    { soId := order.1, soNumber := order.2.soNumber, soLineId := line.1,
      needed := line.2.quantityOrdered - line.2.quantityAllocated })

def Store.contributions (store : Store) (salesOrders : List (ℕ × SalesOrder)) :
    List (ℕ × Contribution) :=
  salesOrders.flatMap fun order => (store.openLines order.1).map (contributionOf order)

def CoverageMap.of (map : CoverageMap) (itemId : ℕ) : List Contribution :=
  match map.find? fun entry => entry.1 == itemId with
  | none => []
  | some entry => entry.2

theorem coverageMap_eq (store : Store) (salesOrders : List (ℕ × SalesOrder)) :
    coverageMap store salesOrders =
      (store.contributions salesOrders).foldl
        (fun map new => CoverageMap.add new.1 new.2 map) [] := by
  rw [Store.contributions, List.foldl_flatMap]
  simp only [List.foldl_map]
  rfl

theorem CoverageMap.add_keys (itemId : ℕ) (contribution : Contribution)
    (map : CoverageMap) :
    (map.add itemId contribution).map Prod.fst =
      if itemId ∈ map.map Prod.fst then map.map Prod.fst
      else map.map Prod.fst ++ [itemId] := by
  induction map with
  | nil => rfl
  | cons entry rest ih =>
      obtain ⟨itemId', contributions⟩ := entry
      rw [CoverageMap.add]
      by_cases hsame : itemId' = itemId
      · simp [hsame]
      · rw [if_neg hsame, List.map_cons, ih]
        by_cases hmem : itemId ∈ rest.map Prod.fst
        · simp only [if_pos hmem, List.map_cons, List.mem_cons_of_mem _ hmem, if_true]
        · have hnew : itemId ∉ itemId' :: rest.map Prod.fst := by
            simpa [Ne.symm hsame] using hmem
          simp only [if_neg hmem, List.map_cons, if_neg hnew, List.cons_append]

theorem CoverageMap.of_add (itemId itemId' : ℕ) (contribution : Contribution)
    (map : CoverageMap) :
    (map.add itemId contribution).of itemId' =
      map.of itemId' ++ if itemId = itemId' then [contribution] else [] := by
  induction map with
  | nil =>
      by_cases hsame : itemId = itemId' <;> simp [CoverageMap.add, CoverageMap.of, hsame]
  | cons entry rest ih =>
      obtain ⟨first, contributions⟩ := entry
      rw [CoverageMap.add]
      simp only [CoverageMap.of] at ih ⊢
      by_cases hadd : first = itemId
      · subst hadd
        by_cases hsame : first = itemId' <;> simp [hsame]
      · by_cases hsame : first = itemId'
        · subst hsame
          simp [hadd, Ne.symm hadd]
        · simp only [if_neg hadd, List.find?_cons, beq_eq_false_iff_ne.mpr hsame]
          exact ih

theorem coverageMap_spec (store : Store) (salesOrders : List (ℕ × SalesOrder)) :
    ((coverageMap store salesOrders).map Prod.fst).Nodup ∧
      ∀ itemId, (coverageMap store salesOrders).of itemId =
        ((store.contributions salesOrders).filter fun new => new.1 == itemId).map
          Prod.snd := by
  rw [coverageMap_eq]
  suffices hall : ∀ (added : List (ℕ × Contribution)) (map : CoverageMap),
      (map.map Prod.fst).Nodup →
      ((added.foldl (fun map new => CoverageMap.add new.1 new.2 map) map).map Prod.fst).Nodup ∧
        ∀ itemId, (added.foldl (fun map new => CoverageMap.add new.1 new.2 map) map).of itemId =
          map.of itemId ++ (added.filter fun new => new.1 == itemId).map Prod.snd by
    simpa [CoverageMap.of] using hall (store.contributions salesOrders) [] List.nodup_nil
  intro added
  induction added with
  | nil => exact fun map hnodup => ⟨hnodup, fun itemId => by simp⟩
  | cons new added ih =>
      intro map hnodup
      have hadded : ((map.add new.1 new.2).map Prod.fst).Nodup := by
        rw [CoverageMap.add_keys]
        split
        next => exact hnodup
        next hnew =>
          rw [← List.concat_eq_append]
          exact hnodup.concat hnew
      obtain ⟨hkeys, hof⟩ := ih _ hadded
      refine ⟨hkeys, ?_⟩
      intro itemId
      rw [List.foldl_cons, hof, CoverageMap.of_add, List.append_assoc]
      by_cases hsame : new.1 = itemId <;> simp [hsame]

theorem CoverageMap.of_mem {map : CoverageMap} (hnodup : (map.map Prod.fst).Nodup)
    {entry : ℕ × List Contribution} (hmem : entry ∈ map) : map.of entry.1 = entry.2 := by
  rw [CoverageMap.of, Directory.find?_of_mem hnodup hmem]

variable {store : Store} {salesOrders : List (ℕ × SalesOrder)}

theorem mem_contributions {new : ℕ × Contribution} :
    new ∈ store.contributions salesOrders ↔
      ∃ order ∈ salesOrders, ∃ line ∈ store.openLines order.1,
        contributionOf order line = new := by
  simp [Store.contributions]

theorem openLines_needed {soId : ℕ} {line : ℕ × SalesOrderLine}
    (hline : line ∈ store.openLines soId) :
    line ∈ store.salesOrderLines.entries ∧ line.2.soId = soId ∧
      0 < line.2.quantityOrdered - line.2.quantityAllocated := by
  obtain ⟨hmem, hcond⟩ := (Table.mem_select _).mp hline
  rw [Bool.and_eq_true, beq_iff_eq, decide_eq_true_iff] at hcond
  exact ⟨hmem, hcond.1, by omega⟩

variable {itemId : ℕ}

theorem needed_pos {contribution : Contribution}
    (hmem : contribution ∈ (coverageMap store salesOrders).of itemId) :
    0 < contribution.needed := by
  rw [(coverageMap_spec store salesOrders).2] at hmem
  obtain ⟨new, hnew, rfl⟩ := List.mem_map.mp hmem
  obtain ⟨order, -, line, hline, rfl⟩ := mem_contributions.mp (List.mem_filter.mp hnew).1
  exact (openLines_needed hline).2.2

/-! ## The report -/

theorem mem_addUncovered (soId soId' : ℕ) (soNumber : String) (line : UncoveredLine)
    (unpickable : List UnpickableOrder) :
    soId' ∈ (addUncovered soId soNumber line unpickable).map UnpickableOrder.soId ↔
      soId' = soId ∨ soId' ∈ unpickable.map UnpickableOrder.soId := by
  induction unpickable with
  | nil => simp [addUncovered]
  | cons entry rest ih =>
      rw [addUncovered]
      by_cases hsame : entry.soId = soId
      · rw [if_pos hsame]
        simp [hsame]
      · rw [if_neg hsame, List.map_cons, List.mem_cons, ih, List.map_cons, List.mem_cons]
        tauto

theorem mem_coverItem (sku : Option String) (available cumulative : ℤ) (soId : ℕ)
    (contributions : List Contribution) (unpickable : List UnpickableOrder) :
    soId ∈ (coverItem sku available cumulative contributions unpickable).map
        UnpickableOrder.soId ↔
      soId ∈ unpickable.map UnpickableOrder.soId ∨
        ∃ contribution ∈ passedOver Contribution.needed available cumulative contributions,
          contribution.soId = soId := by
  induction contributions generalizing cumulative unpickable with
  | nil => simp [coverItem, passedOver]
  | cons contribution rest ih =>
      rw [coverItem, passedOver]
      split
      · exact ih _ _
      · rw [ih, mem_addUncovered, List.exists_mem_cons_iff]
        tauto

/-- One turn of the loop of `_plan_coverage`. -/
def coverEntry (store : Store) (warehouseId : ℕ) (state : List UnpickableOrder × LockedRows)
    (entry : ℕ × List Contribution) : List UnpickableOrder × LockedRows :=
  let rows := store.candidateRows entry.1 warehouseId
  (coverItem ((store.items.get? entry.1).map Item.sku) (totalAvailable rows) 0
    (sortContributions entry.2) state.1, state.2 ++ [(entry.1, rows)])

theorem planCoverage_eq (store : Store) (map : CoverageMap) (warehouseId : ℕ) :
    planCoverage store map warehouseId = map.foldl (coverEntry store warehouseId) ([], []) :=
  rfl

theorem mem_planCoverage (store : Store) (map : CoverageMap) (warehouseId soId : ℕ) :
    soId ∈ (planCoverage store map warehouseId).1.map UnpickableOrder.soId ↔
      ∃ entry ∈ map, ∃ contribution ∈ passedOver Contribution.needed
          (totalAvailable (store.candidateRows entry.1 warehouseId)) 0
          (sortContributions entry.2),
        contribution.soId = soId := by
  rw [planCoverage_eq]
  suffices hall : ∀ start : List UnpickableOrder × LockedRows,
      soId ∈ (map.foldl (coverEntry store warehouseId) start).1.map UnpickableOrder.soId ↔
      soId ∈ start.1.map UnpickableOrder.soId ∨
        ∃ entry ∈ map, ∃ contribution ∈ passedOver Contribution.needed
          (totalAvailable (store.candidateRows entry.1 warehouseId)) 0
          (sortContributions entry.2),
        contribution.soId = soId by
    simpa using hall ([], [])
  induction map with
  | nil => simp
  | cons entry rest ih =>
      intro start
      rw [List.foldl_cons, ih, coverEntry, mem_coverItem, List.exists_mem_cons_iff, or_assoc]

variable {warehouseId : ℕ}

theorem mem_candidateRows {row : ℕ × Candidate}
    (hrow : row ∈ store.candidateRows itemId warehouseId) :
    ∃ found, (row.1, found) ∈ store.inventory.entries ∧ found.itemId = itemId ∧
      found.available = row.2.available ∧ 0 < row.2.available := by
  obtain ⟨entry, hentry, hcandidate⟩ := List.mem_filterMap.mp (mem_orderBy.mp hrow)
  unfold Store.candidate at hcandidate
  split at hcandidate
  next => cases hcandidate
  next bin _ =>
    split at hcandidate
    next hcond =>
      cases hcandidate
      simp only [Bool.and_eq_true, decide_eq_true_iff] at hcond
      exact ⟨entry.2, hentry, (inWarehouse_iff.mp hcond.1.1).1, rfl, hcond.1.2⟩
    next => cases hcandidate

theorem candidateRows_available {row : ℕ × Candidate}
    (hrow : row ∈ store.candidateRows itemId warehouseId) :
    0 < row.2.available := by
  obtain ⟨found, -, -, -, hpos⟩ := mem_candidateRows hrow
  exact hpos

theorem candidateRows_nodup (store : Store) (itemId warehouseId : ℕ) :
    ((store.candidateRows itemId warehouseId).map Prod.fst).Nodup := by
  have hperm := (orderBy_perm (fun entry : ℕ × Candidate =>
    toLex (entry.2.pickSequence, entry.2.updatedAt))
    (store.inventory.entries.filterMap (store.candidate itemId warehouseId))).map Prod.fst
  rw [Store.candidateRows, hperm.nodup_iff]
  have hkey : ∀ entry row, store.candidate itemId warehouseId entry = some row →
      row.1 = entry.1 := by
    intro entry row hcandidate
    unfold Store.candidate at hcandidate
    split at hcandidate
    next => cases hcandidate
    next =>
      split at hcandidate
      · cases hcandidate
        rfl
      · cases hcandidate
  have hsub : ∀ entries : List (ℕ × Inventory),
      ((entries.filterMap (store.candidate itemId warehouseId)).map Prod.fst).Sublist
        (entries.map Prod.fst) := by
    intro entries
    induction entries with
    | nil => exact List.Sublist.refl _
    | cons entry entries ih =>
        cases hcandidate : store.candidate itemId warehouseId entry with
        | none =>
            rw [List.filterMap_cons_none hcandidate, List.map_cons]
            exact ih.cons _
        | some row =>
            rw [List.filterMap_cons_some hcandidate, List.map_cons, List.map_cons,
              hkey entry row hcandidate]
            exact ih.cons_cons _
  exact store.inventory.nodup_keys.sublist (hsub _)

theorem totalAvailable_nonneg (store : Store) (itemId warehouseId : ℕ) :
    0 ≤ totalAvailable (store.candidateRows itemId warehouseId) := by
  apply List.sum_nonneg
  intro available hmem
  obtain ⟨row, hrow, rfl⟩ := List.mem_map.mp hmem
  exact le_of_lt (candidateRows_available hrow)

/-! ## Dropping the reported orders -/

def Store.needOf (store : Store) (salesOrders : List (ℕ × SalesOrder)) (itemId : ℕ) : ℤ :=
  (salesOrders.map fun order =>
    ((store.openLines order.1).map fun line =>
      if line.2.itemId = itemId then line.2.quantityOrdered - line.2.quantityAllocated
      else 0).sum).sum

def Store.reportedOrders (store : Store) (salesOrders : List (ℕ × SalesOrder))
    (warehouseId : ℕ) : List ℕ :=
  (planCoverage store (coverageMap store salesOrders) warehouseId).1.map
    UnpickableOrder.soId

/-- The orders that are left when those are dropped. -/
def Store.keptOrders (store : Store) (salesOrders : List (ℕ × SalesOrder))
    (warehouseId : ℕ) : List (ℕ × SalesOrder) :=
  salesOrders.filter fun order =>
    !(store.reportedOrders salesOrders warehouseId).contains order.1

theorem needOf_eq (store : Store) (salesOrders : List (ℕ × SalesOrder)) (itemId : ℕ) :
    store.needOf salesOrders itemId =
      combinedNeeded ((coverageMap store salesOrders).of itemId) := by
  rw [(coverageMap_spec store salesOrders).2, combinedNeeded, Store.needOf,
    Store.contributions]
  induction salesOrders with
  | nil => rfl
  | cons order rest ih =>
      have hlines : ∀ lines : List (ℕ × SalesOrderLine),
          (lines.map fun line =>
            if line.2.itemId = itemId then
              line.2.quantityOrdered - line.2.quantityAllocated
            else 0).sum =
          ((((lines.map (contributionOf order)).filter fun new =>
            new.1 == itemId).map Prod.snd).map Contribution.needed).sum := by
        intro lines
        induction lines with
        | nil => rfl
        | cons line lines ih =>
            by_cases hitem : line.2.itemId = itemId <;>
              simp [contributionOf, hitem] at ih ⊢ <;> exact ih
      rw [List.map_cons, List.sum_cons, ih, hlines, List.flatMap_cons, List.filter_append,
        List.map_append, List.map_append, List.sum_append]

theorem contributions_filter (store : Store) (salesOrders : List (ℕ × SalesOrder))
    (keep : ℕ → Bool) :
    store.contributions (salesOrders.filter fun order => keep order.1) =
      (store.contributions salesOrders).filter fun new => keep new.2.soId := by
  rw [Store.contributions, Store.contributions]
  induction salesOrders with
  | nil => rfl
  | cons order rest ih =>
      rw [List.flatMap_cons, List.filter_append, ← ih, List.filter_map]
      by_cases hkeep : keep order.1 = true <;>
        simp [contributionOf, Function.comp_def, hkeep]

theorem coverageMap_filter (store : Store) (salesOrders : List (ℕ × SalesOrder))
    (keep : ℕ → Bool) (itemId : ℕ) :
    (coverageMap store (salesOrders.filter fun order => keep order.1)).of itemId =
      ((coverageMap store salesOrders).of itemId).filter fun contribution =>
        keep contribution.soId := by
  rw [(coverageMap_spec _ _).2, (coverageMap_spec _ _).2, contributions_filter,
    List.filter_map, List.filter_filter, List.filter_filter]
  congr 2
  funext new
  exact Bool.and_comm _ _

theorem perm_sortContributions (contributions : List Contribution) :
    (sortContributions contributions).Perm contributions :=
  List.perm_insertionSort _ _

theorem needed_of_sorted {entry : ℕ × List Contribution}
    (hentry : entry ∈ coverageMap store salesOrders) :
    ∀ contribution ∈ sortContributions entry.2, 0 ≤ contribution.needed := by
  intro contribution hmem
  rw [(perm_sortContributions _).mem_iff,
    ← CoverageMap.of_mem (coverageMap_spec store salesOrders).1 hentry] at hmem
  exact le_of_lt (needed_pos hmem)

theorem needOf_keptOrders_le (store : Store) (salesOrders : List (ℕ × SalesOrder))
    (warehouseId itemId : ℕ) :
    store.needOf (store.keptOrders salesOrders warehouseId) itemId ≤
      totalAvailable (store.candidateRows itemId warehouseId) := by
  have hnonneg := totalAvailable_nonneg store itemId warehouseId
  let keep (soId : ℕ) : Bool :=
    !(store.reportedOrders salesOrders warehouseId).contains soId
  have hkept : store.needOf (store.keptOrders salesOrders warehouseId) itemId =
      combinedNeeded (((coverageMap store salesOrders).of itemId).filter fun contribution =>
        keep contribution.soId) := by
    rw [needOf_eq, Store.keptOrders]
    exact congrArg combinedNeeded (coverageMap_filter store salesOrders keep itemId)
  rw [hkept]
  by_cases hitem : ∃ entry ∈ coverageMap store salesOrders, entry.1 = itemId
  · obtain ⟨entry, hentry, rfl⟩ := hitem
    have hof := CoverageMap.of_mem (coverageMap_spec store salesOrders).1 hentry
    have hdropped : ∀ contribution ∈ passedOver Contribution.needed
        (totalAvailable (store.candidateRows entry.1 warehouseId)) 0
        (sortContributions entry.2), keep contribution.soId = false := by
      intro contribution hmem
      have hreported : contribution.soId ∈ store.reportedOrders salesOrders warehouseId :=
        (mem_planCoverage _ _ _ _).mpr ⟨entry, hentry, contribution, hmem, rfl⟩
      simpa [keep] using hreported
    have hfits := Admission.sum_filter_le (needed_of_sorted hentry) hnonneg hdropped
    have hperm := (((perm_sortContributions entry.2).filter fun contribution =>
      keep contribution.soId).map Contribution.needed).sum_eq
    rw [zero_add, hperm] at hfits
    rw [hof]
    exact hfits
  · have hnone : (coverageMap store salesOrders).of itemId = [] := by
      rw [CoverageMap.of]
      split
      next => rfl
      next found hfound =>
        have hkey : found.1 = itemId := by simpa using List.find?_some hfound
        exact absurd ⟨found, List.mem_of_find?_eq_some hfound, hkey⟩ hitem
    rw [hnone]
    exact hnonneg

theorem reportedOrders_eq_nil
    (hfits : ∀ itemId, store.needOf salesOrders itemId ≤ totalAvailable (store.candidateRows itemId warehouseId)) :
    store.reportedOrders salesOrders warehouseId = [] := by
  rw [List.eq_nil_iff_forall_not_mem]
  intro soId hreported
  obtain ⟨entry, hentry, contribution, hmem, -⟩ := (mem_planCoverage _ _ _ _).mp hreported
  have hof := CoverageMap.of_mem (coverageMap_spec store salesOrders).1 hentry
  have hsum : ((sortContributions entry.2).map Contribution.needed).sum =
      store.needOf salesOrders entry.1 := by
    rw [needOf_eq, hof]
    exact ((perm_sortContributions entry.2).map Contribution.needed).sum_eq
  have hfit : 0 + ((sortContributions entry.2).map Contribution.needed).sum ≤
      totalAvailable (store.candidateRows entry.1 warehouseId) := by
    rw [hsum, zero_add]
    exact hfits entry.1
  rw [Admission.passedOver_eq_nil (needed_of_sorted hentry) hfit] at hmem
  cases hmem

/-- Dropping the reported orders always works: planned again over the same stock, the
orders kept are all covered, for every item together. -/
theorem keptOrders_covered (store : Store) (salesOrders : List (ℕ × SalesOrder))
    (warehouseId : ℕ) :
    store.reportedOrders (store.keptOrders salesOrders warehouseId) warehouseId = [] ∧
      (∀ soId ∈ store.reportedOrders salesOrders warehouseId,
        ∃ order ∈ salesOrders, order.1 = soId ∧
          order ∉ store.keptOrders salesOrders warehouseId) ∧
      (∀ order ∈ salesOrders, order.1 ∉ store.reportedOrders salesOrders warehouseId →
        order ∈ store.keptOrders salesOrders warehouseId) ∧
      ∀ itemId, store.needOf (store.keptOrders salesOrders warehouseId) itemId ≤
        totalAvailable (store.candidateRows itemId warehouseId) := by
  have hcovered := needOf_keptOrders_le store salesOrders warehouseId
  refine ⟨reportedOrders_eq_nil hcovered, ?_, ?_, hcovered⟩
  · intro soId hreported
    obtain ⟨entry, hentry, contribution, hmem, rfl⟩ :=
      (mem_planCoverage _ _ _ _).mp hreported
    have hof := CoverageMap.of_mem (coverageMap_spec store salesOrders).1 hentry
    have hmem' := (perm_sortContributions _).mem_iff.mp
      (Admission.mem_of_mem_passedOver _ _ hmem)
    rw [← hof, (coverageMap_spec store salesOrders).2] at hmem'
    obtain ⟨new, hnew, rfl⟩ := List.mem_map.mp hmem'
    obtain ⟨order, horder, line, -, rfl⟩ :=
      mem_contributions.mp (List.mem_filter.mp hnew).1
    refine ⟨order, horder, rfl, ?_⟩
    intro hkept
    have hnot := (List.mem_filter.mp hkept).2
    have hyes : (store.reportedOrders salesOrders warehouseId).contains order.1 = true :=
      List.contains_iff_mem.mpr hreported
    rw [hyes] at hnot
    cases hnot
  · intro order horder hnot
    refine List.mem_filter.mpr ⟨horder, ?_⟩
    simpa using hnot

end SentryWms
