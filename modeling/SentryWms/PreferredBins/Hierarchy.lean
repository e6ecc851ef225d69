import SentryWms.PreferredBins.PreferredBin

/-!
# The preferred bins of an item are a hierarchy

Renumbering gives the rows of an item the ranks of their sort keys, so that it always ends
in a hierarchy. Where the changed bin ends depends on the number of other rows before the
priority that was asked for, and a row that moves down still counts itself among the
places before. Deletion and put-away do not renumber: they keep the hierarchy exactly if
the bin was the last one.
-/

namespace SentryWms.PreferredBins

open Relational Ranking Transition

variable {table table' : Table PreferredBin} {itemId binId targetId priority : ℕ}
  {entry : ℕ × PreferredBin} {row : PreferredBin}

/-! ## The rows of an item -/

/-- The rows of an item without one of them. -/
def othersOf (table : Table PreferredBin) (itemId targetId : ℕ) :
    List (ℕ × PreferredBin) :=
  (ofItem table itemId).filter fun entry => entry.1 != targetId

@[simp]
theorem mem_ofItem :
    entry ∈ ofItem table itemId ↔ entry ∈ table.entries ∧ entry.2.itemId = itemId := by
  simp [ofItem, Table.mem_select]

@[simp]
theorem mem_othersOf :
    entry ∈ othersOf table itemId targetId ↔
      entry ∈ table.entries ∧ entry.2.itemId = itemId ∧ entry.1 ≠ targetId := by
  simp [othersOf, and_assoc]

theorem nodup_ofItem (table : Table PreferredBin) (itemId : ℕ) :
    (ofItem table itemId).Nodup :=
  List.Nodup.of_map Prod.fst (table.select_nodup _)

theorem ofItem_perm (hrow : (targetId, row) ∈ table.entries) (hitem : row.itemId = itemId) :
    (ofItem table itemId).Perm ((targetId, row) :: othersOf table itemId targetId) := by
  have hmem : (targetId, row) ∈ ofItem table itemId := mem_ofItem.mpr ⟨hrow, hitem⟩
  have hothers : (ofItem table itemId).erase (targetId, row) =
      othersOf table itemId targetId := by
    rw [(nodup_ofItem table itemId).erase_eq_filter, othersOf]
    apply List.filter_congr
    intro entry hentry
    have hiff : entry = (targetId, row) ↔ entry.1 = targetId := by
      constructor
      · intro heq
        rw [heq]
      · intro hkey
        obtain ⟨key, row'⟩ := entry
        subst hkey
        rw [table.row_unique (mem_ofItem.mp hentry).1 hrow]
    simp only [bne, beq_eq_decide, hiff]
  rw [← hothers]
  exact List.perm_cons_erase hmem

theorem ofItem_mapRows {change : ℕ → PreferredBin → PreferredBin}
    (hitem : ∀ key row, (change key row).itemId = row.itemId) :
    ofItem (table.mapRows change) itemId =
      (ofItem table itemId).map fun entry => (entry.1, change entry.1 entry.2) := by
  apply table.select_mapRows
  intro key row
  rw [hitem]

variable {change : PreferredBin → PreferredBin}

theorem othersOf_modify (hitem : ∀ row, (change row).itemId = row.itemId) :
    othersOf (table.modify targetId change) itemId targetId =
      othersOf table itemId targetId := by
  have hkeep : ∀ key row,
      (if key = targetId then change row else row).itemId = row.itemId := by
    intro key row
    split
    · exact hitem row
    · rfl
  rw [othersOf, Table.modify, ofItem_mapRows hkeep, List.filter_map]
  conv_rhs => rw [othersOf, ← List.map_id ((ofItem table itemId).filter _)]
  apply List.map_congr_left
  intro entry hentry
  have hkey : entry.1 ≠ targetId := by simpa using (List.mem_filter.mp hentry).2
  rw [if_neg hkey]
  rfl

theorem ofItem_delete : ofItem (table.delete targetId) itemId =
    othersOf table itemId targetId := by
  rw [ofItem, othersOf, ofItem, Table.select, Table.select, Table.delete,
    List.filter_filter, List.filter_filter]
  apply List.filter_congr
  intro entry _
  rw [Bool.and_comm]

/-! ## Renumbering -/

theorem foldl_modify_each {ρ : Type} {α : Type} (key : α → ℕ) (change : α → ρ → ρ)
    {updates : List α} (hnodup : (updates.map key).Nodup) (table : Table ρ) :
    updates.foldl (fun table update => table.modify (key update) (change update)) table =
      table.mapRows fun key' row =>
        match updates.find? fun update => key update == key' with
        | some update => change update row
        | none => row := by
  induction updates generalizing table with
  | nil => exact table.mapRows_id.symm
  | cons update updates ih =>
      obtain ⟨hfirst, hrest⟩ := List.nodup_cons.mp hnodup
      rw [List.foldl_cons, ih hrest, Table.modify, Table.mapRows_mapRows]
      apply table.mapRows_congr
      intro key' row _
      by_cases hkey : key' = key update
      · have hnone : (updates.find? fun update => key update == key') = none := by
          rw [List.find?_eq_none]
          intro update' hupdate' heq
          apply hfirst
          rw [← hkey, ← eq_of_beq heq]
          exact List.mem_map_of_mem hupdate'
        simp [hkey ▸ hnone, hkey]
      · simp [hkey, Ne.symm hkey]

theorem nodup_sortKey (table : Table PreferredBin) (itemId targetId : ℕ) :
    ((ofItem table itemId).map (sortKey targetId)).Nodup := by
  apply List.Nodup.of_map fun key : ℕ ×ₗ Bool ×ₗ ℕ => (ofLex (ofLex key).2).2
  rw [List.map_map]
  exact table.select_nodup _

theorem resequence_eq (table : Table PreferredBin) (itemId targetId : ℕ) :
    resequenceItemPreferredBins table itemId targetId =
      table.mapRows fun key row =>
        if row.itemId = itemId then
          row.withPriority (rankOf (sortKey targetId) (ofItem table itemId) (key, row))
        else row := by
  let sorted := orderBy (sortKey targetId) (ofItem table itemId)
  have hkeys : (sorted.map Prod.fst).Nodup :=
    ((orderBy_perm _ _).map Prod.fst).nodup_iff.mpr (table.select_nodup _)
  have hnumbered : sorted.zipIdx 1 = sorted.map fun entry =>
      (entry, rankOf (sortKey targetId) (ofItem table itemId) entry) :=
    zipIdx_insertionSort (nodup_sortKey table itemId targetId)
  have hfold := foldl_modify_each Prod.fst (fun entry row =>
    row.withPriority (rankOf (sortKey targetId) (ofItem table itemId) entry)) hkeys table
  rw [resequenceItemPreferredBins, hnumbered, List.foldl_map]
  apply hfold.trans
  apply table.mapRows_congr
  intro key row hrow
  cases hfind : sorted.find? fun entry => entry.1 == key with
  | none =>
      have hitem : row.itemId ≠ itemId := by
        intro hitem
        have hmem : (key, row) ∈ sorted := mem_orderBy.mpr (mem_ofItem.mpr ⟨hrow, hitem⟩)
        exact List.find?_eq_none.mp hfind (key, row) hmem (beq_self_eq_true key)
      rw [if_neg hitem]
  | some entry =>
      have hkey : entry.1 = key := by simpa using List.find?_some hfind
      obtain ⟨hmem, hitem⟩ := mem_ofItem.mp (mem_orderBy.mp (List.mem_of_find?_eq_some hfind))
      obtain ⟨key', row'⟩ := entry
      subst hkey
      rw [table.row_unique hrow hmem, if_pos hitem]

@[simp]
theorem withPriority_itemId : (row.withPriority priority).itemId = row.itemId := rfl

@[simp]
theorem withPriority_binId : (row.withPriority priority).binId = row.binId := rfl

@[simp]
theorem withPriority_priority : (row.withPriority priority).priority = priority := rfl

theorem mem_resequence (hrow : entry ∈ ofItem table itemId) :
    (entry.1, entry.2.withPriority
      (rankOf (sortKey targetId) (ofItem table itemId) entry)) ∈
        (resequenceItemPreferredBins table itemId targetId).entries := by
  obtain ⟨hmem, hitem⟩ := mem_ofItem.mp hrow
  rw [resequence_eq, Table.mem_mapRows]
  exact ⟨entry.2, hmem, if_pos hitem⟩

theorem ofItem_resequence (itemId' : ℕ) :
    ofItem (resequenceItemPreferredBins table itemId targetId) itemId' =
      (ofItem table itemId').map fun entry => (entry.1,
        if entry.2.itemId = itemId then
          entry.2.withPriority (rankOf (sortKey targetId) (ofItem table itemId) entry)
        else entry.2) := by
  rw [resequence_eq]
  apply ofItem_mapRows
  intro key row
  split <;> rfl

theorem hierarchy_resequence
    (hothers : ∀ other ≠ itemId, Ranked (priorities table other)) :
    Hierarchy (resequenceItemPreferredBins table itemId targetId) := by
  intro other
  rw [priorities, ofItem_resequence, List.map_map]
  by_cases hitem : other = itemId
  · have hranks : (ofItem table other).map (rankOf (sortKey targetId) (ofItem table itemId)) =
        (ofItem table other).map ((fun entry => entry.2.priority) ∘ fun entry => (entry.1,
          if entry.2.itemId = itemId then
            entry.2.withPriority (rankOf (sortKey targetId) (ofItem table itemId) entry)
          else entry.2)) := by
      apply List.map_congr_left
      intro entry hentry
      rw [Function.comp_apply, if_pos ((mem_ofItem.mp hentry).2.trans hitem)]
      rfl
    rw [← hranks, hitem, Ranked, List.length_map]
    exact map_rankOf_perm (nodup_sortKey table itemId targetId)
  · have hsame : (ofItem table other).map (fun entry => entry.2.priority) =
        (ofItem table other).map ((fun entry => entry.2.priority) ∘ fun entry => (entry.1,
          if entry.2.itemId = itemId then
            entry.2.withPriority (rankOf (sortKey targetId) (ofItem table itemId) entry)
          else entry.2)) := by
      apply List.map_congr_left
      intro entry hentry
      have hne : entry.2.itemId ≠ itemId := fun heq =>
        hitem ((mem_ofItem.mp hentry).2.symm.trans heq)
      rw [Function.comp_apply, if_neg hne]
    rw [← hsame]
    exact hothers other hitem

theorem rankOf_target (hrow : (targetId, row) ∈ table.entries) (hitem : row.itemId = itemId) :
    rankOf (sortKey targetId) (ofItem table itemId) (targetId, row) =
      (othersOf table itemId targetId).countP
        (fun entry => decide (entry.2.priority < row.priority)) + 1 := by
  rw [rankOf_perm (ofItem_perm hrow hitem), rankOf, List.countP_cons]
  have hself : ¬ sortKey targetId (targetId, row) < sortKey targetId (targetId, row) :=
    lt_irrefl _
  rw [decide_eq_false hself, if_neg Bool.false_ne_true, Nat.add_zero]
  congr 1
  apply List.countP_congr
  intro entry hentry
  have hkey : entry.1 ≠ targetId := (mem_othersOf.mp hentry).2.2
  simp [sortKey, Prod.Lex.lt_iff, hkey]

/-- Rows with different priorities are renumbered in the order they had. -/
theorem rankOf_other {left right : ℕ × PreferredBin}
    (hleft : left ∈ othersOf table itemId targetId)
    (hpriority : left.2.priority = right.2.priority → left = right) :
    rankOf (sortKey targetId) (ofItem table itemId) left <
        rankOf (sortKey targetId) (ofItem table itemId) right ↔
      left.2.priority < right.2.priority := by
  have hmem : left ∈ ofItem table itemId := (List.mem_filter.mp hleft).1
  rw [rankOf_lt_iff hmem, sortKey, sortKey, Prod.Lex.lt_iff]
  constructor
  · rintro (hlt | ⟨heq, hrest⟩)
    · exact hlt
    · rw [hpriority heq] at hrest
      exact absurd hrest (lt_irrefl _)
  · exact .inl

/-! ## Where the changed bin ends -/

/-- The changed row has the priority that was asked for, or the last one, and the other
rows of the item stand in the order they had. -/
structure Placed (before after : Table PreferredBin) (targetId itemId binId priority : ℕ) :
    Prop where
  target : (targetId, ⟨itemId, binId, min priority (ofItem after itemId).length⟩) ∈
    after.entries
  others : ∀ left ∈ othersOf before itemId targetId,
    ∀ right ∈ othersOf before itemId targetId, ∃ first second,
      (left.1, left.2.withPriority first) ∈ after.entries ∧
      (right.1, right.2.withPriority second) ∈ after.entries ∧
      (first < second ↔ left.2.priority < right.2.priority)

theorem placed_resequence
    (hrow : (targetId, ⟨itemId, binId, priority⟩) ∈ table.entries)
    (hdistinct : ((othersOf table itemId targetId).map fun entry =>
      entry.2.priority).Nodup) :
    Placed table (resequenceItemPreferredBins table itemId targetId)
        targetId itemId binId priority ↔
      (othersOf table itemId targetId).countP
          (fun entry => decide (entry.2.priority < priority)) + 1 =
        min priority ((othersOf table itemId targetId).length + 1) := by
  have hlength : (ofItem (resequenceItemPreferredBins table itemId targetId) itemId).length =
      (othersOf table itemId targetId).length + 1 := by
    rw [ofItem_resequence, List.length_map, (ofItem_perm hrow rfl).length_eq,
      List.length_cons]
  have hafter : (targetId, ⟨itemId, binId, rankOf (sortKey targetId) (ofItem table itemId)
      (targetId, ⟨itemId, binId, priority⟩)⟩) ∈
        (resequenceItemPreferredBins table itemId targetId).entries :=
    mem_resequence (mem_ofItem.mpr ⟨hrow, rfl⟩)
  rw [rankOf_target hrow rfl] at hafter
  constructor
  · intro hplaced
    have htarget := hplaced.target
    rw [hlength] at htarget
    have hsame := Table.row_unique _ hafter htarget
    exact congrArg PreferredBin.priority hsame
  · intro hcount
    constructor
    · rw [hlength, ← hcount]
      exact hafter
    · intro left hleft right hright
      have hmemLeft : left ∈ ofItem table itemId := (List.mem_filter.mp hleft).1
      have hmemRight : right ∈ ofItem table itemId := (List.mem_filter.mp hright).1
      exact ⟨_, _, mem_resequence hmemLeft, mem_resequence hmemRight,
        rankOf_other hleft (List.inj_on_of_nodup_map hdistinct hleft hright)⟩

theorem placed_congr {before before' after : Table PreferredBin}
    (hothers : othersOf before itemId targetId = othersOf before' itemId targetId) :
    Placed before after targetId itemId binId priority ↔
      Placed before' after targetId itemId binId priority := by
  constructor
  · intro hplaced
    exact ⟨hplaced.target, hothers ▸ hplaced.others⟩
  · intro hplaced
    exact ⟨hplaced.target, hothers ▸ hplaced.others⟩

/-! ## Changing the priority of a row -/

/-- The bin moves up, or is sent beyond the last place. -/
def MovesUp (table : Table PreferredBin) (row : PreferredBin) (priority : ℕ) : Prop :=
  priority ≤ row.priority ∨ (ofItem table row.itemId).length < priority

def IsLast (table : Table PreferredBin) (row : PreferredBin) : Prop :=
  row.priority = (ofItem table row.itemId).length

instance (table : Table PreferredBin) (row : PreferredBin) (priority : ℕ) :
    Decidable (MovesUp table row priority) :=
  inferInstanceAs (Decidable (_ ∨ _))

instance (table : Table PreferredBin) (row : PreferredBin) :
    Decidable (IsLast table row) :=
  inferInstanceAs (Decidable (_ = _))

theorem length_ofItem (hrow : (targetId, row) ∈ table.entries) :
    (ofItem table row.itemId).length = (othersOf table row.itemId targetId).length + 1 := by
  rw [(ofItem_perm hrow rfl).length_eq, List.length_cons]

theorem ranked_cons (hhierarchy : Hierarchy table) (hrow : (targetId, row) ∈ table.entries) :
    Ranked (row.priority ::
      (othersOf table row.itemId targetId).map fun entry => entry.2.priority) :=
  (hhierarchy row.itemId).perm
    ((ofItem_perm hrow rfl).symm.map fun entry : ℕ × PreferredBin => entry.2.priority)

theorem countP_priority (rows : List (ℕ × PreferredBin)) (priority : ℕ) :
    rows.countP (fun entry => decide (entry.2.priority < priority)) =
      (rows.map fun entry => entry.2.priority).countP
        (fun rank => decide (rank < priority)) := by
  rw [List.countP_map]
  rfl

theorem priorities_modify_other {other : ℕ} (hrow : (targetId, row) ∈ table.entries)
    (hitem : ∀ row, (change row).itemId = row.itemId) (hother : other ≠ row.itemId) :
    priorities (table.modify targetId change) other = priorities table other := by
  have hkeep : ∀ key row,
      (if key = targetId then change row else row).itemId = row.itemId := by
    intro key row
    split
    · exact hitem row
    · rfl
  rw [priorities, Table.modify, ofItem_mapRows hkeep, List.map_map, priorities]
  apply List.map_congr_left
  intro entry hentry
  have hne : entry.1 ≠ targetId := by
    intro hkey
    obtain ⟨key, row'⟩ := entry
    subst hkey
    obtain ⟨hmem, hrest⟩ := mem_ofItem.mp hentry
    apply hother
    rw [← hrest, table.row_unique hrow hmem]
  rw [Function.comp_apply, if_neg hne]

theorem placed_modify (hhierarchy : Hierarchy table)
    (hrow : (targetId, row) ∈ table.entries) (hpositive : 1 ≤ priority) :
    Placed table (resequenceItemPreferredBins
        (table.modify targetId fun row => row.withPriority priority) row.itemId targetId)
        targetId row.itemId row.binId priority ↔ MovesUp table row priority := by
  have hothers : othersOf (table.modify targetId fun row => row.withPriority priority)
      row.itemId targetId = othersOf table row.itemId targetId :=
    othersOf_modify fun _ => rfl
  have hmoved : (targetId, row.withPriority priority) ∈
      (table.modify targetId fun row => row.withPriority priority).entries :=
    (Table.mem_modify _).mpr ⟨row, hrow, if_pos rfl⟩
  have hranked := ranked_cons hhierarchy hrow
  have hdistinct := (List.nodup_cons.mp hranked.nodup).2
  have hbounds := hranked.le_length List.mem_cons_self
  have hcount := hranked.countP_lt priority
  rw [placed_congr hothers.symm, placed_resequence hmoved (hothers ▸ hdistinct), hothers,
    MovesUp, length_ofItem hrow, countP_priority]
  rw [List.countP_cons, List.length_cons, List.length_map] at hcount
  rw [List.length_cons, List.length_map] at hbounds
  by_cases hbefore : row.priority < priority
  · rw [if_pos (decide_eq_true hbefore)] at hcount
    omega
  · rw [if_neg (by simpa using hbefore)] at hcount
    omega

/-! ## A new row -/

theorem ofItem_insert (row : PreferredBin) :
    ofItem (table.insert row) itemId =
      ofItem table itemId ++ if row.itemId = itemId then [(table.next, row)] else [] := by
  rw [ofItem, Table.select_insert]
  simp only [beq_iff_eq]
  rfl

theorem othersOf_next : othersOf table itemId table.next = ofItem table itemId := by
  rw [othersOf, List.filter_eq_self]
  intro entry hentry
  have hlt := table.lt_next_of_mem (mem_ofItem.mp hentry).1
  simpa using hlt.ne

theorem othersOf_insert : othersOf (table.insert row) itemId table.next =
    ofItem table itemId := by
  rw [othersOf, ofItem_insert, List.filter_append, ← othersOf, othersOf_next]
  by_cases hitem : row.itemId = itemId <;> simp [hitem]

theorem ranked_insert_others (hhierarchy : Hierarchy table) (row : PreferredBin) (other : ℕ)
    (hother : other ≠ row.itemId) : Ranked (priorities (table.insert row) other) := by
  rw [priorities, ofItem_insert, if_neg (Ne.symm hother), List.append_nil]
  exact hhierarchy other

theorem placed_insert (hhierarchy : Hierarchy table) (hpositive : 1 ≤ priority) :
    Placed table (resequenceItemPreferredBins (table.insert ⟨itemId, binId, priority⟩)
      itemId table.next) table.next itemId binId priority := by
  have hothers : othersOf (table.insert ⟨itemId, binId, priority⟩) itemId table.next =
      othersOf table itemId table.next := by
    rw [othersOf_insert, othersOf_next]
  have hrow : (table.next, ⟨itemId, binId, priority⟩) ∈
      (table.insert (⟨itemId, binId, priority⟩ : PreferredBin)).entries :=
    (Table.mem_insert _).mpr (.inr rfl)
  have hcount := (hhierarchy itemId).countP_lt priority
  have hdistinct := (hhierarchy itemId).nodup
  rw [priorities, List.length_map] at hcount
  rw [placed_congr hothers.symm,
    placed_resequence hrow (by rwa [hothers, othersOf_next]), hothers, othersOf_next,
    countP_priority, hcount]
  omega

/-! ## The last row -/

theorem othersOf_eq_ofItem (hrow : (targetId, row) ∈ table.entries)
    (hitem : row.itemId ≠ itemId) : othersOf table itemId targetId = ofItem table itemId := by
  rw [othersOf, List.filter_eq_self]
  intro entry hentry
  obtain ⟨key, row'⟩ := entry
  obtain ⟨hmem, hrest⟩ := mem_ofItem.mp hentry
  rw [bne_iff_ne]
  rintro rfl
  exact hitem (table.row_unique hrow hmem ▸ hrest)

theorem ranked_others_iff (hhierarchy : Hierarchy table)
    (hrow : (targetId, row) ∈ table.entries) :
    Ranked ((othersOf table row.itemId targetId).map fun entry => entry.2.priority) ↔
      IsLast table row := by
  rw [(ranked_cons hhierarchy hrow).cons_iff, IsLast, length_ofItem hrow, List.length_map]

theorem hierarchy_delete (hhierarchy : Hierarchy table)
    (hrow : (targetId, row) ∈ table.entries) :
    Hierarchy (table.delete targetId) ↔ IsLast table row := by
  rw [← ranked_others_iff hhierarchy hrow]
  constructor
  · intro hafter
    have hranked := hafter row.itemId
    rwa [priorities, ofItem_delete] at hranked
  · intro hranked itemId
    rw [priorities, ofItem_delete]
    by_cases hitem : row.itemId = itemId
    · rw [← hitem]
      exact hranked
    · rw [othersOf_eq_ofItem hrow hitem]
      exact hhierarchy itemId

theorem delete_of_none (hnone : table.get? targetId = none) :
    table.delete targetId = table := by
  apply Table.ext
  · rw [Table.delete, List.filter_eq_self]
    intro entry hentry
    rw [bne_iff_ne]
    rintro rfl
    rw [(table.get?_eq_some).mpr hentry] at hnone
    cases hnone
  · rfl

/-! ## The first row at put-away -/

/-- One place further down, for the rows of an item. -/
def bumped (table : Table PreferredBin) (itemId : ℕ) : Table PreferredBin :=
  table.updateWhere (fun row => row.itemId == itemId) fun row =>
    row.withPriority (row.priority + 1)

theorem ofItem_bumped (other : ℕ) :
    ofItem (bumped table itemId) other = (ofItem table other).map fun entry => (entry.1,
      if entry.2.itemId == itemId then entry.2.withPriority (entry.2.priority + 1)
      else entry.2) := by
  apply ofItem_mapRows
  intro key row
  split <;> rfl

theorem priorities_bumped_self :
    priorities (bumped table itemId) itemId = (priorities table itemId).map (· + 1) := by
  rw [priorities, ofItem_bumped, priorities, List.map_map, List.map_map]
  apply List.map_congr_left
  intro entry hentry
  rw [Function.comp_apply, if_pos (beq_iff_eq.mpr (mem_ofItem.mp hentry).2)]
  rfl

theorem priorities_bumped_other {other : ℕ} (hother : other ≠ itemId) :
    priorities (bumped table itemId) other = priorities table other := by
  rw [priorities, ofItem_bumped, priorities, List.map_map]
  apply List.map_congr_left
  intro entry hentry
  have hne : ¬ (entry.2.itemId == itemId) = true := by
    rw [beq_iff_eq, (mem_ofItem.mp hentry).2]
    exact hother
  rw [Function.comp_apply, if_neg hne]

theorem othersOf_bumped (htarget : row.itemId = itemId) :
    (othersOf (bumped table itemId) row.itemId targetId).map (fun entry => entry.2.priority) =
      ((othersOf table row.itemId targetId).map fun entry => entry.2.priority).map (· + 1) := by
  rw [othersOf, ofItem_bumped, List.filter_map, othersOf, List.map_map, List.map_map]
  apply List.map_congr_left
  intro entry hentry
  have hitem := (mem_ofItem.mp (List.mem_filter.mp hentry).1).2.trans htarget
  rw [Function.comp_apply, if_pos (beq_iff_eq.mpr hitem)]
  rfl

theorem rowOf_mapRows {change : ℕ → PreferredBin → PreferredBin}
    (hitem : ∀ key row, (change key row).itemId = row.itemId)
    (hbin : ∀ key row, (change key row).binId = row.binId) :
    rowOf (table.mapRows change) itemId binId =
      (rowOf table itemId binId).map fun entry => (entry.1, change entry.1 entry.2) := by
  simp [rowOf, Table.mapRows, List.find?_map, hitem, hbin]

theorem rowOf_bumped (other : ℕ) :
    rowOf (bumped table itemId) other binId =
      (rowOf table other binId).map fun entry => (entry.1,
        if entry.2.itemId == itemId then entry.2.withPriority (entry.2.priority + 1)
        else entry.2) := by
  apply rowOf_mapRows
  · intro key row
    split <;> rfl
  · intro key row
    split <;> rfl

theorem of_rowOf (hfound : rowOf table itemId binId = some entry) :
    entry ∈ table.entries ∧ entry.2.itemId = itemId ∧ entry.2.binId = binId := by
  refine ⟨List.mem_of_find?_eq_some hfound, ?_⟩
  simpa using List.find?_some hfound

theorem hierarchy_setAsPrimary (hhierarchy : Hierarchy table) :
    Hierarchy (setAsPrimary table itemId binId) ↔
      ∀ entry ∈ rowOf table itemId binId, IsLast table entry.2 := by
  rw [setAsPrimary, ← bumped]
  cases hfound : rowOf table itemId binId with
  | none =>
      rw [rowOf_bumped, hfound]
      have hafter : Hierarchy ((bumped table itemId).insert ⟨itemId, binId, 1⟩) := by
        intro other
        rw [priorities, ofItem_insert, List.map_append, ← priorities]
        by_cases hitem : itemId = other
        · subst hitem
          rw [if_pos rfl, priorities_bumped_self]
          exact (ranked_pushFirst.mpr (hhierarchy itemId)).perm
            (List.perm_append_singleton _ _)
        · rw [if_neg hitem, List.map_nil, List.append_nil,
            priorities_bumped_other (Ne.symm hitem)]
          exact hhierarchy other
      simpa using hafter
  | some entry =>
      obtain ⟨hmem, hitem, -⟩ := of_rowOf hfound
      obtain ⟨key, row⟩ := entry
      have hpushed : (key, row.withPriority (row.priority + 1)) ∈
          (bumped table itemId).entries := by
        rw [bumped, Table.updateWhere, Table.mem_mapRows]
        exact ⟨row, hmem, if_pos (beq_iff_eq.mpr hitem)⟩
      have hfirst : (key, row.withPriority 1) ∈
          ((bumped table itemId).modify key fun row => row.withPriority 1).entries :=
        (Table.mem_modify _).mpr ⟨_, hpushed, if_pos rfl⟩
      have hothers : othersOf ((bumped table itemId).modify key fun row => row.withPriority 1)
          row.itemId key = othersOf (bumped table itemId) row.itemId key :=
        othersOf_modify fun _ => rfl
      have hperm : (priorities ((bumped table itemId).modify key
          fun row => row.withPriority 1) row.itemId).Perm
          (1 :: ((othersOf table row.itemId key).map fun entry => entry.2.priority).map
            (· + 1)) := by
        rw [← othersOf_bumped hitem, ← hothers]
        exact (ofItem_perm hfirst rfl).map fun entry : ℕ × PreferredBin => entry.2.priority
      have hself : Ranked (priorities ((bumped table itemId).modify key
          fun row => row.withPriority 1) row.itemId) ↔ IsLast table row := by
        calc Ranked (priorities _ row.itemId)
            _ ↔ Ranked (1 :: ((othersOf table row.itemId key).map
                fun entry => entry.2.priority).map (· + 1)) :=
              ⟨fun hranked => hranked.perm hperm.symm, fun hranked => hranked.perm hperm⟩
            _ ↔ Ranked ((othersOf table row.itemId key).map fun entry => entry.2.priority) :=
              ranked_pushFirst
            _ ↔ IsLast table row := ranked_others_iff hhierarchy hmem
      have hpost : Hierarchy ((bumped table itemId).modify key
          fun row => row.withPriority 1) ↔ IsLast table row := by
        rw [← hself]
        constructor
        · intro hafter
          exact hafter row.itemId
        · intro hranked other
          by_cases hother : other = row.itemId
          · rw [hother]
            exact hranked
          · have hsame : priorities ((bumped table itemId).modify key
                fun row => row.withPriority 1) other = priorities (bumped table itemId) other :=
              priorities_modify_other hpushed (fun _ => rfl) hother
            rw [hsame, priorities_bumped_other (fun heq => hother (heq.trans hitem.symm))]
            exact hhierarchy other
      rw [rowOf_bumped, hfound]
      simpa using hpost

/-! ## One request -/

def PlacedAsAsked (before after : Store) : Request → Prop
  | .create request => ∃ targetId,
      (rowOf after.preferredBins request.itemId request.binId).map Prod.fst = some targetId ∧
      Placed before.preferredBins after.preferredBins targetId request.itemId request.binId
        request.priority
  | .update preferredBinId request =>
      ∃ row, (preferredBinId, row) ∈ before.preferredBins.entries ∧
        Placed before.preferredBins after.preferredBins preferredBinId row.itemId row.binId
          request.priority
  | .delete _ | .putaway _ _ => True

/-- A bin that is already preferred moves up or is sent beyond the last place; the bin that
is deleted, or made the first at put-away, is not preferred or the last one of its item. -/
def KeepsHierarchy (store : Store) : Request → Prop
  | .create request =>
      ∀ entry ∈ rowOf store.preferredBins request.itemId request.binId,
        MovesUp store.preferredBins entry.2 request.priority
  | .update preferredBinId request =>
      ∀ row ∈ store.preferredBins.get? preferredBinId,
        MovesUp store.preferredBins row request.priority
  | .delete preferredBinId =>
      ∀ row ∈ store.preferredBins.get? preferredBinId, IsLast store.preferredBins row
  | .putaway _ request => request.setAsPrimary = true →
      ∀ entry ∈ rowOf store.preferredBins request.itemId request.binId,
        IsLast store.preferredBins entry.2

instance (store : Store) (request : Request) : Decidable (KeepsHierarchy store request) := by
  cases request <;> unfold KeepsHierarchy <;> infer_instance

variable {store next first last : Store}

theorem commit_ok (hcommit : commit store table = .ok next) :
    next.preferredBins = table := by
  rw [commit] at hcommit
  split at hcommit
  · rw [← Except.ok.inj hcommit]
  · cases hcommit

theorem rowOf_resequence :
    (rowOf (resequenceItemPreferredBins table itemId targetId) itemId binId).map Prod.fst =
      (rowOf table itemId binId).map Prod.fst := by
  rw [resequence_eq, rowOf_mapRows, Option.map_map]
  · rfl
  · intro key row
    split <;> rfl
  · intro key row
    split <;> rfl

theorem rowOf_insert (hnone : rowOf table itemId binId = none) :
    rowOf (table.insert ⟨itemId, binId, priority⟩) itemId binId =
      some (table.next, ⟨itemId, binId, priority⟩) := by
  rw [rowOf, Table.insert, List.find?_append]
  change (rowOf table itemId binId).or _ = _
  rw [hnone]
  simp

theorem upsert_of_none (hnone : rowOf table itemId binId = none) :
    upsert table itemId binId priority =
      (table.insert ⟨itemId, binId, priority⟩, table.next) := by
  rw [upsert, hnone]

theorem upsert_of_some {key : ℕ} (hfound : rowOf table itemId binId = some (key, row)) :
    upsert table itemId binId priority =
      (table.modify key fun row => row.withPriority priority, key) := by
  rw [upsert, hfound]

theorem rowOf_modify {key : ℕ} (hitem : ∀ row, (change row).itemId = row.itemId)
    (hbin : ∀ row, (change row).binId = row.binId) :
    (rowOf (table.modify key change) itemId binId).map Prod.fst =
      (rowOf table itemId binId).map Prod.fst := by
  rw [Table.modify, rowOf_mapRows, Option.map_map]
  · rfl
  · intro key row
    split
    · exact hitem row
    · rfl
  · intro key row
    split
    · exact hbin row
    · rfl

theorem hierarchy_modify (hbefore : Hierarchy table) (hrow : (targetId, row) ∈ table.entries) :
    Hierarchy (resequenceItemPreferredBins
      (table.modify targetId fun row => row.withPriority priority) row.itemId targetId) := by
  apply hierarchy_resequence
  intro other hother
  rw [priorities_modify_other hrow (fun _ => withPriority_itemId) hother]
  exact hbefore other

theorem createPreferredBin_ok {request : CreatePreferredBinRequest}
    (hrespond : createPreferredBin store request = .ok next) :
    next.preferredBins = resequenceItemPreferredBins
      (upsert store.preferredBins request.itemId request.binId request.priority).1
      request.itemId
      (upsert store.preferredBins request.itemId request.binId request.priority).2 := by
  rw [createPreferredBin] at hrespond
  split at hrespond
  · cases hrespond
  split_ifs at hrespond
  exact commit_ok hrespond

theorem createPreferredBin_iff {request : CreatePreferredBinRequest}
    (hbefore : Hierarchy store.preferredBins)
    (hrespond : createPreferredBin store request = .ok next) :
    Hierarchy next.preferredBins ∧ PlacedAsAsked store next (.create request) ↔
      KeepsHierarchy store (.create request) := by
  have hnext := createPreferredBin_ok hrespond
  rw [PlacedAsAsked, KeepsHierarchy, hnext]
  cases hfound : rowOf store.preferredBins request.itemId request.binId with
  | none =>
      rw [upsert_of_none hfound, rowOf_resequence, rowOf_insert hfound]
      have hhierarchy : Hierarchy (resequenceItemPreferredBins
          (store.preferredBins.insert ⟨request.itemId, request.binId, request.priority⟩)
          request.itemId store.preferredBins.next) :=
        hierarchy_resequence fun other hother => ranked_insert_others hbefore _ other hother
      have hplaced : Placed store.preferredBins _ store.preferredBins.next request.itemId
          request.binId request.priority := placed_insert hbefore request.priorityMin
      constructor
      · rintro - entry hentry
        cases hentry
      · intro _
        exact ⟨hhierarchy, store.preferredBins.next, rfl, hplaced⟩
  | some entry =>
      obtain ⟨key, row⟩ := entry
      obtain ⟨hmem, hitem, hbin⟩ := of_rowOf hfound
      dsimp only at hmem hitem hbin
      rw [upsert_of_some hfound, rowOf_resequence,
        rowOf_modify (fun _ => withPriority_itemId) (fun _ => withPriority_binId), hfound,
        ← hitem, ← hbin]
      have hplaced := placed_modify hbefore hmem request.priorityMin
      constructor
      · rintro ⟨-, targetId, htarget, hat⟩ entry hentry
        rw [← Option.some.inj htarget] at hat
        rw [← Option.some.inj hentry]
        exact hplaced.mp hat
      · intro hmoves
        exact ⟨hierarchy_modify hbefore hmem, key, rfl, hplaced.mpr (hmoves _ rfl)⟩

theorem updatePreferredBin_iff {preferredBinId : ℕ} {request : UpdatePreferredBinRequest}
    (hbefore : Hierarchy store.preferredBins)
    (hrespond : updatePreferredBin store preferredBinId request = .ok next) :
    Hierarchy next.preferredBins ∧ PlacedAsAsked store next (.update preferredBinId request) ↔
      KeepsHierarchy store (.update preferredBinId request) := by
  rw [updatePreferredBin] at hrespond
  cases hfound : store.preferredBins.get? preferredBinId with
  | none =>
      rw [hfound] at hrespond
      cases hrespond
  | some row =>
      rw [hfound] at hrespond
      have hmem := (Table.get?_eq_some _).mp hfound
      have hnext := commit_ok hrespond
      have hplaced := placed_modify hbefore hmem request.priorityMin
      rw [PlacedAsAsked, KeepsHierarchy, hnext, hfound]
      constructor
      · rintro ⟨-, row', hrow', hat⟩ row'' hrow''
        rw [Table.row_unique _ hrow' hmem] at hat
        rw [← Option.some.inj hrow'']
        exact hplaced.mp hat
      · intro hmoves
        exact ⟨hierarchy_modify hbefore hmem, row, hmem, hplaced.mpr (hmoves row rfl)⟩

theorem deletePreferredBin_iff {preferredBinId : ℕ} (hbefore : Hierarchy store.preferredBins)
    (hrespond : deletePreferredBin store preferredBinId = .ok next) :
    Hierarchy next.preferredBins ∧ PlacedAsAsked store next (.delete preferredBinId) ↔
      KeepsHierarchy store (.delete preferredBinId) := by
  rw [PlacedAsAsked, KeepsHierarchy, and_true, commit_ok hrespond]
  cases hfound : store.preferredBins.get? preferredBinId with
  | none =>
      rw [delete_of_none hfound]
      simpa using hbefore
  | some row =>
      rw [hierarchy_delete hbefore ((Table.get?_eq_some _).mp hfound)]
      simp

theorem updatePreferred_iff {scope : WarehouseScope} {request : UpdatePreferredRequest}
    (hbefore : Hierarchy store.preferredBins)
    (hrespond : updatePreferred store scope request = .ok next) :
    Hierarchy next.preferredBins ∧ PlacedAsAsked store next (.putaway scope request) ↔
      KeepsHierarchy store (.putaway scope request) := by
  rw [PlacedAsAsked, KeepsHierarchy, and_true]
  rw [updatePreferred] at hrespond
  split at hrespond
  · cases hrespond
  split at hrespond
  · cases hrespond
  split_ifs at hrespond with _ _ hprimary
  · rw [commit_ok hrespond, hierarchy_setAsPrimary hbefore]
    simp [hprimary]
  · rw [← Except.ok.inj hrespond]
    simpa [hprimary] using hbefore

theorem respond_iff {request : Request} (hbefore : Hierarchy store.preferredBins)
    (hrespond : respond store request = .ok next) :
    Hierarchy next.preferredBins ∧ PlacedAsAsked store next request ↔
      KeepsHierarchy store request := by
  cases request with
  | create request => exact createPreferredBin_iff hbefore hrespond
  | update preferredBinId request => exact updatePreferredBin_iff hbefore hrespond
  | delete preferredBinId => exact deletePreferredBin_iff hbefore hrespond
  | putaway scope request => exact updatePreferred_iff hbefore hrespond

/-! ## Runs -/

theorem hierarchy_of_run {requests : List Request}
    (hrun : Run step KeepsHierarchy first requests last)
    (hfirst : Hierarchy first.preferredBins) : Hierarchy last.preferredBins := by
  apply hrun.invariant (fun store => Hierarchy store.preferredBins) _ hfirst
  intro store request next hbefore hguard hstep
  rw [step] at hstep
  split at hstep
  next after hrespond =>
    rw [← Option.some.inj hstep]
    exact ((respond_iff hbefore hrespond).mpr hguard).1
  next =>
    rw [← Option.some.inj hstep]
    exact hbefore

/-- Along runs that meet the condition the priorities of every item are exactly those from
one on, and every further request keeps them so and places its bin where it was asked for
exactly if it meets the condition too. -/
theorem staysHierarchy_of_run {requests : List Request}
    (hrun : Run step KeepsHierarchy first requests last)
    (hfirst : Hierarchy first.preferredBins) :
    Hierarchy last.preferredBins ∧ ∀ {request next}, respond last request = .ok next →
      (Hierarchy next.preferredBins ∧ PlacedAsAsked last next request ↔
        KeepsHierarchy last request) := by
  have hlast := hierarchy_of_run hrun hfirst
  exact ⟨hlast, fun hrespond => respond_iff hlast hrespond⟩

/-! ## A bin that moves down and one that is deleted -/

def demoStore : Store where
  items := .ofRows [⟨"SKU-1", none, [], true, none⟩]
  bins := .ofRows [⟨1, "A-01", .pickable, 1, true⟩, ⟨1, "A-02", .pickable, 2, true⟩,
    ⟨1, "A-03", .pickable, 3, true⟩]

/-- The three bins become the item's first, second and third one. -/
def demoCreations : List Request :=
  [.create ⟨1, 1, 1, by decide, by decide, by decide, by decide⟩,
    .create ⟨1, 2, 2, by decide, by decide, by decide, by decide⟩,
    .create ⟨1, 3, 3, by decide, by decide, by decide, by decide⟩]

def rankedStore : Store :=
  (execute step KeepsHierarchy demoStore demoCreations).getD demoStore

theorem hierarchy_demoStore : Hierarchy demoStore.preferredBins := by
  intro itemId
  exact List.Perm.refl []

/-- Asking for the second place leaves the first bin of three the first one; deleting it
leaves the others at two and three. -/
theorem staysHierarchy_fails :
    ∃ moved deleted, Run step (fun _ _ => True) demoStore demoCreations rankedStore ∧
      Hierarchy demoStore.preferredBins ∧
      respond rankedStore (.update 1 ⟨2, by decide, by decide⟩) = .ok moved ∧
      ¬ PlacedAsAsked rankedStore moved (.update 1 ⟨2, by decide, by decide⟩) ∧
      respond rankedStore (.delete 1) = .ok deleted ∧
      ¬ Hierarchy deleted.preferredBins := by
  refine ⟨_, _, Run.ofExecute (rfl : execute _ _ _ demoCreations = some rankedStore),
    hierarchy_demoStore, rfl, ?_, rfl, ?_⟩
  · rintro ⟨row, hrow, hplaced⟩
    have hfirst : row = ⟨1, 1, 1⟩ := Table.row_unique _ hrow (by decide)
    rw [hfirst] at hplaced
    exact absurd hplaced.target (by decide)
  · intro hhierarchy
    exact absurd (hhierarchy 1) (by unfold Ranked; decide)

/-- A run that meets the condition: the third bin moves up to the second place. -/
theorem staysHierarchy_of_run_rankedStore :
    Hierarchy rankedStore.preferredBins ∧
      ∃ next, respond rankedStore (.update 3 ⟨2, by decide, by decide⟩) = .ok next ∧
        Hierarchy next.preferredBins ∧
        PlacedAsAsked rankedStore next (.update 3 ⟨2, by decide, by decide⟩) := by
  have hrun := Run.ofExecute
    (rfl : execute step KeepsHierarchy demoStore demoCreations = some rankedStore)
  have hlast := staysHierarchy_of_run hrun hierarchy_demoStore
  exact ⟨hlast.1, _, rfl, (hlast.2 rfl).mpr (by decide)⟩

end SentryWms.PreferredBins
