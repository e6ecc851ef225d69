import Mathlib

/-!
# Ranks

The rank of an element of a list by a key is one more than the number of elements before
it. Elements with different keys have the ranks from one to the length of the list, and
numbering the sorted list gives every element its rank.
-/

namespace Ranking

variable {α : Type*} {κ : Type*} [LinearOrder κ] {key : α → κ} {rows rows' : List α}
  {row left right : α}

/-- One more than the number of elements before it. -/
def rankOf (key : α → κ) (rows : List α) (row : α) : ℕ :=
  rows.countP (fun other => decide (key other < key row)) + 1

theorem rankOf_perm (hperm : rows.Perm rows') (row : α) :
    rankOf key rows row = rankOf key rows' row := by
  rw [rankOf, rankOf, hperm.countP_eq]

theorem rankOf_le_rankOf (rows : List α) (hle : key left ≤ key right) :
    rankOf key rows left ≤ rankOf key rows right := by
  apply Nat.succ_le_succ
  apply List.countP_mono_left
  intro other _ hbefore
  have hlt : key other < key left := of_decide_eq_true hbefore
  exact decide_eq_true (hlt.trans_le hle)

theorem rankOf_lt_rankOf (hleft : left ∈ rows) (hlt : key left < key right) :
    rankOf key rows left < rankOf key rows right := by
  obtain ⟨before, rest, rfl⟩ := List.append_of_mem hleft
  have hbefore := rankOf_le_rankOf before hlt.le
  have hrest := rankOf_le_rankOf rest hlt.le
  simp only [rankOf, List.countP_append, List.countP_cons, lt_irrefl, hlt, decide_true,
    decide_false, if_true] at hbefore hrest ⊢
  simp only [Bool.false_eq_true, if_false]
  omega

/-- Ranks are ordered as the keys are. -/
theorem rankOf_lt_iff (hleft : left ∈ rows) :
    rankOf key rows left < rankOf key rows right ↔ key left < key right := by
  constructor
  · intro hrank
    by_contra hkey
    exact absurd (rankOf_le_rankOf rows (not_lt.mp hkey)) (not_le.mpr hrank)
  · exact rankOf_lt_rankOf hleft

/-- The elements of a sorted list are numbered by their ranks. -/
theorem zipIdx_sorted (hsorted : rows.Pairwise fun left right => key left < key right) :
    rows.zipIdx 1 = rows.map fun row => (row, rankOf key rows row) := by
  induction rows with
  | nil => rfl
  | cons first rest ih =>
      obtain ⟨hfirst, hrest⟩ := List.pairwise_cons.mp hsorted
      have hnone : rest.countP (fun other => decide (key other < key first)) = 0 := by
        apply List.countP_eq_zero.mpr
        intro other hother hbefore
        exact absurd (of_decide_eq_true hbefore) (not_lt.mpr (hfirst other hother).le)
      have hone : rankOf key (first :: rest) first = 1 := by
        simp [rankOf, hnone]
      have hnext : ∀ row ∈ rest,
          rankOf key (first :: rest) row = rankOf key rest row + 1 := by
        intro row hrow
        simp [rankOf, hfirst row hrow]
      have hshift : rest.zipIdx 2 = (rest.zipIdx 1).map (Prod.map id (· + 1)) := by
        rw [List.map_snd_add_zipIdx_eq_zipIdx]
      rw [List.zipIdx_cons, List.map_cons, hone, hshift, ih hrest, List.map_map]
      congr 1
      apply List.map_congr_left
      intro row hrow
      rw [hnext row hrow]
      rfl

theorem pairwise_lt_insertionSort (hnodup : (rows.map key).Nodup) :
    (rows.insertionSort fun left right => key left ≤ key right).Pairwise
      fun left right => key left < key right := by
  have hperm := List.perm_insertionSort (fun left right => key left ≤ key right) rows
  have hle := List.pairwise_insertionSort (fun left right => key left ≤ key right) rows
  have hne := List.pairwise_map.mp ((hperm.map key).nodup_iff.mpr hnodup)
  exact (hle.and hne).imp fun hpair => lt_of_le_of_ne hpair.1 hpair.2

/-- Numbering the sorted list gives every element its rank. -/
theorem zipIdx_insertionSort (hnodup : (rows.map key).Nodup) :
    (rows.insertionSort fun left right => key left ≤ key right).zipIdx 1 =
      (rows.insertionSort fun left right => key left ≤ key right).map
        fun row => (row, rankOf key rows row) := by
  rw [zipIdx_sorted (pairwise_lt_insertionSort hnodup)]
  apply List.map_congr_left
  intro row _
  rw [rankOf_perm (List.perm_insertionSort _ rows)]

/-- Elements with different keys have the ranks from one on. -/
theorem map_rankOf_perm (hnodup : (rows.map key).Nodup) :
    (rows.map (rankOf key rows)).Perm (List.range' 1 rows.length) := by
  let sorted := rows.insertionSort fun left right => key left ≤ key right
  have hperm : sorted.Perm rows := List.perm_insertionSort _ rows
  have hranks : sorted.map (rankOf key rows) = List.range' 1 sorted.length := by
    have hnumbered := congrArg (List.map Prod.snd) (zipIdx_insertionSort hnodup)
    rw [List.map_map, List.zipIdx_map_snd] at hnumbered
    exact hnumbered.symm
  calc rows.map (rankOf key rows)
      _ |>.Perm (sorted.map (rankOf key rows)) := (hperm.map _).symm
      _ = List.range' 1 rows.length := by rw [hranks, hperm.length_eq]

/-! ## Elements that carry their ranks -/

/-- The numbers are exactly those from one to the length of the list. -/
def Ranked (ranks : List ℕ) : Prop :=
  ranks.Perm (List.range' 1 ranks.length)

theorem countP_range'_lt (bound length : ℕ) :
    (List.range' 1 length).countP (fun rank => decide (rank < bound)) =
      min (bound - 1) length := by
  induction length with
  | zero => simp
  | succ length ih =>
      rw [List.range'_1_concat, List.countP_append, ih, List.countP_singleton]
      by_cases hlt : 1 + length < bound
      · simp only [hlt, decide_true, if_true]
        omega
      · simp only [hlt, decide_false]
        simp only [Bool.false_eq_true, if_false]
        omega

variable {ranks : List ℕ}

/-- The number of ranks below a bound. -/
theorem Ranked.countP_lt (hranked : Ranked ranks) (bound : ℕ) :
    ranks.countP (fun rank => decide (rank < bound)) = min (bound - 1) ranks.length := by
  rw [hranked.countP_eq, countP_range'_lt]

theorem Ranked.le_length (hranked : Ranked ranks) {rank : ℕ}
    (hrank : rank ∈ ranks) : 1 ≤ rank ∧ rank ≤ ranks.length := by
  have hmem := hranked.mem_iff.mp hrank
  rw [List.mem_range'_1] at hmem
  omega

theorem Ranked.nodup (hranked : Ranked ranks) : ranks.Nodup :=
  hranked.nodup_iff.mpr List.nodup_range'

theorem Ranked.perm {ranks' : List ℕ} (hranked : Ranked ranks)
    (hperm : ranks'.Perm ranks) : Ranked ranks' := by
  rw [Ranked, hperm.length_eq]
  exact hperm.trans hranked

/-- The other numbers are ranks exactly if it is the last one that goes. -/
theorem Ranked.cons_iff {rank : ℕ} (hranked : Ranked (rank :: ranks)) :
    Ranked ranks ↔ rank = ranks.length + 1 := by
  constructor
  · intro hranks
    have hbounds := hranked.le_length List.mem_cons_self
    have hnotmem : rank ∉ ranks := (List.nodup_cons.mp hranked.nodup).1
    rw [hranks.mem_iff, List.mem_range'_1] at hnotmem
    rw [List.length_cons] at hbounds
    omega
  · intro hlast
    rw [Ranked, List.length_cons, List.range'_1_concat, Nat.add_comm 1 ranks.length,
      ← hlast] at hranked
    exact List.Perm.cons_inv (hranked.trans (List.perm_append_singleton _ _))

/-- All ranks can go down by one for a new first one. -/
theorem ranked_pushFirst :
    Ranked (1 :: ranks.map (· + 1)) ↔ Ranked ranks := by
  have hshift : List.range' (1 + 1) ranks.length =
      (List.range' 1 ranks.length).map (· + 1) := by
    rw [← List.map_add_range' 1]
    apply List.map_congr_left
    intro rank _
    exact Nat.add_comm 1 rank
  have hinjective : Function.Injective (· + 1 : ℕ → ℕ) := fun left right => Nat.succ.inj
  rw [Ranked, Ranked, List.length_cons, List.length_map, List.range'_succ, hshift]
  constructor
  · intro hperm
    exact (List.map_perm_map_iff hinjective).mp (List.Perm.cons_inv hperm)
  · intro hperm
    exact (hperm.map _).cons 1

end Ranking
