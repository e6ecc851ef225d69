import Mathlib.Algebra.BigOperators.Group.List.Basic
import Mathlib.Data.List.Forall2

/-!
# Left joins

`LEFT JOIN` of a list of rows with what each row matches: a row without a match is
kept once, one with several matches is kept once for each.
-/

namespace Relational

variable {α β γ : Type*}

def leftJoin (matching : α → List β) (rows : List α) : List (α × Option β) :=
  rows.flatMap fun row =>
    match matching row with
    | [] => [(row, none)]
    | first :: rest => (first :: rest).map fun found => (row, some found)

variable {matching : α → List β}

theorem leftJoin_nil : leftJoin matching [] = [] := rfl

/-- The first row, then the others. -/
theorem leftJoin_cons (row : α) (rows : List α) :
    leftJoin matching (row :: rows) =
      leftJoin matching [row] ++ leftJoin matching rows := by
  simp only [leftJoin, List.flatMap_cons, List.flatMap_nil, List.append_nil]

/-- A row is kept as often as it has matches, and at least once. -/
theorem length_leftJoin_singleton (row : α) :
    (leftJoin matching [row]).length = max 1 (matching row).length := by
  rw [leftJoin, List.flatMap_singleton]
  split
  next hnone => rw [hnone]; rfl
  next first rest hsome => rw [hsome, List.length_map, List.length_cons]; omega

/-- A row with at most one match is kept once, beside that match. -/
theorem leftJoin_singleton {row : α} (hmatching : (matching row).length ≤ 1) :
    leftJoin matching [row] = [(row, (matching row).head?)] := by
  rw [leftJoin, List.flatMap_singleton]
  split
  next hnone => rw [hnone]; rfl
  next first rest hsome =>
    rw [hsome, List.length_cons] at hmatching
    have hrest : rest = [] := List.length_eq_zero_iff.mp (by omega)
    rw [hsome, hrest]
    rfl

theorem length_le_length_leftJoin (rows : List α) :
    rows.length ≤ (leftJoin matching rows).length := by
  induction rows with
  | nil => exact Nat.zero_le _
  | cons row rows ih =>
      rw [leftJoin_cons, List.length_append, length_leftJoin_singleton, List.length_cons]
      omega

/-- A join has as many rows as its left side exactly when no row has two matches. -/
theorem length_leftJoin_iff (rows : List α) :
    (leftJoin matching rows).length = rows.length ↔
      ∀ row ∈ rows, (matching row).length ≤ 1 := by
  induction rows with
  | nil => simp [leftJoin_nil]
  | cons row rows ih =>
      have hle : rows.length ≤ (leftJoin matching rows).length :=
        length_le_length_leftJoin rows
      rw [leftJoin_cons, List.length_append, length_leftJoin_singleton, List.length_cons,
        List.forall_mem_cons, ← ih]
      omega

/-- Then it is the left side, row by row beside its match. -/
theorem leftJoin_eq_map {rows : List α}
    (hmatching : ∀ row ∈ rows, (matching row).length ≤ 1) :
    leftJoin matching rows = rows.map fun row => (row, (matching row).head?) := by
  induction rows with
  | nil => rfl
  | cons row rows ih =>
      obtain ⟨hrow, hrows⟩ := List.forall_mem_cons.mp hmatching
      rw [leftJoin_cons, leftJoin_singleton hrow, ih hrows]
      rfl

end Relational
