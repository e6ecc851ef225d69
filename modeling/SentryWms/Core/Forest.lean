import SentryWms.Core.Table

/-!
# Recursive queries and forests

A recursive query starts from some rows and replaces them by what its recursive term makes
of them until none are left; its result holds the rows of every round. Over rows that
point at a parent such a query walks a forest, up from a node or down from a root.
-/

namespace Relational

universe u

/-! ## Recursive queries -/

section RecursiveQuery

variable {α : Type u} {term : List α → List α} {working result : List α}

/-- `WITH RECURSIVE` with `UNION ALL`: the rows of every round until one has none, and no
result where the rounds do not suffice. -/
def withRecursive (term : List α → List α) : ℕ → List α → Option (List α)
  | _, [] => some []
  | 0, _ :: _ => none
  | rounds + 1, row :: rows =>
      (withRecursive term rounds (term (row :: rows))).map ((row :: rows) ++ ·)

@[simp]
theorem withRecursive_nil (term : List α → List α) (rounds : ℕ) :
    withRecursive term rounds [] = some [] := by
  cases rounds <;> rfl

/-- A round that is given adds its rows. -/
theorem withRecursive_succ (hterm : term [] = []) (rounds : ℕ) (working : List α) :
    withRecursive term (rounds + 1) working =
      (withRecursive term rounds (term working)).map (working ++ ·) := by
  cases working with
  | nil => simp [hterm]
  | cons row rows => rfl

/-- A query whose rounds dry up has its result, which is the rows of the rounds before. -/
theorem withRecursive_eq_some (hterm : term [] = []) {depth : ℕ}
    (hdry : term^[depth] working = []) {rounds : ℕ} (hrounds : depth ≤ rounds) :
    withRecursive term rounds working =
      some ((List.range depth).flatMap fun round => term^[round] working) := by
  induction depth generalizing working rounds with
  | zero =>
      have hnil : working = [] := hdry
      rw [hnil, withRecursive_nil]
      rfl
  | succ depth ih =>
      obtain ⟨rounds, rfl⟩ := Nat.exists_eq_add_of_le' hrounds
      have hrest : withRecursive term (depth + rounds) (term working) =
          some ((List.range depth).flatMap fun round => term^[round] (term working)) :=
        ih hdry (by omega)
      have hsum : rounds + (depth + 1) = (depth + rounds) + 1 := by omega
      rw [hsum, withRecursive_succ hterm, hrest, Option.map_some,
        List.range_succ_eq_map, List.flatMap_cons, List.flatMap_map]
      rfl

end RecursiveQuery

/-! ## Forests -/

namespace Forest

variable {ι : Type*} {parent : ι → Option ι} {node child root root' : ι}
  {distance distance' : ℕ}

/-- The node that many parents above. -/
def climb (parent : ι → Option ι) : ℕ → ι → Option ι
  | 0, node => some node
  | distance + 1, node => (parent node).bind (climb parent distance)

@[simp]
theorem climb_zero (parent : ι → Option ι) (node : ι) : climb parent 0 node = some node :=
  rfl

theorem climb_succ (parent : ι → Option ι) (distance : ℕ) (node : ι) :
    climb parent (distance + 1) node = (parent node).bind (climb parent distance) := rfl

/-- The last step up may be taken last as well as first. -/
theorem climb_succ' (parent : ι → Option ι) (distance : ℕ) (node : ι) :
    climb parent (distance + 1) node = (climb parent distance node).bind parent := by
  induction distance generalizing node with
  | zero => cases hparent : parent node <;> simp [climb_succ, hparent]
  | succ distance ih =>
      calc climb parent (distance + 2) node
          = (parent node).bind (climb parent (distance + 1)) := rfl
        _ = (parent node).bind fun up => (climb parent distance up).bind parent :=
            congrArg _ (funext ih)
        _ = (climb parent (distance + 1) node).bind parent := by
            rw [climb_succ, Option.bind_assoc]

def Under (parent : ι → Option ι) (root : ι) (distance : ℕ) (node : ι) : Prop :=
  climb parent distance node = some root ∧ parent root = none

/-- Nothing is above a node without a parent. -/
theorem climb_above (hunder : Under parent root distance node) {further : ℕ}
    (hfurther : distance < further) : climb parent further node = none := by
  induction further with
  | zero => omega
  | succ further ih =>
      rw [climb_succ']
      rcases Nat.lt_succ_iff_lt_or_eq.mp hfurther with hlt | rfl
      · rw [ih hlt, Option.bind_none]
      · rw [hunder.1, Option.bind_some, hunder.2]

theorem Under.unique (hunder : Under parent root distance node)
    (hunder' : Under parent root' distance' node) : root = root' ∧ distance = distance' := by
  have hdistance : distance = distance' := by
    apply le_antisymm
    · by_contra hlt
      have habove := climb_above hunder' (not_le.mp hlt)
      simp [hunder.1] at habove
    · by_contra hlt
      have habove := climb_above hunder (not_le.mp hlt)
      simp [hunder'.1] at habove
  subst hdistance
  exact ⟨Option.some.inj (hunder.1.symm.trans hunder'.1), rfl⟩

end Forest

end Relational
