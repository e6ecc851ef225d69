import Mathlib

/-!
# Comparisons with a fallback

A key is read from some values. Two values with keys are compared by them, and all other
pairs by the values themselves. The comparison is a strict weak order on a set of values
exactly when no value without a key stands between two keys that are not in this order.
-/

namespace Fallback

variable {Value Key : Type*} [LinearOrder Value] [LinearOrder Key]

def Less (key : Value → Option Key) (left right : Value) : Prop :=
  match key left, key right with
  | some leftKey, some rightKey => leftKey < rightKey
  | _, _ => left < right

/-- The values on both sides of one without a key have their keys in the same order. -/
def Separates (key : Value → Option Key) (values : Set Value) : Prop :=
  ∀ low ∈ values, ∀ mid ∈ values, ∀ high ∈ values, key mid = none → low < mid → mid < high →
    ∀ lowKey highKey, key low = some lowKey → key high = some highKey → lowKey < highKey

variable {key : Value → Option Key}

variable {left right : Value}

theorem less_of_some {leftKey rightKey : Key} (hleft : key left = some leftKey)
    (hright : key right = some rightKey) :
    Less key left right ↔ leftKey < rightKey := by
  rw [Less, hleft, hright]

theorem less_of_left (hleft : key left = none) :
    Less key left right ↔ left < right := by
  rw [Less, hleft]

theorem less_of_right (hright : key right = none) :
    Less key left right ↔ left < right := by
  rw [Less, hright]
  cases key left <;> rfl

theorem less_irrefl (value : Value) : ¬ Less key value value := by
  rw [Less]
  cases key value with
  | none => exact lt_irrefl value
  | some valueKey => exact lt_irrefl valueKey

/-- Neither is less: the keys agree, or the values do. -/
theorem incomparable_iff :
    (¬ Less key left right ∧ ¬ Less key right left) ↔
      left = right ∨ ∃ shared, key left = some shared ∧ key right = some shared := by
  cases hleft : key left with
  | none =>
      rw [less_of_left hleft, less_of_right hleft, not_lt, not_lt]
      simp [le_antisymm_iff, and_comm]
  | some leftKey =>
      cases hright : key right with
      | none =>
          rw [less_of_right hright, less_of_left hright, not_lt, not_lt]
          simp [le_antisymm_iff, and_comm]
      | some rightKey =>
          rw [less_of_some hleft hright, less_of_some hright hleft, not_lt, not_lt]
          constructor
          · intro hle
            exact .inr ⟨leftKey, rfl, congrArg some (le_antisymm hle.1 hle.2)⟩
          · rintro (rfl | ⟨shared, hshared, hsame⟩)
            · rw [hleft, Option.some.injEq] at hright
              simp [hright]
            · rw [Option.some.injEq] at hshared hsame
              simp [hshared, hsame]

theorem less_trans {values : Set Value} (hseparates : Separates key values)
    {first second third : Value} (hfirst : first ∈ values) (hsecond : second ∈ values)
    (hthird : third ∈ values) (hlow : Less key first second) (hhigh : Less key second third) :
    Less key first third := by
  cases hkey : key second with
  | none =>
      rw [less_of_right hkey] at hlow
      rw [less_of_left hkey] at hhigh
      cases hone : key first with
      | none => exact (less_of_left hone).mpr (hlow.trans hhigh)
      | some firstKey =>
          cases hthree : key third with
          | none => exact (less_of_right hthree).mpr (hlow.trans hhigh)
          | some thirdKey =>
              exact (less_of_some hone hthree).mpr (hseparates first hfirst second hsecond
                third hthird hkey hlow hhigh firstKey thirdKey hone hthree)
  | some secondKey =>
      cases hone : key first with
      | none =>
          rw [less_of_left hone] at hlow ⊢
          cases hthree : key third with
          | none =>
              rw [less_of_right hthree] at hhigh
              exact hlow.trans hhigh
          | some thirdKey =>
              -- The third value below the first would have to have the lower key.
              rw [less_of_some hkey hthree] at hhigh
              by_contra hnot
              have hne : third ≠ first := fun heq => by simp [heq, hone] at hthree
              have hbelow := lt_of_le_of_ne (not_lt.mp hnot) hne
              exact absurd hhigh (hseparates third hthird first hfirst second hsecond hone
                hbelow hlow thirdKey secondKey hthree hkey).asymm
      | some firstKey =>
          rw [less_of_some hone hkey] at hlow
          cases hthree : key third with
          | none =>
              rw [less_of_right hthree] at hhigh ⊢
              by_contra hnot
              have hne : third ≠ first := fun heq => by simp [← heq, hthree] at hone
              have hbelow := lt_of_le_of_ne (not_lt.mp hnot) hne
              exact absurd hlow (hseparates second hsecond third hthird first hfirst hthree
                hhigh hbelow secondKey firstKey hkey hone).asymm
          | some thirdKey =>
              rw [less_of_some hkey hthree] at hhigh
              exact (less_of_some hone hthree).mpr (hlow.trans hhigh)

/-- A transitive comparison has no value without a key in a wrong place. -/
theorem separates_of_trans {values : Set Value}
    (htrans : ∀ first ∈ values, ∀ second ∈ values, ∀ third ∈ values,
      Less key first second → Less key second third → Less key first third) :
    Separates key values := by
  intro low hlow mid hmid high hhigh hnone hbelow habove lowKey highKey hlowKey hhighKey
  have hless := htrans low hlow mid hmid high hhigh ((less_of_right hnone).mpr hbelow)
    ((less_of_left hnone).mpr habove)
  exact (less_of_some hlowKey hhighKey).mp hless

theorem incomparable_equivalence (key : Value → Option Key) (values : Set Value) :
    Equivalence fun left right : values =>
      ¬ Less key left.1 right.1 ∧ ¬ Less key right.1 left.1 where
  refl value := ⟨less_irrefl value.1, less_irrefl value.1⟩
  symm hsame := hsame.symm
  trans := by
    intro first second third hleft hright
    rw [incomparable_iff] at hleft hright ⊢
    rcases hleft with heq | ⟨shared, hfirst, hsecond⟩
    · rwa [heq]
    · rcases hright with heq | ⟨other, hother, hthird⟩
      · exact .inr ⟨shared, hfirst, heq ▸ hsecond⟩
      · rw [hsecond, Option.some.injEq] at hother
        exact .inr ⟨shared, hfirst, hother ▸ hthird⟩

end Fallback
