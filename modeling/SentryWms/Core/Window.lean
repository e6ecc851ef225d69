import Mathlib.Algebra.Order.Monoid.Defs
import Mathlib.Data.List.Basic

/-!
# Events in a window of time

How many of a list of times lie in a half-open window, and how many lie at or after its
start. A window holds no more than were ever counted from its start on.
-/

namespace Window

variable {τ : Type*} [LinearOrder τ] {times : List τ} {start time : τ}

def since (times : List τ) (start : τ) : ℕ :=
  times.countP fun time => decide (start ≤ time)

def within [Add τ] (times : List τ) (start period : τ) : ℕ :=
  times.countP fun time => decide (start ≤ time) && decide (time < start + period)

theorem within_le_since [Add τ] (times : List τ) (start period : τ) :
    within times start period ≤ since times start := by
  apply List.countP_mono_left
  intro time _ hwithin
  exact (Bool.and_eq_true _ _ ▸ hwithin).1

theorem since_concat (times : List τ) (start time : τ) :
    since (times ++ [time]) start = since times start + if start ≤ time then 1 else 0 := by
  simp [since, List.countP_append, List.countP_singleton]

theorem within_concat [Add τ] (times : List τ) (start time period : τ) :
    within (times ++ [time]) start period = within times start period +
      if start ≤ time ∧ time < start + period then 1 else 0 := by
  simp [within, List.countP_append, List.countP_singleton]

theorem since_concat_le (times : List τ) (start time : τ) :
    since (times ++ [time]) start ≤ since times start + 1 := by
  rw [since_concat]
  split <;> omega

theorem within_concat_le [Add τ] (times : List τ) (start time period : τ) :
    within (times ++ [time]) start period ≤ within times start period + 1 := by
  rw [within_concat]
  split <;> omega

/-- Nothing is counted from a time on that comes after all. -/
theorem since_eq_zero (hall : ∀ time ∈ times, time < start) : since times start = 0 := by
  rw [since, List.countP_eq_zero]
  intro time htime
  simpa using hall time htime

end Window
