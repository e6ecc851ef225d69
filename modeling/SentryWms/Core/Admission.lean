import Mathlib

/-!
# Greedy admission

Requests stand in a queue before a capacity. Each is admitted if it fits beside those
admitted before it, and passed over otherwise. Whatever is kept of the admitted requests
fits together, and requests that fit together are admitted in any order.
-/

namespace Relational

variable {α : Type*} (weight : α → ℤ) (capacity : ℤ)

/-- The requests that are passed over once `used` units are taken. -/
def passedOver : ℤ → List α → List α
  | _, [] => []
  | used, request :: rest =>
      if used + weight request ≤ capacity then
        passedOver (used + weight request) rest
      else request :: passedOver used rest

namespace Admission

variable {used : ℤ} {requests : List α}

theorem mem_of_mem_passedOver {request : α}
    (hmem : request ∈ passedOver weight capacity used requests) : request ∈ requests := by
  induction requests generalizing used with
  | nil => exact hmem
  | cons first rest ih =>
      rw [passedOver] at hmem
      split at hmem
      · exact List.mem_cons_of_mem _ (ih hmem)
      · rcases List.mem_cons.mp hmem with rfl | hrest
        · exact List.mem_cons_self
        · exact List.mem_cons_of_mem _ (ih hrest)

variable {weight capacity}

/-- Admitted requests fit together, and so does every part of them. -/
theorem sum_filter_le {keep : α → Bool} (hweight : ∀ request ∈ requests, 0 ≤ weight request)
    (hused : used ≤ capacity)
    (hkeep : ∀ request ∈ passedOver weight capacity used requests, keep request = false) :
    used + ((requests.filter keep).map weight).sum ≤ capacity := by
  induction requests generalizing used with
  | nil => simpa using hused
  | cons request rest ih =>
      obtain ⟨hhead, hrest⟩ := List.forall_mem_cons.mp hweight
      rw [passedOver] at hkeep
      split at hkeep
      next hfits =>
        have hadmitted := ih hrest hfits hkeep
        by_cases hkept : keep request = true
        · simpa [hkept, add_assoc] using hadmitted
        · rw [List.filter_cons_of_neg hkept]
          omega
      next =>
        obtain ⟨hdropped, hothers⟩ := List.forall_mem_cons.mp hkeep
        rw [List.filter_cons_of_neg (by simp [hdropped])]
        exact ih hrest hused hothers

/-- Requests that fit together are all admitted. -/
theorem passedOver_eq_nil (hweight : ∀ request ∈ requests, 0 ≤ weight request)
    (hfits : used + (requests.map weight).sum ≤ capacity) :
    passedOver weight capacity used requests = [] := by
  induction requests generalizing used with
  | nil => rfl
  | cons request rest ih =>
      obtain ⟨hhead, hrest⟩ := List.forall_mem_cons.mp hweight
      have hothers : 0 ≤ (rest.map weight).sum := by
        apply List.sum_nonneg
        simpa using hrest
      rw [List.map_cons, List.sum_cons, ← add_assoc] at hfits
      rw [passedOver, if_pos (by omega)]
      exact ih hrest hfits

/-- All requests are admitted exactly when they fit together. -/
theorem passedOver_eq_nil_iff (hweight : ∀ request ∈ requests, 0 ≤ weight request)
    (hused : used ≤ capacity) :
    passedOver weight capacity used requests = [] ↔
      used + (requests.map weight).sum ≤ capacity := by
  constructor
  · intro hnone
    have hnever : ∀ request ∈ passedOver weight capacity used requests,
        (fun _ : α => true) request = false := by
      simp [hnone]
    have hall := sum_filter_le hweight hused hnever
    simpa using hall
  · exact passedOver_eq_nil hweight

end Admission

end Relational
