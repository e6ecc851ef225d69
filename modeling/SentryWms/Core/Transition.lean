import Mathlib

/-!
# Guarded runs of a partial step function

A system is a function from a state and a label to the next state, if the step
is accepted. A guarded run is a sequence of accepted steps each of which also
meets a side condition on the state before it. Invariants of runs follow from
what one step preserves.
-/

namespace Transition

universe u v

variable {State Label : Type*}

/-- A sequence of accepted steps that all meet the guard. -/
inductive Run (step : State → Label → Option State)
    (guard : State → Label → Prop) : State → List Label → State → Prop
  | nil (state : State) : Run step guard state [] state
  | cons {first mid last : State} {label : Label} {labels : List Label}
      (hguard : guard first label) (hstep : step first label = some mid)
      (rest : Run step guard mid labels last) :
      Run step guard first (label :: labels) last

def execute (step : State → Label → Option State)
    (guard : State → Label → Prop) [∀ state label, Decidable (guard state label)] :
    State → List Label → Option State
  | state, [] => some state
  | state, label :: labels =>
      if guard state label then
        (step state label).bind fun next => execute step guard next labels
      else none

variable {step : State → Label → Option State}
  {guard : State → Label → Prop}

variable {first last : State} {labels : List Label}

/-- What every guarded step preserves, every guarded run preserves. -/
theorem Run.invariant (Inv : State → Prop)
    (hpreserve : ∀ {state label next}, Inv state → guard state label → step state label = some next → Inv next)
    (hrun : Run step guard first labels last) (hfirst : Inv first) : Inv last := by
  induction hrun with
  | nil state => exact hfirst
  | cons hguard hstep rest ih => exact ih (hpreserve hfirst hguard hstep)

/-- A run may be continued by another one. -/
theorem Run.append {mid : State} {labels' : List Label}
    (hrun : Run step guard first labels mid) (hrun' : Run step guard mid labels' last) :
    Run step guard first (labels ++ labels') last := by
  induction hrun with
  | nil state => exact hrun'
  | cons hguard hstep rest ih => exact Run.cons hguard hstep (ih hrun')

theorem Run.weaken {guard' : State → Label → Prop}
    (hweaken : ∀ state label, guard state label → guard' state label)
    (hrun : Run step guard first labels last) :
    Run step guard' first labels last := by
  induction hrun with
  | nil state => exact Run.nil state
  | cons hguard hstep rest ih => exact Run.cons (hweaken _ _ hguard) hstep ih

theorem Run.ofExecute [∀ state label, Decidable (guard state label)]
    (hexecute : execute step guard first labels = some last) :
    Run step guard first labels last := by
  induction labels generalizing first with
  | nil =>
      rw [execute, Option.some.injEq] at hexecute
      rw [hexecute]
      exact Run.nil last
  | cons label labels ih =>
      rw [execute] at hexecute
      by_cases hguard : guard first label
      · rw [if_pos hguard] at hexecute
        obtain ⟨mid, hstep, hrest⟩ := Option.bind_eq_some_iff.mp hexecute
        exact Run.cons hguard hstep (ih hrest)
      · rw [if_neg hguard] at hexecute
        cases hexecute

/-! ## Fallible computations -/

/-- A sequence of two fallible computations succeeds when both do. -/
theorem bind_eq_ok {Error : Type u} {Value Value' : Type v} {first : Except Error Value}
    {next : Value → Except Error Value'} {result : Value'} :
    first >>= next = .ok result ↔
      ∃ value, first = .ok value ∧ next value = .ok result := by
  cases first with
  | error error =>
      constructor
      · intro hbind
        cases hbind
      · rintro ⟨value, hfirst, -⟩
        cases hfirst
  | ok value =>
      constructor
      · intro hbind
        exact ⟨value, rfl, hbind⟩
      · rintro ⟨value', hfirst, hnext⟩
        cases hfirst
        exact hnext

/-- What every step of a loop preserves, the loop preserves. -/
theorem foldl_invariant {Value Item : Type*} (Inv : Value → Prop)
    {step : Value → Item → Value}
    (hstep : ∀ value item, Inv value → Inv (step value item)) (items : List Item)
    {first : Value} (hfirst : Inv first) : Inv (items.foldl step first) := by
  induction items generalizing first with
  | nil => exact hfirst
  | cons item items ih => exact ih (hstep first item hfirst)

/-- A loop whose every step moves a quantity by what the item contributes moves it
by the sum of the contributions. -/
theorem foldl_shift {Value Item : Type*} (Inv : Value → Prop) (quantity : Value → ℤ)
    (gain : Item → ℤ) {step : Value → Item → Value}
    (hstep : ∀ value item, Inv value → Inv (step value item))
    (hgain : ∀ value item, Inv value →
      quantity (step value item) = quantity value + gain item)
    (items : List Item) {first : Value} (hfirst : Inv first) :
    quantity (items.foldl step first) = quantity first + (items.map gain).sum := by
  induction items generalizing first with
  | nil => simp
  | cons item items ih =>
      rw [List.foldl_cons, ih (hstep first item hfirst), hgain first item hfirst,
        List.map_cons, List.sum_cons, add_assoc]

/-- What every accepted step of a fallible loop preserves, the loop preserves. -/
theorem foldlM_invariant {Error : Type u} {Value Item : Type v}
    (Inv : Value → Prop) {step : Value → Item → Except Error Value}
    {items : List Item}
    (hstep : ∀ {value item result}, item ∈ items → Inv value →
      step value item = .ok result → Inv result)
    {first last : Value} (hfold : items.foldlM step first = .ok last)
    (hfirst : Inv first) : Inv last := by
  induction items generalizing first with
  | nil =>
      cases hfold
      exact hfirst
  | cons item items ih =>
      rw [List.foldlM_cons] at hfold
      obtain ⟨middle, hmiddle, hrest⟩ := bind_eq_ok.mp hfold
      exact ih (fun hmem => hstep (List.mem_cons_of_mem _ hmem)) hrest
        (hstep List.mem_cons_self hfirst hmiddle)

/-- A fallible loop whose every accepted step moves a quantity by what the item
contributes moves it by the sum of the contributions. -/
theorem foldlM_shift {Error : Type u} {Value Item : Type v} (quantity : Value → ℤ)
    (gain : Item → ℤ) {step : Value → Item → Except Error Value} {items : List Item}
    (hgain : ∀ {value item result}, item ∈ items → step value item = .ok result →
      quantity result = quantity value + gain item)
    {first last : Value} (hfold : items.foldlM step first = .ok last) :
    quantity last = quantity first + (items.map gain).sum := by
  induction items generalizing first with
  | nil =>
      cases hfold
      simp
  | cons item items ih =>
      rw [List.foldlM_cons] at hfold
      obtain ⟨middle, hmiddle, hrest⟩ := bind_eq_ok.mp hfold
      rw [ih (fun hmem => hgain (List.mem_cons_of_mem _ hmem)) hrest,
        hgain List.mem_cons_self hmiddle, List.map_cons, List.sum_cons, add_assoc]

/-- The results of a traversal stand beside the items they are for. -/
theorem forall₂_of_mapM {Error : Type u} {Value Item : Type v}
    {step : Item → Except Error Value} {items : List Item} {results : List Value}
    (hmap : items.mapM step = .ok results) :
    List.Forall₂ (fun item result => step item = .ok result) items results := by
  induction items generalizing results with
  | nil =>
      cases hmap
      exact .nil
  | cons item items ih =>
      rw [List.mapM_cons] at hmap
      obtain ⟨first, hfirst, hmap⟩ := bind_eq_ok.mp hmap
      obtain ⟨rest, hrest, hmap⟩ := bind_eq_ok.mp hmap
      cases hmap
      exact .cons hfirst (ih hrest)

theorem toOption_eq_some {Error : Type u} {Value : Type v}
    {result : Except Error Value} {value : Value} :
    result.toOption = some value ↔ result = .ok value := by
  cases result <;> simp [Except.toOption]

end Transition
