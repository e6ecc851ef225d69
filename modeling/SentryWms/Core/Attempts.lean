import SentryWms.Core.Transition

/-!
# The first failure

A program that makes fallible computations in order fails as the first of them that
fails. The failure of a sequence, of a loop and of a traversal is read off the failures of
their parts, whatever values the parts give.
-/

namespace Attempts

universe u v

variable {Error : Type u} {Value Value' Item : Type v}

def failure? : Except Error Value → Option Error
  | .error error => some error
  | .ok _ => none

theorem failure?_eq_some {attempt : Except Error Value} {error : Error} :
    failure? attempt = some error ↔ attempt = .error error := by
  cases attempt <;> simp [failure?]

/-- A sequence whose second part fails alike after every value of the first. -/
theorem failure?_bind {first : Except Error Value} {next : Value → Except Error Value'}
    {rest : Option Error}
    (hnext : ∀ value, first = .ok value → failure? (next value) = rest) :
    failure? (first >>= next) = (failure? first).or rest := by
  cases first with
  | error error => rfl
  | ok value => exact hnext value rfl

/-- What is made of the value of a computation does not change how it fails. -/
theorem failure?_map (attempt : Except Error Value) (f : Value → Value') :
    failure? (attempt >>= fun value => pure (f value)) = failure? attempt := by
  cases attempt <;> rfl

/-- A loop whose steps fail whatever has been gathered fails at its first item that
does. -/
theorem failure?_foldlM {step : Value → Item → Except Error Value}
    {failed : Item → Option Error} {items : List Item}
    (hstep : ∀ item ∈ items, ∀ value, failure? (step value item) = failed item)
    (first : Value) : failure? (items.foldlM step first) = items.findSome? failed := by
  induction items generalizing first with
  | nil => rfl
  | cons item items ih =>
      have hrest : ∀ value, step first item = .ok value →
          failure? (items.foldlM step value) = items.findSome? failed :=
        fun value _ => ih (fun item hmem => hstep item (List.mem_cons_of_mem _ hmem)) value
      rw [List.foldlM_cons, failure?_bind hrest, hstep item List.mem_cons_self,
        List.findSome?_cons]
      cases failed item <;> rfl

/-- A traversal fails at its first item that fails. -/
theorem failure?_mapM (step : Item → Except Error Value) (items : List Item) :
    failure? (items.mapM step) = items.findSome? fun item => failure? (step item) := by
  induction items with
  | nil => rfl
  | cons item items ih =>
      have hrest : ∀ value, step item = .ok value →
          failure? (items.mapM step >>= fun values => pure (value :: values)) =
            items.findSome? fun item => failure? (step item) :=
        fun value _ => (failure?_map _ _).trans ih
      rw [List.mapM_cons, failure?_bind hrest, List.findSome?_cons]
      cases failure? (step item) <;> rfl

end Attempts
