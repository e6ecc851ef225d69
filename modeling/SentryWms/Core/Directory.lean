import Mathlib

/-!
# Directories

A directory lists entries in the order in which their keys were opened. Entering
under a key that is taken leaves the directory as it is, so whether its entries all
stand where they belong is a question about the entries that opened their keys.
-/

namespace Relational

variable {κ ω : Type*} [DecidableEq κ]

/-- Enter an entry, unless its key is taken. -/
def enter (directory : List (κ × ω)) (entry : κ × ω) : List (κ × ω) :=
  if entry.1 ∈ directory.map Prod.fst then directory else directory ++ [entry]

def enterAll (directory entries : List (κ × ω)) : List (κ × ω) :=
  entries.foldl enter directory

/-- The entries that find their key free. -/
def opening : List (κ × ω) → List (κ × ω) → List (κ × ω)
  | _, [] => []
  | directory, entry :: entries =>
      if entry.1 ∈ directory.map Prod.fst then opening directory entries
      else entry :: opening (directory ++ [entry]) entries

/-- The keys are distinct and every entry stands where it belongs. -/
structure InPlace (belongs : κ × ω → Prop) (directory : List (κ × ω)) : Prop where
  nodup : (directory.map Prod.fst).Nodup
  belongs : ∀ entry ∈ directory, belongs entry

instance (belongs : κ × ω → Prop) [DecidablePred belongs] (directory : List (κ × ω)) :
    Decidable (InPlace belongs directory) :=
  decidable_of_iff
    ((directory.map Prod.fst).Nodup ∧ ∀ entry ∈ directory, belongs entry)
    ⟨fun hplace => ⟨hplace.1, hplace.2⟩, fun hplace => ⟨hplace.nodup, hplace.belongs⟩⟩

namespace Directory

variable {directory entries : List (κ × ω)}

@[simp]
theorem enterAll_nil : enterAll directory [] = directory := rfl

@[simp]
theorem enterAll_cons (entry : κ × ω) :
    enterAll directory (entry :: entries) =
      enterAll (enter directory entry) entries := rfl

theorem enterAll_append (entries' : List (κ × ω)) :
    enterAll directory (entries ++ entries') =
      enterAll (enterAll directory entries) entries' :=
  List.foldl_append

/-- Where the keys are distinct, an entry is found under its key. -/
theorem find?_of_mem (hnodup : (directory.map Prod.fst).Nodup) {entry : κ × ω}
    (hmem : entry ∈ directory) :
    (directory.find? fun found => found.1 == entry.1) = some entry := by
  induction directory with
  | nil => cases hmem
  | cons first rest ih =>
      rw [List.map_cons, List.nodup_cons] at hnodup
      rcases List.mem_cons.mp hmem with rfl | hrest
      · exact List.find?_cons_of_pos (beq_self_eq_true _)
      · have hne : first.1 ≠ entry.1 := fun heq =>
          hnodup.1 (heq ▸ List.mem_map_of_mem hrest)
        rw [List.find?_cons_of_neg (by simpa using hne)]
        exact ih hnodup.2 hrest

/-- A directory grows by the entries that open their keys. -/
theorem enterAll_eq (directory entries : List (κ × ω)) :
    enterAll directory entries = directory ++ opening directory entries := by
  induction entries generalizing directory with
  | nil => rw [enterAll_nil, opening, List.append_nil]
  | cons entry entries ih =>
      rw [enterAll_cons, ih, enter, opening]
      split
      · rfl
      · rw [List.append_assoc, List.singleton_append]

theorem mem_of_mem_opening {entry : κ × ω} (hmem : entry ∈ opening directory entries) :
    entry ∈ entries := by
  induction entries generalizing directory with
  | nil => exact hmem
  | cons first entries ih =>
      rw [opening] at hmem
      split at hmem
      · exact List.mem_cons_of_mem _ (ih hmem)
      · rcases List.mem_cons.mp hmem with rfl | hrest
        · exact List.mem_cons_self
        · exact List.mem_cons_of_mem _ (ih hrest)

theorem nodup_enterAll (hnodup : (directory.map Prod.fst).Nodup) :
    ((enterAll directory entries).map Prod.fst).Nodup := by
  induction entries generalizing directory with
  | nil => exact hnodup
  | cons entry entries ih =>
      apply ih
      rw [enter]
      split
      · exact hnodup
      next hfree =>
        rw [List.map_append, List.nodup_append]
        refine ⟨hnodup, List.nodup_singleton _, ?_⟩
        intro key hkey key' hkey' heq
        rw [List.map_singleton, List.mem_singleton] at hkey'
        exact hfree (hkey' ▸ heq ▸ hkey)

/-- Entries leave a directory in place exactly when those that open a key belong
under it. -/
theorem inPlace_enterAll {belongs : κ × ω → Prop} (hplace : InPlace belongs directory) :
    InPlace belongs (enterAll directory entries) ↔
      ∀ entry ∈ opening directory entries, belongs entry := by
  constructor
  · intro hafter entry hentry
    apply hafter.belongs
    rw [enterAll_eq]
    exact List.mem_append_right _ hentry
  · intro hopening
    refine ⟨nodup_enterAll hplace.nodup, ?_⟩
    intro entry hentry
    rw [enterAll_eq, List.mem_append] at hentry
    exact hentry.elim (hplace.belongs entry) (hopening entry)

end Directory

end Relational
