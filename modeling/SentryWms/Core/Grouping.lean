import Mathlib

/-!
# Grouping a list by key

Items are put under their keys in a map that remembers the order of insertion. The map holds
every key once, in the order in which the keys are first seen, each with the items that have
it.
-/

namespace Grouping

variable {α κ : Type*} [DecidableEq κ]

/-- Put an item under its key; a key that is new comes last. -/
def push (key : κ) (item : α) : List (κ × List α) → List (κ × List α)
  | [] => [(key, [item])]
  | (other, members) :: groups =>
      if other = key then (other, members ++ [item]) :: groups
      else (other, members) :: push key item groups

def groupBy (key : α → Option κ) (items : List α) : List (κ × List α) :=
  items.foldl (fun groups item =>
    match key item with
    | some itemKey => push itemKey item groups
    | none => groups) []

def membersOf (key : α → Option κ) (items : List α) (itemKey : κ) : List α :=
  items.filter fun item => key item = some itemKey

/-- The keys in the order in which they are first seen. -/
def keysOf (key : α → Option κ) (items : List α) : List κ :=
  (items.filterMap key).eraseDups

theorem mem_membersOf {key : α → Option κ} {items : List α} {itemKey : κ} {item : α} :
    item ∈ membersOf key items itemKey ↔ item ∈ items ∧ key item = some itemKey := by
  rw [membersOf, List.mem_filter, decide_eq_true_iff]

theorem mem_keysOf {key : α → Option κ} {items : List α} {itemKey : κ} :
    itemKey ∈ keysOf key items ↔ ∃ item ∈ items, key item = some itemKey := by
  rw [keysOf, List.mem_eraseDups, List.mem_filterMap]

theorem keysOf_append (key : α → Option κ) (items : List α) (item : α) :
    keysOf key (items ++ [item]) =
      match key item with
      | some itemKey =>
          if itemKey ∈ keysOf key items then keysOf key items
          else keysOf key items ++ [itemKey]
      | none => keysOf key items := by
  rw [keysOf, List.filterMap_append]
  cases hkey : key item with
  | none => simp [hkey, keysOf]
  | some itemKey =>
      have hone : List.filterMap key [item] = [itemKey] := by
        rw [List.filterMap_cons, hkey, List.filterMap_nil]
      have hseen : itemKey ∈ keysOf key items ↔ itemKey ∈ items.filterMap key := by
        rw [keysOf, List.mem_eraseDups]
      rw [hone, List.eraseDups_append, List.removeAll, List.filter_singleton, List.elem_eq_mem]
      simp only [hseen]
      by_cases hmem : itemKey ∈ items.filterMap key
      · rw [if_pos hmem, decide_eq_true hmem]
        exact List.append_nil _
      · rw [if_neg hmem, decide_eq_false hmem]
        rfl

theorem nodup_keysOf (key : α → Option κ) (items : List α) : (keysOf key items).Nodup := by
  induction items using List.reverseRecOn with
  | nil => exact List.nodup_nil
  | append_singleton items item ih =>
      rw [keysOf_append]
      split
      · split
        · exact ih
        · next hnew =>
            rw [← List.concat_eq_append]
            exact ih.concat hnew
      · exact ih

/-! ## Lists without repetitions -/

theorem nodup_eraseDups (items : List κ) : items.eraseDups.Nodup := by
  simpa [keysOf] using nodup_keysOf some items

theorem eraseDups_of_nodup {items : List κ} (hnodup : items.Nodup) :
    items.eraseDups = items := by
  induction items with
  | nil => rfl
  | cons item items ih =>
      rw [List.nodup_cons] at hnodup
      have hkept : (items.filter fun other => !other == item) = items := by
        rw [List.filter_eq_self]
        intro other hother
        have hne : other ≠ item := fun heq => hnodup.1 (heq ▸ hother)
        simp [hne]
      rw [List.eraseDups_cons, hkept, ih hnodup.2]

theorem eraseDups_sublist (items : List κ) : items.eraseDups.Sublist items := by
  induction items using List.reverseRecOn with
  | nil => exact List.Sublist.slnil
  | append_singleton items item ih =>
      have hlast : ([item].removeAll items).eraseDups.Sublist [item] := by
        rw [List.removeAll, List.filter_singleton]
        cases List.elem item items with
        | true => exact List.nil_sublist _
        | false => exact List.Sublist.refl _
      rw [List.eraseDups_append]
      exact ih.append hlast

/-! ## Groups -/

/-- To push onto a map is to append to what is under the key. -/
theorem push_map {key : κ} {item : α} {members : κ → List α} {keys : List κ}
    (hnodup : keys.Nodup) (hnew : key ∉ keys → members key = []) :
    push key item (keys.map fun other => (other, members other)) =
      (if key ∈ keys then keys else keys ++ [key]).map fun other =>
        (other, if other = key then members other ++ [item] else members other) := by
  induction keys with
  | nil => simp [push, hnew List.not_mem_nil]
  | cons other keys ih =>
      rw [List.nodup_cons] at hnodup
      rw [List.map_cons, push]
      by_cases hother : other = key
      · subst hother
        have hrest : ∀ key ∈ keys, key ≠ other := fun key hkey heq => hnodup.1 (heq ▸ hkey)
        rw [if_pos rfl, if_pos List.mem_cons_self, List.map_cons, if_pos rfl]
        congr 1
        exact List.map_congr_left fun key hkey => by rw [if_neg (hrest key hkey)]
      · have hmem : key ∈ other :: keys ↔ key ∈ keys := by
          simp [Ne.symm hother]
        rw [if_neg hother, ih hnodup.2 fun hnot => hnew (hmem.not.mpr hnot)]
        simp only [hmem]
        split
        · rw [List.map_cons, if_neg hother]
        · rw [List.cons_append, List.map_cons, if_neg hother]

/-- The map holds the keys in the order in which they are first seen, each with its items. -/
theorem groupBy_eq (key : α → Option κ) (items : List α) :
    groupBy key items =
      (keysOf key items).map fun itemKey => (itemKey, membersOf key items itemKey) := by
  induction items using List.reverseRecOn with
  | nil => rfl
  | append_singleton items item ih =>
      have hmembers : ∀ itemKey, membersOf key (items ++ [item]) itemKey =
          if key item = some itemKey then membersOf key items itemKey ++ [item]
          else membersOf key items itemKey := by
        intro itemKey
        rw [membersOf, List.filter_append, List.filter_singleton]
        split <;> simp_all [membersOf]
      rw [groupBy, List.foldl_append, List.foldl_cons, List.foldl_nil, ← groupBy, ih,
        keysOf_append]
      cases hkey : key item with
      | none => simp [hmembers, hkey]
      | some itemKey =>
          have hnew : itemKey ∉ keysOf key items → membersOf key items itemKey = [] := by
            intro hnot
            rw [List.eq_nil_iff_forall_not_mem]
            intro other hother
            exact hnot (mem_keysOf.mpr ⟨other, mem_membersOf.mp hother⟩)
          dsimp only
          rw [push_map (nodup_keysOf key items) hnew]
          simp only [hmembers, hkey, Option.some.injEq, eq_comm]

end Grouping
