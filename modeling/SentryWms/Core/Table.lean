import Mathlib

/-!
# Tables with serial keys

A table is a finite map from serial keys to rows. The rows stand in key order,
which is both the canonical form of the map and the order in which a query with
`ORDER BY` on the key returns them. Keys are handed out by a sequence that never
goes back, so an inserted row is always the last one.
-/

namespace Relational

universe u

/-- A finite map from serial keys to rows, in key order. -/
@[ext]
structure Table (ρ : Type u) where
  /-- The rows with their keys. -/
  entries : List (ℕ × ρ)
  /-- The next value of the key sequence. -/
  next : ℕ
  /-- Keys are distinct and ascending. -/
  sorted : (entries.map Prod.fst).Pairwise (· < ·)
  /-- The sequence is ahead of every key in use. -/
  fresh : ∀ key ∈ entries.map Prod.fst, key < next

namespace Table

variable {ρ : Type u} {M : Type*}

/-! ## Operations -/

/-- The table without rows. -/
def empty : Table ρ :=
  ⟨[], 1, List.Pairwise.nil, by simp⟩

/-- The keys in use, in order. -/
def keys (table : Table ρ) : List ℕ :=
  table.entries.map Prod.fst

/-- Look a row up by its key. -/
def get? (table : Table ρ) (key : ℕ) : Option ρ :=
  (table.entries.find? fun entry => entry.1 == key).map Prod.snd

/-- The rows that satisfy a condition, in key order. -/
def select (table : Table ρ) (cond : ρ → Bool) : List (ℕ × ρ) :=
  table.entries.filter fun entry => cond entry.2

/-- Replace every row by a function of its key and itself. -/
def mapRows (table : Table ρ) (change : ℕ → ρ → ρ) : Table ρ where
  entries := table.entries.map fun entry => (entry.1, change entry.1 entry.2)
  next := table.next
  sorted := by simpa [Function.comp_def] using table.sorted
  fresh := by simpa [Function.comp_def] using table.fresh

/-- Update the row with a given key. -/
def modify (table : Table ρ) (key : ℕ) (change : ρ → ρ) : Table ρ :=
  table.mapRows fun key' row => if key' = key then change row else row

/-- Update every row that satisfies a condition. -/
def updateWhere (table : Table ρ) (cond : ρ → Bool) (change : ρ → ρ) : Table ρ :=
  table.mapRows fun _ row => if cond row then change row else row

/-- Delete every row that satisfies a condition. -/
def deleteWhere (table : Table ρ) (cond : ρ → Bool) : Table ρ where
  entries := table.entries.filter fun entry => !cond entry.2
  next := table.next
  sorted := table.sorted.sublist (List.filter_sublist.map _)
  fresh := fun key hkey =>
    table.fresh key ((List.filter_sublist.map Prod.fst).subset hkey)

def delete (table : Table ρ) (key : ℕ) : Table ρ where
  entries := table.entries.filter fun entry => entry.1 != key
  next := table.next
  sorted := table.sorted.sublist (List.filter_sublist.map _)
  fresh := fun key hkey =>
    table.fresh key ((List.filter_sublist.map Prod.fst).subset hkey)

/-- Insert a row under the next key of the sequence. -/
def insert (table : Table ρ) (row : ρ) : Table ρ where
  entries := table.entries ++ [(table.next, row)]
  next := table.next + 1
  sorted := by
    rw [List.map_append, List.pairwise_append]
    refine ⟨table.sorted, by simp, ?_⟩
    intro key hkey key' hkey'
    rw [List.map_singleton, List.mem_singleton] at hkey'
    rw [hkey']
    exact table.fresh key hkey
  fresh := by
    intro key hkey
    rw [List.map_append, List.mem_append] at hkey
    rcases hkey with hkey | hkey
    · exact Nat.lt_succ_of_lt (table.fresh key hkey)
    · rw [List.map_singleton, List.mem_singleton] at hkey
      omega

/-- The table that holds the given rows, numbered from one. -/
def ofRows (rows : List ρ) : Table ρ :=
  rows.foldl insert empty

/-- The sum of a quantity over all rows. -/
def total [AddCommMonoid M] (table : Table ρ) (value : ℕ → ρ → M) : M :=
  (table.entries.map fun entry => value entry.1 entry.2).sum

/-! ## Membership and lookup -/

variable (table : Table ρ)

theorem nodup_keys : table.keys.Nodup :=
  table.sorted.imp fun hlt => Nat.ne_of_lt hlt

theorem nodup_entries : table.entries.Nodup :=
  List.Nodup.of_map Prod.fst table.nodup_keys

variable {key : ℕ}

theorem mem_keys : key ∈ table.keys ↔ ∃ row, (key, row) ∈ table.entries := by
  simp [keys]

variable {row : ρ}

/-- A key determines its row. -/
theorem row_unique {row' : ρ} (hrow : (key, row) ∈ table.entries)
    (hrow' : (key, row') ∈ table.entries) :
    row = row' := by
  have hinj := List.inj_on_of_nodup_map table.nodup_keys hrow hrow' rfl
  exact congrArg Prod.snd hinj

@[simp]
theorem get?_eq_some :
    table.get? key = some row ↔ (key, row) ∈ table.entries := by
  unfold get?
  constructor
  · intro hget
    obtain ⟨entry, hfind, hrow⟩ := Option.map_eq_some_iff.mp hget
    have hkey : entry.1 = key := by simpa using List.find?_some hfind
    rw [← hkey, ← hrow]
    exact List.mem_of_find?_eq_some hfind
  · intro hmem
    have hsome : (table.entries.find? fun entry => entry.1 == key).isSome := by
      rw [List.find?_isSome]
      exact ⟨(key, row), hmem, by simp⟩
    obtain ⟨entry, hfind⟩ := Option.isSome_iff_exists.mp hsome
    have hkey : entry.1 = key := by simpa using List.find?_some hfind
    have hentry : (key, entry.2) ∈ table.entries := by
      rw [← hkey]
      exact List.mem_of_find?_eq_some hfind
    rw [hfind, Option.map_some, table.row_unique hentry hmem]

variable {cond : ρ → Bool} {entry : ℕ × ρ}

theorem mem_select :
    entry ∈ table.select cond ↔ entry ∈ table.entries ∧ cond entry.2 = true := by
  simp [select]

theorem select_nodup (cond : ρ → Bool) :
    ((table.select cond).map Prod.fst).Nodup :=
  table.nodup_keys.sublist (List.filter_sublist.map _)

@[simp]
theorem mapRows_keys (change : ℕ → ρ → ρ) :
    (table.mapRows change).keys = table.keys := by
  simp [mapRows, keys, Function.comp_def]

@[simp]
theorem mapRows_next (change : ℕ → ρ → ρ) :
    (table.mapRows change).next = table.next := rfl

theorem mapRows_mapRows (first next : ℕ → ρ → ρ) :
    (table.mapRows first).mapRows next =
      table.mapRows fun key row => next key (first key row) := by
  apply Table.ext
  · simp [mapRows, Function.comp_def]
  · rfl

theorem mapRows_congr {left right : ℕ → ρ → ρ}
    (hchange : ∀ key row, (key, row) ∈ table.entries → left key row = right key row) :
    table.mapRows left = table.mapRows right := by
  apply Table.ext
  · apply List.map_congr_left
    intro entry hentry
    exact congrArg (Prod.mk entry.1) (hchange entry.1 entry.2 hentry)
  · rfl

theorem mapRows_id : (table.mapRows fun _ row => row) = table := by
  apply Table.ext
  · simp [mapRows]
  · rfl

variable {change : ℕ → ρ → ρ}

@[simp]
theorem mem_mapRows :
    (key, row) ∈ (table.mapRows change).entries ↔
      ∃ before, (key, before) ∈ table.entries ∧ change key before = row := by
  simp only [mapRows, List.mem_map, Prod.mk.injEq, Prod.exists]
  constructor
  · rintro ⟨key', before, hmem, hkey, hrow⟩
    subst hkey
    exact ⟨before, hmem, hrow⟩
  · rintro ⟨before, hmem, hrow⟩
    exact ⟨key, before, hmem, rfl, hrow⟩

@[simp]
theorem get?_mapRows (change : ℕ → ρ → ρ) (key : ℕ) :
    (table.mapRows change).get? key = (table.get? key).map (change key) := by
  cases hget : table.get? key with
  | none =>
      rw [Option.map_none, Option.eq_none_iff_forall_ne_some]
      intro row hrow
      rw [get?_eq_some, mem_mapRows] at hrow
      obtain ⟨before, hmem, -⟩ := hrow
      rw [← get?_eq_some, hget] at hmem
      cases hmem
  | some row =>
      rw [Option.map_some, get?_eq_some, mem_mapRows]
      exact ⟨row, (table.get?_eq_some).mp hget, rfl⟩

theorem get?_modify_of_ne {key' : ℕ} (hkey : key' ≠ key) (change : ρ → ρ) :
    (table.modify key change).get? key' = table.get? key' := by
  simp [modify, hkey]

/-- Updating rows one after the other, each at most once, is updating them at once. -/
theorem foldl_modify (change : ρ → ρ) {entries : List (ℕ × ρ)}
    (hnodup : (entries.map Prod.fst).Nodup) :
    (entries.foldl (fun table entry => table.modify entry.1 change) table) =
      table.mapRows fun key row =>
        if key ∈ entries.map Prod.fst then change row else row := by
  induction entries generalizing table with
  | nil => simpa using table.mapRows_id.symm
  | cons entry entries ih =>
      rw [List.map_cons, List.nodup_cons] at hnodup
      rw [List.foldl_cons, ih _ hnodup.2, modify, mapRows_mapRows]
      apply table.mapRows_congr
      intro key row _
      by_cases hkey : key = entry.1
      · subst hkey
        rw [if_neg hnodup.1, if_pos rfl, List.map_cons, if_pos List.mem_cons_self]
      · rw [if_neg hkey, List.map_cons]
        exact if_congr (by rw [List.mem_cons, or_iff_right hkey]) rfl rfl

/-- Updating the selected rows one after the other is updating where the condition
holds. -/
theorem foldl_modify_select (cond : ρ → Bool) (change : ρ → ρ) :
    ((table.select cond).foldl (fun table entry => table.modify entry.1 change) table) =
      table.updateWhere cond change := by
  rw [foldl_modify _ _ (table.select_nodup cond), updateWhere]
  apply table.mapRows_congr
  intro key row hrow
  have hselected : key ∈ (table.select cond).map Prod.fst ↔ cond row = true := by
    rw [List.mem_map]
    constructor
    · rintro ⟨entry, hentry, rfl⟩
      obtain ⟨hmem, hcond⟩ := table.mem_select.mp hentry
      rwa [table.row_unique hrow hmem]
    · intro hcond
      exact ⟨(key, row), table.mem_select.mpr ⟨hrow, hcond⟩, rfl⟩
  simp only [hselected]

/-- Updates that keep a condition keep the first row that satisfies it in place. -/
theorem find?_mapRows (hcond : ∀ key row, cond (change key row) = cond row) :
    ((table.mapRows change).entries.find? fun entry => cond entry.2) =
      (table.entries.find? fun entry => cond entry.2).map
        fun entry => (entry.1, change entry.1 entry.2) := by
  simp [mapRows, List.find?_map, hcond]

theorem select_mapRows (hcond : ∀ key row, cond (change key row) = cond row) :
    (table.mapRows change).select cond =
      (table.select cond).map fun entry => (entry.1, change entry.1 entry.2) := by
  simp [mapRows, select, List.filter_map, Function.comp_def, hcond]

theorem select_mapRows_elsewhere
    (hchange : ∀ key row, (key, row) ∈ table.entries → change key row = row ∨ cond row = false ∧ cond (change key row) = false) :
    (table.mapRows change).select cond = table.select cond := by
  rw [select, mapRows, List.filter_map, select]
  have hfilter : (table.entries.filter
      ((fun entry => cond entry.2) ∘ fun entry => (entry.1, change entry.1 entry.2))) =
      table.entries.filter fun entry => cond entry.2 := by
    apply List.filter_congr
    intro entry hentry
    rcases hchange entry.1 entry.2 hentry with hsame | ⟨hbefore, hafter⟩
    · rw [Function.comp_apply, hsame]
    · rw [Function.comp_apply, hbefore, hafter]
  rw [hfilter]
  conv_rhs => rw [← List.map_id (table.entries.filter fun entry => cond entry.2)]
  apply List.map_congr_left
  intro entry hentry
  obtain ⟨hmem, hcond⟩ := List.mem_filter.mp hentry
  rcases hchange entry.1 entry.2 hmem with hsame | ⟨hbefore, -⟩
  · exact congrArg (Prod.mk entry.1) hsame
  · rw [hbefore] at hcond
    cases hcond

theorem select_insert (row : ρ) (cond : ρ → Bool) :
    (table.insert row).select cond =
      table.select cond ++ if cond row then [(table.next, row)] else [] := by
  simp only [insert, select, List.filter_append, List.filter_cons, List.filter_nil]

theorem mem_modify {key' : ℕ} {change : ρ → ρ} :
    (key', row) ∈ (table.modify key change).entries ↔
      ∃ before, (key', before) ∈ table.entries ∧
        (if key' = key then change before else before) = row := by
  simp [modify]

@[simp]
theorem modify_next (key : ℕ) (change : ρ → ρ) :
    (table.modify key change).next = table.next := rfl

@[simp]
theorem mem_insert :
    entry ∈ (table.insert row).entries ↔
      entry ∈ table.entries ∨ entry = (table.next, row) := by
  simp [insert]

@[simp]
theorem insert_next (row : ρ) : (table.insert row).next = table.next + 1 := rfl

theorem get?_insert_self (row : ρ) : (table.insert row).get? table.next = some row := by
  rw [get?_eq_some, mem_insert]
  exact .inr rfl

theorem get?_insert_of_ne (hkey : key ≠ table.next) (row : ρ) :
    (table.insert row).get? key = table.get? key := by
  apply Option.ext
  intro found
  rw [get?_eq_some, get?_eq_some, mem_insert]
  constructor
  · rintro (hold | hnew)
    · exact hold
    · exact absurd (congrArg Prod.fst hnew) hkey
  · exact .inl

theorem lt_next_of_mem (hmem : (key, row) ∈ table.entries) :
    key < table.next :=
  table.fresh key (List.mem_map_of_mem hmem)

@[simp]
theorem mem_deleteWhere :
    entry ∈ (table.deleteWhere cond).entries ↔
      entry ∈ table.entries ∧ cond entry.2 = false := by
  simp [deleteWhere]

@[simp]
theorem mem_delete :
    entry ∈ (table.delete key).entries ↔ entry ∈ table.entries ∧ entry.1 ≠ key := by
  simp [delete]

/-- Deleting rows that do not occur changes nothing. -/
theorem deleteWhere_eq_self (hcond : ∀ entry ∈ table.entries, cond entry.2 = false) :
    table.deleteWhere cond = table := by
  apply Table.ext
  · exact List.filter_eq_self.mpr fun entry hentry => by simp [hcond entry hentry]
  · rfl

theorem get?_delete (key key' : ℕ) :
    (table.delete key).get? key' = if key' = key then none else table.get? key' := by
  apply Option.ext
  intro row
  rw [get?_eq_some, mem_delete]
  by_cases hkey : key' = key
  · simp [hkey]
  · simp [hkey, get?_eq_some]

/-- Mapping the rows leaves an inserted row as it is where its own change does. -/
theorem mapRows_insert (change : ℕ → ρ → ρ) (row : ρ)
    (hchange : change table.next row = row) :
    (table.insert row).mapRows change = (table.mapRows change).insert row := by
  apply Table.ext
  · simp [mapRows, insert, hchange]
  · rfl

/-- Updating rows that do not occur changes nothing. -/
theorem updateWhere_eq_self {change : ρ → ρ}
    (hcond : ∀ entry ∈ table.entries, cond entry.2 = false) :
    table.updateWhere cond change = table := by
  conv_rhs => rw [← table.mapRows_id]
  apply table.mapRows_congr
  intro key row hrow
  rw [hcond (key, row) hrow]
  rfl

theorem next_not_mem (row : ρ) : (table.next, row) ∉ table.entries := by
  intro hmem
  exact Nat.lt_irrefl _ (table.fresh table.next (List.mem_map_of_mem hmem))

/-! ## Totals -/

section Totals

variable [AddCommMonoid M]

theorem total_congr {left right : ℕ → ρ → M}
    (hvalue : ∀ key row, (key, row) ∈ table.entries → left key row = right key row) :
    table.total left = table.total right := by
  unfold total
  congr 1
  exact List.map_congr_left fun entry hentry => hvalue entry.1 entry.2 hentry

@[simp]
theorem total_mapRows (change : ℕ → ρ → ρ) (value : ℕ → ρ → M) :
    (table.mapRows change).total value =
      table.total fun key row => value key (change key row) := by
  simp [total, mapRows, Function.comp_def]

@[simp]
theorem total_insert (row : ρ) (value : ℕ → ρ → M) :
    (table.insert row).total value = table.total value + value table.next row := by
  simp [total, insert]

theorem total_deleteWhere (cond : ρ → Bool) (value : ℕ → ρ → M) :
    (table.deleteWhere cond).total value =
      table.total fun key row => if cond row then 0 else value key row := by
  unfold total deleteWhere
  dsimp only
  induction table.entries with
  | nil => rfl
  | cons entry rest ih =>
      cases hcond : cond entry.2 <;> simp [hcond, ih]

theorem total_delete (key : ℕ) (value : ℕ → ρ → M) :
    (table.delete key).total value =
      table.total fun key' row => if key' = key then 0 else value key' row := by
  unfold total delete
  dsimp only
  induction table.entries with
  | nil => rfl
  | cons entry rest ih => by_cases hkey : entry.1 = key <;> simp [hkey, ih]

theorem total_add (left right : ℕ → ρ → M) :
    (table.total fun key row => left key row + right key row) =
      table.total left + table.total right :=
  List.sum_map_add

theorem mul_total (table : Table ρ) (factor : ℤ) (value : ℕ → ρ → ℤ) :
    factor * table.total value = table.total fun key row => factor * value key row := by
  rw [total, total, List.sum_map_mul_left]

/-- A sum over selected rows is a total over the table. -/
theorem total_select (cond : ρ → Bool) (value : ℕ → ρ → M) :
    ((table.select cond).map fun entry => value entry.1 entry.2).sum =
      table.total fun key row => if cond row then value key row else 0 := by
  unfold select total
  induction table.entries with
  | nil => rfl
  | cons entry rest ih =>
      cases hcond : cond entry.2 <;> simp [hcond, ih]

@[simp]
theorem total_zero : (table.total fun _ _ => (0 : M)) = 0 := by
  simp [total]

theorem total_eq_zero {value : ℕ → ρ → M}
    (hvalue : ∀ key row, (key, row) ∈ table.entries → value key row = 0) :
    table.total value = 0 :=
  (table.total_congr hvalue).trans table.total_zero

omit table in
/-- Where keys are distinct, what the items under the key of one of them carry is what
that one carries. -/
theorem sum_ite_key {α κ : Type*} [DecidableEq κ] {key : α → κ} {items : List α}
    (hnodup : (items.map key).Nodup) {item : α} (hmem : item ∈ items) (value : α → M) :
    (items.map fun other => if key other = key item then value other else 0).sum =
      value item := by
  induction items with
  | nil => cases hmem
  | cons head rest ih =>
      rw [List.map_cons, List.nodup_cons] at hnodup
      rw [List.map_cons, List.sum_cons]
      rcases List.mem_cons.mp hmem with rfl | hrest
      · have hzero : (rest.map fun other =>
            if key other = key item then value other else 0).sum = 0 := by
          apply List.sum_eq_zero
          intro summand hsummand
          obtain ⟨other, hother, rfl⟩ := List.mem_map.mp hsummand
          have hne : key other ≠ key item := fun hkey =>
            hnodup.1 (hkey ▸ List.mem_map_of_mem hother)
          exact if_neg hne
        rw [hzero, if_pos rfl, add_zero]
      · have hne : key head ≠ key item := fun hkey =>
          hnodup.1 (hkey ▸ List.mem_map_of_mem hrest)
        rw [if_neg hne, zero_add, ih hnodup.2 hrest]

/-- The total of a quantity that only one row carries. -/
theorem total_single {key : ℕ} {row : ρ} (hmem : (key, row) ∈ table.entries)
    (value : ℕ → ρ → M) :
    (table.total fun key' row' => if key' = key then value key' row' else 0) =
      value key row :=
  sum_ite_key table.nodup_keys hmem fun entry => value entry.1 entry.2

end Totals

section Groups

variable [AddCommGroup M]

theorem total_sub (left right : ℕ → ρ → M) :
    (table.total fun key row => left key row - right key row) =
      table.total left - table.total right := by
  have hsplit := table.total_add (fun key row => left key row - right key row) right
  simp only [sub_add_cancel] at hsplit
  rw [hsplit, add_sub_cancel_right]

/-- Updating one row moves a total by the difference at that row. -/
theorem total_modify {key : ℕ} {row : ρ} (hmem : (key, row) ∈ table.entries)
    (change : ρ → ρ) (value : ℕ → ρ → M) :
    (table.modify key change).total value =
      table.total value + (value key (change row) - value key row) := by
  rw [← table.total_single hmem fun key' row' =>
    value key' (change row') - value key' row', ← table.total_add]
  unfold modify
  rw [total_mapRows]
  apply table.total_congr
  intro key' row' _
  by_cases hkey : key' = key <;> simp [hkey]

end Groups

section Order

variable [AddCommMonoid M] [PartialOrder M] [IsOrderedAddMonoid M]

theorem total_le_total {left right : ℕ → ρ → M}
    (hvalue : ∀ key row, (key, row) ∈ table.entries → left key row ≤ right key row) :
    table.total left ≤ table.total right :=
  List.sum_le_sum fun entry hentry => hvalue entry.1 entry.2 hentry

theorem total_nonneg {value : ℕ → ρ → M}
    (hvalue : ∀ key row, (key, row) ∈ table.entries → 0 ≤ value key row) :
    0 ≤ table.total value := by
  rw [← table.total_zero]
  exact table.total_le_total hvalue

/-- One row carries at most the total of a nonnegative quantity. -/
theorem le_total {value : ℕ → ρ → M}
    (hvalue : ∀ key row, (key, row) ∈ table.entries → 0 ≤ value key row)
    {key : ℕ} {row : ρ} (hmem : (key, row) ∈ table.entries) :
    value key row ≤ table.total value := by
  rw [← table.total_single hmem value]
  apply table.total_le_total
  intro key' row' hmem'
  by_cases hkey : key' = key
  · simp [hkey]
  · simpa [hkey] using hvalue key' row' hmem'

end Order

end Table

/-! ## Rows that persist -/

section Persistence

variable {ρ : Type u} {Related Related' : ρ → ρ → Prop}
  {table table' table'' : Table ρ}

/-- Every row of the first table is, up to a relation, a row of the second one. -/
def Table.Persists (Related : ρ → ρ → Prop) (table table' : Table ρ) : Prop :=
  ∀ ⦃key row⦄, (key, row) ∈ table.entries →
    ∃ row', (key, row') ∈ table'.entries ∧ Related row row'

namespace Table.Persists

theorem refl (hrefl : ∀ row, Related row row) (table : Table ρ) :
    Persists Related table table :=
  fun _ row hrow => ⟨row, hrow, hrefl row⟩

theorem trans (htrans : ∀ {row row' row''}, Related row row' →
      Related row' row'' → Related row row'')
    (hfirst : Persists Related table table')
    (hnext : Persists Related table' table'') :
    Persists Related table table'' := by
  intro key row hrow
  obtain ⟨row', hrow', hrelated⟩ := hfirst hrow
  obtain ⟨row'', hrow'', hrelated'⟩ := hnext hrow'
  exact ⟨row'', hrow'', htrans hrelated hrelated'⟩

theorem mono (hmono : ∀ {row row'}, Related row row' → Related' row row')
    (hpersists : Persists Related table table') :
    Persists Related' table table' := by
  intro key row hrow
  obtain ⟨row', hrow', hrelated⟩ := hpersists hrow
  exact ⟨row', hrow', hmono hrelated⟩

/-- An update of one row that stays within the relation. -/
theorem modify (hrefl : ∀ row, Related row row) {key : ℕ} {change : ρ → ρ}
    (hchange : ∀ row, (key, row) ∈ table.entries → Related row (change row)) :
    Persists Related table (table.modify key change) := by
  intro key' row hrow
  refine ⟨_, (mem_modify _).mpr ⟨row, hrow, rfl⟩, ?_⟩
  split
  next hkey =>
    subst hkey
    exact hchange row hrow
  next => exact hrefl row

theorem insert (hrefl : ∀ row, Related row row) (row : ρ) :
    Persists Related table (table.insert row) :=
  fun _ row' hrow' => ⟨row', (mem_insert _).mpr (.inl hrow'), hrefl row'⟩

theorem mapRows {change : ℕ → ρ → ρ}
    (hchange : ∀ key row, (key, row) ∈ table.entries →
      Related row (change key row)) :
    Persists Related table (table.mapRows change) :=
  fun key row hrow => ⟨change key row, (mem_mapRows _).mpr ⟨row, hrow, rfl⟩,
    hchange key row hrow⟩

end Table.Persists

/-! ## What changes in a field -/

variable {κ : Type*} [DecidableEq κ]

/-- The values of a field before and after, for the rows where they differ. -/
def Table.changes (field : ρ → κ) (table after : Table ρ) : List (κ × κ) :=
  table.entries.filterMap fun entry =>
    (after.get? entry.1).bind fun row =>
      if field row = field entry.2 then none else some (field entry.2, field row)

theorem Table.mem_changes {field : ρ → κ} {change : κ × κ} :
    change ∈ Table.changes field table table' ↔
      ∃ key row row', (key, row) ∈ table.entries ∧ (key, row') ∈ table'.entries ∧
        field row' ≠ field row ∧ change = (field row, field row') := by
  simp only [Table.changes, List.mem_filterMap, Option.bind_eq_some_iff,
    Table.get?_eq_some, Prod.exists]
  constructor
  · rintro ⟨key, row, hrow, row', hrow', hchange⟩
    split at hchange
    · cases hchange
    · exact ⟨key, row, row', hrow, hrow', ‹_›, (Option.some.inj hchange).symm⟩
  · rintro ⟨key, row, row', hrow, hrow', hne, rfl⟩
    exact ⟨key, row, hrow, row', hrow', if_neg hne⟩

/-- Rows that persist up to a relation change their fields as the relation allows. -/
theorem Table.Persists.changes {field : ρ → κ}
    (hpersists : Table.Persists Related table table') {change : κ × κ}
    (hchange : change ∈ Table.changes field table table') :
    ∃ row row', Related row row' ∧ field row' ≠ field row ∧
      change = (field row, field row') := by
  obtain ⟨key, row, row', hrow, hrow', hne, rfl⟩ := Table.mem_changes.mp hchange
  obtain ⟨found, hfound, hrelated⟩ := hpersists hrow
  obtain rfl := table'.row_unique hfound hrow'
  exact ⟨row, found, hrelated, hne, rfl⟩

end Persistence

/-! ## Ordered results -/

section OrderBy

variable {ρ : Type u} {κ : Type*} [LinearOrder κ]

/-- The result of `ORDER BY`: rows with equal keys stay in the order they had. -/
def orderBy (key : ℕ × ρ → κ) (rows : List (ℕ × ρ)) : List (ℕ × ρ) :=
  rows.insertionSort fun left right => key left ≤ key right

theorem orderBy_perm (key : ℕ × ρ → κ) (rows : List (ℕ × ρ)) :
    (orderBy key rows).Perm rows :=
  List.perm_insertionSort _ rows

@[simp]
theorem mem_orderBy {key : ℕ × ρ → κ} {rows : List (ℕ × ρ)} {entry : ℕ × ρ} :
    entry ∈ orderBy key rows ↔ entry ∈ rows :=
  (orderBy_perm key rows).mem_iff

end OrderBy

/-! ## One of several rows -/

section LimitOne

variable {ρ : Type u}

/-- The row that `LIMIT 1` answers with where nothing orders the rows: the chosen one if
it is among them, else the first. -/
def limitOne (choice : Option ℕ) (rows : List (ℕ × ρ)) : Option (ℕ × ρ) :=
  (rows.find? fun entry => some entry.1 == choice).or rows.head?

theorem limitOne_none (rows : List (ℕ × ρ)) : limitOne none rows = rows.head? := by
  have hnone : (rows.find? fun entry => some entry.1 == none) = none := by simp
  rw [limitOne, hnone, Option.none_or]

theorem limitOne_eq_none {choice : Option ℕ} {rows : List (ℕ × ρ)} :
    limitOne choice rows = none ↔ rows = [] := by
  rw [limitOne, Option.or_eq_none_iff, List.head?_eq_none_iff]
  constructor
  · exact And.right
  · rintro rfl
    exact ⟨rfl, rfl⟩

variable {entry : ℕ × ρ}

theorem mem_of_limitOne {choice : Option ℕ} {rows : List (ℕ × ρ)}
    (hentry : limitOne choice rows = some entry) : entry ∈ rows := by
  rw [limitOne, Option.or_eq_some_iff] at hentry
  rcases hentry with hfind | ⟨-, hhead⟩
  · exact List.mem_of_find?_eq_some hfind
  · exact List.mem_of_mem_head? hhead

/-- Any of the selected rows may be the one. -/
theorem limitOne_select {table : Table ρ} {cond : ρ → Bool}
    (hentry : entry ∈ table.select cond) :
    limitOne (some entry.1) (table.select cond) = some entry := by
  rw [limitOne, Option.or_eq_some_iff]
  left
  have hfound : ((table.select cond).find? fun other =>
      some other.1 == some entry.1).isSome := by
    rw [List.find?_isSome]
    exact ⟨entry, hentry, beq_self_eq_true _⟩
  obtain ⟨⟨key, row⟩, hfind⟩ := Option.isSome_iff_exists.mp hfound
  have hkey : key = entry.1 := by simpa using List.find?_some hfind
  have hmem := (table.mem_select.mp (List.mem_of_find?_eq_some hfind)).1
  subst hkey
  rw [hfind, table.row_unique hmem (table.mem_select.mp hentry).1]

/-- There is no choice among one row. -/
theorem limitOne_singleton (choice : Option ℕ) (entry : ℕ × ρ) :
    limitOne choice [entry] = some entry := by
  cases hlimit : limitOne choice [entry] with
  | none => cases limitOne_eq_none.mp hlimit
  | some other => rw [List.mem_singleton.mp (mem_of_limitOne hlimit)]

/-- Every choice gives one row exactly where no other row is selected. -/
theorem limitOne_select_iff {table : Table ρ} {cond : ρ → Bool} :
    (∀ choice, limitOne choice (table.select cond) = some entry) ↔
      entry ∈ table.select cond ∧ ∀ other ∈ table.select cond, other = entry := by
  constructor
  · intro hone
    refine ⟨mem_of_limitOne (hone none), fun other hother => ?_⟩
    have hchosen := hone (some other.1)
    rw [limitOne_select hother, Option.some.injEq] at hchosen
    exact hchosen
  · rintro ⟨hentry, hone⟩ choice
    cases hlimit : limitOne choice (table.select cond) with
    | none =>
        rw [limitOne_eq_none] at hlimit
        rw [hlimit] at hentry
        exact absurd hentry List.not_mem_nil
    | some other => rw [hone other (mem_of_limitOne hlimit)]

/-- The choice does not depend on what the rows hold. -/
theorem limitOne_map (choice : Option ℕ) (change : ℕ → ρ → ρ) (rows : List (ℕ × ρ)) :
    limitOne choice (rows.map fun entry => (entry.1, change entry.1 entry.2)) =
      (limitOne choice rows).map fun entry => (entry.1, change entry.1 entry.2) := by
  simp only [limitOne, List.find?_map, Function.comp_def, List.head?_map, Option.map_or]

end LimitOne

end Relational
