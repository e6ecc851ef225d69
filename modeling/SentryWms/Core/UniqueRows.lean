import SentryWms.Core.ReadCommitted

/-!
# A unique key under READ COMMITTED

`INSERT ... ON CONFLICT DO NOTHING` on a table whose rows are only inserted. A row that
another transaction has inserted and not committed makes the statement wait; a row that is
there makes it insert nothing. Either way the key is there afterwards, once.
-/

namespace ReadCommitted

open Relational

universe u v w

variable {κ : Type u} {ρ : Type v} {Key : Type w}

def Unique (key : κ → Key) (table : Table (Row κ ρ)) : Prop :=
  ((idents table).map key).Nodup

def insertUnique [DecidableEq Key] (key : κ → Key) (table : Table (Row κ ρ)) (txn : ℕ)
    (ident : κ) (value : ρ) : Option (Table (Row κ ρ) × Option ℕ) :=
  match table.entries.find? fun entry => key entry.2.ident == key ident with
  | none => some (insertRow table txn ident value, some table.next)
  | some (_, row) => (row.version.view txn).map fun _ => (table, none)

def Committed (key : κ → Key) (table : Table (Row κ ρ)) (wanted : Key) (rowKey : ℕ) : Prop :=
  ∃ row, (rowKey, row) ∈ table.entries ∧ row.version.committed.isSome = true ∧
    key row.ident = wanted

variable {key : κ → Key} {table after : Table (Row κ ρ)} {txn : ℕ} {wanted : Key}
  {rowKey rowKey' : ℕ}

def committedKeys (key : κ → Key) (table : Table (Row κ ρ)) : List Key :=
  (committedRows table).map fun row => key row.1

theorem mem_committedKeys :
    wanted ∈ committedKeys key table ↔ ∃ rowKey, Committed key table wanted rowKey := by
  constructor
  · intro hwanted
    obtain ⟨row, hrow, hkey⟩ := List.mem_map.mp hwanted
    obtain ⟨entry, hentry, hvalue⟩ := List.mem_filterMap.mp hrow
    obtain ⟨value, hcommitted, rfl⟩ := Option.map_eq_some_iff.mp hvalue
    exact ⟨entry.1, entry.2, hentry, Option.isSome_iff_exists.mpr ⟨value, hcommitted⟩, hkey⟩
  · rintro ⟨rowKey, row, hrow, hcommitted, hkey⟩
    obtain ⟨value, hvalue⟩ := Option.isSome_iff_exists.mp hcommitted
    refine List.mem_map.mpr ⟨(row.ident, value), List.mem_filterMap.mpr ⟨_, hrow, ?_⟩, hkey⟩
    rw [hvalue, Option.map_some]

theorem Unique.eq (hunique : Unique key table) (hleft : Committed key table wanted rowKey)
    (hright : Committed key table wanted rowKey') : rowKey = rowKey' := by
  obtain ⟨left, hleft, -, hleftKey⟩ := hleft
  obtain ⟨right, hright, -, hrightKey⟩ := hright
  rw [Unique, idents, List.map_map] at hunique
  have hsame : (rowKey, left) = (rowKey', right) :=
    List.inj_on_of_nodup_map hunique hleft hright (hleftKey.trans hrightKey.symm)
  exact congrArg Prod.fst hsame

theorem Committed.key_eq {wanted' : Key} (hleft : Committed key table wanted rowKey)
    (hright : Committed key table wanted' rowKey) : wanted = wanted' := by
  obtain ⟨left, hleft, -, hleftKey⟩ := hleft
  obtain ⟨right, hright, -, hrightKey⟩ := hright
  rw [← hleftKey, ← hrightKey, table.row_unique hleft hright]

theorem mem_left_of_forall₂ {Left Right : Type*} {Related : Left → Right → Prop}
    {lefts : List Left} {rights : List Right} (hrelated : List.Forall₂ Related lefts rights)
    {right : Right} (hright : right ∈ rights) : ∃ left ∈ lefts, Related left right := by
  induction hrelated with
  | nil => cases hright
  | cons hfirst hrest ih =>
      rcases List.mem_cons.mp hright with rfl | hright
      · exact ⟨_, List.mem_cons_self, hfirst⟩
      · obtain ⟨left, hleft, hrelated⟩ := ih hright
        exact ⟨left, List.mem_cons_of_mem _ hleft, hrelated⟩

/-- Different keys that are committed have different rows. -/
theorem exists_ownRows {wanted : List Key} (hnodup : wanted.Nodup)
    (hcommitted : ∀ key' ∈ wanted, key' ∈ committedKeys key table) :
    ∃ rowKeys : List ℕ, rowKeys.Nodup ∧
      List.Forall₂ (Committed key table) wanted rowKeys := by
  induction wanted with
  | nil => exact ⟨[], List.nodup_nil, .nil⟩
  | cons first rest ih =>
      obtain ⟨hfresh, hrest⟩ := List.nodup_cons.mp hnodup
      obtain ⟨rowKey, hrow⟩ := mem_committedKeys.mp (hcommitted first List.mem_cons_self)
      obtain ⟨rowKeys, hrowKeys, hrows⟩ :=
        ih hrest fun key' hkey' => hcommitted key' (List.mem_cons_of_mem _ hkey')
      refine ⟨rowKey :: rowKeys, List.nodup_cons.mpr ⟨fun hmem => ?_, hrowKeys⟩, .cons hrow hrows⟩
      obtain ⟨other, hother, hsame⟩ := mem_left_of_forall₂ hrows hmem
      exact hfresh (hrow.key_eq hsame ▸ hother)

/-! ## What a transaction does to the keys -/

theorem committedKeys_insertRow (ident : κ) (value : ρ) :
    committedKeys key (insertRow table txn ident value) = committedKeys key table := by
  rw [committedKeys, committedRows_insertRow, committedKeys]

theorem committedKeys_rollbackRows (table : Table (Row κ ρ)) (txn : ℕ) :
    committedKeys key (rollbackRows table txn) = committedKeys key table := by
  rw [committedKeys, committedRows_rollbackRows, committedKeys]

/-- A commit adds the keys of the rows that the transaction has inserted. -/
theorem mem_committedKeys_commitRows (hinsert : InsertOnly table) :
    wanted ∈ committedKeys key (commitRows table txn) ↔
      wanted ∈ committedKeys key table ∨
        wanted ∈ (writtenBy table txn).map fun row => key row.1 := by
  have hrows := (committedRows_commitRows hinsert txn).map fun row => key row.1
  rw [List.map_append] at hrows
  exact hrows.mem_iff.trans List.mem_append

theorem committedKeys_subset_commitRows (table : Table (Row κ ρ)) (txn : ℕ) :
    committedKeys key table ⊆ committedKeys key (commitRows table txn) := by
  have hidents := List.map_subset key (committed_idents_commitRows table txn)
  rw [List.map_map, List.map_map] at hidents
  exact hidents

theorem Unique.commitRows (hunique : Unique key table) (txn : ℕ) :
    Unique key (commitRows table txn) := by
  rw [Unique, idents_commitRows]
  exact hunique

theorem Unique.rollbackRows (hunique : Unique key table) (txn : ℕ) :
    Unique key (rollbackRows table txn) :=
  hunique.sublist ((idents_rollbackRows table txn).map key)

section Insert

variable [DecidableEq Key] {ident : κ} {value : ρ} {answer : Option ℕ}

/-- The row is inserted and its key is new, or there was a row with its key for the
transaction to see. -/
theorem insertUnique_cases
    (hinsert : insertUnique key table txn ident value = some (after, answer)) :
    (answer = some table.next ∧ after = insertRow table txn ident value ∧
      key ident ∉ (idents table).map key) ∨
    (answer = none ∧ after = table ∧
      ∃ seen ∈ rowsSeen table txn, key seen.2.1 = key ident) := by
  unfold insertUnique at hinsert
  split at hinsert
  · next hfind =>
      cases hinsert
      refine .inl ⟨rfl, rfl, fun hmem => ?_⟩
      obtain ⟨found, hfound, hkey⟩ := List.mem_map.mp hmem
      obtain ⟨entry, hentry, rfl⟩ := List.mem_map.mp hfound
      exact List.find?_eq_none.mp hfind entry hentry (beq_iff_eq.mpr hkey)
  · next rowKey row hfind =>
      obtain ⟨seen, hseen, heq⟩ := Option.map_eq_some_iff.mp hinsert
      cases heq
      have hkey := List.find?_some hfind
      rw [beq_iff_eq] at hkey
      refine .inr ⟨rfl, rfl, (rowKey, row.ident, seen), ?_, hkey⟩
      refine List.mem_filterMap.mpr ⟨_, List.mem_of_find?_eq_some hfind, ?_⟩
      rw [hseen, Option.map_some]

theorem Unique.insertUnique (hunique : Unique key table)
    (hinsert : insertUnique key table txn ident value = some (after, answer)) :
    Unique key after := by
  rcases insertUnique_cases hinsert with ⟨-, rfl, hnew⟩ | ⟨-, rfl, -⟩
  · rw [Unique, idents_insertRow, List.map_append, List.nodup_append]
    refine ⟨hunique, List.nodup_singleton _, ?_⟩
    intro old hold new hmem hsame
    rw [List.map_singleton, List.mem_singleton] at hmem
    exact hnew (hmem ▸ hsame ▸ hold)
  · exact hunique

theorem InsertOnly.insertUnique (honly : InsertOnly table)
    (hinsert : ReadCommitted.insertUnique key table txn ident value = some (after, answer)) :
    InsertOnly after := by
  rcases insertUnique_cases hinsert with ⟨-, rfl, -⟩ | ⟨-, rfl, -⟩
  · exact honly.insertRow ident value
  · exact honly

theorem committedKeys_insertUnique
    (hinsert : insertUnique key table txn ident value = some (after, answer)) :
    committedKeys key after = committedKeys key table := by
  rcases insertUnique_cases hinsert with ⟨-, rfl, -⟩ | ⟨-, rfl, -⟩
  · exact committedKeys_insertRow ident value
  · rfl

/-- Where a transaction that has inserted nothing inserts nothing, the key is committed. -/
theorem committed_of_conflict (hwritten : writtenBy table txn = [])
    (hinsert : insertUnique key table txn ident value = some (after, none)) :
    key ident ∈ committedKeys key table := by
  rcases insertUnique_cases hinsert with ⟨hanswer, -, -⟩ | ⟨-, -, seen, hseen, hkey⟩
  · cases hanswer
  · have hrow := mem_committedRows_of_seen hwritten hseen
    rw [← hkey]
    exact List.mem_map_of_mem hrow

end Insert

end ReadCommitted
