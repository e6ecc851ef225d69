import SentryWms.Core.Table

/-!
# Tables under READ COMMITTED

A row has columns that never change and columns that transactions write. A write is seen
by the transaction that made it and by nobody else until it commits; meanwhile the row is
locked, and a lock is a write of what the row already holds. What a transaction has
changed so far is measured against the committed rows, so that a commit moves a committed
total by exactly that and a rollback moves nothing.
-/

namespace ReadCommitted

open Relational

universe u v

variable {κ : Type u} {ρ : Type v}

/-! ## Versions -/

/-- The columns that are written: as committed, or with what an open transaction has put
in their place. A row that the transaction inserted has nothing committed. -/
inductive Version (ρ : Type v) where
  | stable (value : ρ)
  | written (txn : ℕ) (committed : Option ρ) (latest : ρ)
deriving DecidableEq

namespace Version

/-- What other transactions see. -/
def committed : Version ρ → Option ρ
  | .stable value => some value
  | .written _ committed _ => committed

/-- What the row holds once its writer commits. -/
def latest : Version ρ → ρ
  | .stable value => value
  | .written _ _ latest => latest

/-- What a statement of a transaction sees. -/
def view (txn : ℕ) : Version ρ → Option ρ
  | .stable value => some value
  | .written writer committed latest => if writer = txn then some latest else committed

/-- No other transaction holds the row. -/
def free (txn : ℕ) : Version ρ → Bool
  | .stable _ => true
  | .written writer _ _ => writer == txn

def write (txn : ℕ) (value : ρ) : Version ρ → Version ρ
  | .stable before => .written txn (some before) value
  | .written _ committed _ => .written txn committed value

/-- The transaction commits. -/
def settle (txn : ℕ) : Version ρ → Version ρ
  | .stable value => .stable value
  | .written writer committed latest =>
      if writer = txn then .stable latest else .written writer committed latest

/-- The transaction inserted the row and has not committed. -/
def insertedBy (txn : ℕ) : Version ρ → Bool
  | .written writer none _ => writer == txn
  | _ => false

/-- The transaction rolls back what it wrote. -/
def undo (txn : ℕ) : Version ρ → Version ρ
  | .written writer (some committed) latest =>
      if writer = txn then .stable committed else .written writer (some committed) latest
  | version => version

/-- What the transaction has written, if it holds the row. -/
def heldBy (txn : ℕ) : Version ρ → Option ρ
  | .stable _ => none
  | .written writer _ latest => if writer = txn then some latest else none

/-- By how much the transaction has changed a quantity of the row. -/
def change (txn : ℕ) (quantity : ρ → ℤ) : Version ρ → ℤ
  | .stable _ => 0
  | .written writer committed latest =>
      if writer = txn then quantity latest - committed.elim 0 quantity else 0

/-- The quantity of the row as committed. -/
def settled (quantity : ρ → ℤ) (version : Version ρ) : ℤ :=
  version.committed.elim 0 quantity

variable {txn other : ℕ} {quantity : ρ → ℤ} {value : ρ} {version : Version ρ}

theorem settled_write : (version.write txn value).settled quantity = version.settled quantity := by
  cases version <;> rfl

theorem change_write (hfree : version.free txn = true) :
    (version.write txn value).change txn quantity =
      version.change txn quantity + (quantity value - quantity version.latest) := by
  cases version with
  | stable before => simp [write, change, latest]
  | written writer committed before =>
      have hwriter : writer = txn := beq_iff_eq.mp hfree
      simp only [write, change, latest, hwriter, if_true]
      ring

theorem change_write_other (hfree : version.free txn = true) (hother : other ≠ txn) :
    (version.write txn value).change other quantity = version.change other quantity := by
  cases version with
  | stable before => simp [write, change, Ne.symm hother]
  | written writer committed before =>
      have hwriter : writer = txn := beq_iff_eq.mp hfree
      simp [write, change, hwriter, Ne.symm hother]

theorem heldBy_write_other (hfree : version.free txn = true) (hother : other ≠ txn) :
    (version.write txn value).heldBy other = version.heldBy other := by
  cases version with
  | stable before => simp [write, heldBy, Ne.symm hother]
  | written writer committed before =>
      have hwriter : writer = txn := beq_iff_eq.mp hfree
      simp [write, heldBy, hwriter, Ne.symm hother]

theorem heldBy_write : (version.write txn value).heldBy txn = some value := by
  cases version <;> simp [write, heldBy]

theorem settled_settle :
    (version.settle txn).settled quantity =
      version.settled quantity + version.change txn quantity := by
  cases version with
  | stable value => simp [settle, settled, change]
  | written writer committed latest =>
      by_cases hwriter : writer = txn
      · simp [settle, settled, change, hwriter, Version.committed]
      · simp [settle, settled, change, hwriter]

theorem change_settle : (version.settle txn).change txn quantity = 0 := by
  cases version with
  | stable value => rfl
  | written writer committed latest =>
      by_cases hwriter : writer = txn <;> simp [settle, change, hwriter]

theorem change_settle_other (hother : other ≠ txn) :
    (version.settle txn).change other quantity = version.change other quantity := by
  cases version with
  | stable value => rfl
  | written writer committed latest =>
      by_cases hwriter : writer = txn
      · simp [settle, change, hwriter, Ne.symm hother]
      · simp [settle, hwriter]

theorem heldBy_settle_other (hother : other ≠ txn) :
    (version.settle txn).heldBy other = version.heldBy other := by
  cases version with
  | stable value => rfl
  | written writer committed latest =>
      by_cases hwriter : writer = txn
      · simp [settle, heldBy, hwriter, Ne.symm hother]
      · simp [settle, hwriter]

theorem settled_of_insertedBy (hinserted : version.insertedBy txn = true) :
    version.settled quantity = 0 := by
  cases version with
  | stable value => cases hinserted
  | written writer committed latest =>
      cases committed with
      | none => rfl
      | some value => cases hinserted

theorem change_of_insertedBy (hinserted : version.insertedBy txn = true)
    (hother : other ≠ txn) : version.change other quantity = 0 := by
  cases version with
  | stable value => cases hinserted
  | written writer committed latest =>
      cases committed with
      | none =>
          have hwriter : writer = txn := beq_iff_eq.mp hinserted
          simp [change, hwriter, Ne.symm hother]
      | some value => cases hinserted

theorem heldBy_of_insertedBy (hinserted : version.insertedBy txn = true)
    (hother : other ≠ txn) : version.heldBy other = none := by
  cases version with
  | stable value => cases hinserted
  | written writer committed latest =>
      cases committed with
      | none =>
          have hwriter : writer = txn := beq_iff_eq.mp hinserted
          simp [heldBy, hwriter, Ne.symm hother]
      | some value => cases hinserted

theorem settled_undo : (version.undo txn).settled quantity = version.settled quantity := by
  cases version with
  | stable value => rfl
  | written writer committed latest =>
      cases committed with
      | none => rfl
      | some value =>
          by_cases hwriter : writer = txn <;> simp [undo, settled, hwriter, Version.committed]

theorem change_undo (hinserted : version.insertedBy txn = false) :
    (version.undo txn).change txn quantity = 0 := by
  cases version with
  | stable value => rfl
  | written writer committed latest =>
      cases committed with
      | none =>
          have hwriter : writer ≠ txn := beq_eq_false_iff_ne.mp hinserted
          simp [undo, change, hwriter]
      | some value => by_cases hwriter : writer = txn <;> simp [undo, change, hwriter]

theorem change_undo_other (hother : other ≠ txn) :
    (version.undo txn).change other quantity = version.change other quantity := by
  cases version with
  | stable value => rfl
  | written writer committed latest =>
      cases committed with
      | none => rfl
      | some value =>
          by_cases hwriter : writer = txn
          · simp [undo, change, hwriter, Ne.symm hother]
          · simp [undo, hwriter]

theorem heldBy_undo_other (hother : other ≠ txn) :
    (version.undo txn).heldBy other = version.heldBy other := by
  cases version with
  | stable value => rfl
  | written writer committed latest =>
      cases committed with
      | none => rfl
      | some value =>
          by_cases hwriter : writer = txn
          · simp [undo, heldBy, hwriter, Ne.symm hother]
          · simp [undo, hwriter]

end Version

/-! ## Rows -/

/-- A row: the columns that never change, and the ones that are written. -/
structure Row (κ : Type u) (ρ : Type v) where
  ident : κ
  version : Version ρ
deriving DecidableEq

def ofCommitted (rows : List (κ × ρ)) : Table (Row κ ρ) :=
  .ofRows (rows.map fun row => ⟨row.1, .stable row.2⟩)

/-- The rows a statement sees. -/
def rowsSeen (table : Table (Row κ ρ)) (txn : ℕ) : List (ℕ × κ × ρ) :=
  table.entries.filterMap fun entry =>
    (entry.2.version.view txn).map fun value => (entry.1, entry.2.ident, value)

/-- What a transaction holds of a row. -/
def held (table : Table (Row κ ρ)) (txn key : ℕ) : Option (κ × ρ) :=
  (table.get? key).bind fun row => (row.version.heldBy txn).map fun value => (row.ident, value)

/-- Write the rows that a condition on their keys and fixed columns selects. -/
def writeWhere (table : Table (Row κ ρ)) (txn : ℕ) (cond : ℕ → κ → Bool) (change : ρ → ρ) :
    Table (Row κ ρ) :=
  table.mapRows fun key row =>
    if cond key row.ident then
      { row with version := row.version.write txn (change row.version.latest) }
    else row

/-- No other transaction holds one of the rows. -/
def allFree (table : Table (Row κ ρ)) (txn : ℕ) (cond : ℕ → κ → Bool) : Bool :=
  table.entries.all fun entry => !cond entry.1 entry.2.ident || entry.2.version.free txn

def writeKey (table : Table (Row κ ρ)) (txn key : ℕ) (change : ρ → ρ) :
    Option (Table (Row κ ρ)) :=
  if allFree table txn fun key' _ => key' == key then
    some (writeWhere table txn (fun key' _ => key' == key) change)
  else none

def rowByKey (table : Table (Row κ ρ)) (txn key : ℕ) : Option (κ × ρ) :=
  (table.get? key).bind fun row =>
    (row.version.view txn).map fun value => (row.ident, value)

def insertRow (table : Table (Row κ ρ)) (txn : ℕ) (ident : κ) (value : ρ) :
    Table (Row κ ρ) :=
  table.insert ⟨ident, .written txn none value⟩

def commitRows (table : Table (Row κ ρ)) (txn : ℕ) : Table (Row κ ρ) :=
  table.mapRows fun _ row => { row with version := row.version.settle txn }

/-- The transaction rolls back. -/
def rollbackRows (table : Table (Row κ ρ)) (txn : ℕ) : Table (Row κ ρ) :=
  (table.deleteWhere fun row => row.version.insertedBy txn).mapRows
    fun _ row => { row with version := row.version.undo txn }

def committedRows (table : Table (Row κ ρ)) : List (κ × ρ) :=
  table.entries.filterMap fun entry =>
    entry.2.version.committed.map fun value => (entry.2.ident, value)

def writtenBy (table : Table (Row κ ρ)) (txn : ℕ) : List (κ × ρ) :=
  table.entries.filterMap fun entry =>
    (entry.2.version.heldBy txn).map fun value => (entry.2.ident, value)

def committedTotal (quantity : κ → ρ → ℤ) (table : Table (Row κ ρ)) : ℤ :=
  table.total fun _ row => row.version.settled (quantity row.ident)

/-- By how much a transaction has changed it. -/
def changeTotal (quantity : κ → ρ → ℤ) (table : Table (Row κ ρ)) (txn : ℕ) : ℤ :=
  table.total fun _ row => row.version.change txn (quantity row.ident)

variable {table : Table (Row κ ρ)} {txn other key : ℕ} {quantity : κ → ρ → ℤ}

/-! ## Writing rows -/

section Writing

variable {cond : ℕ → κ → Bool} (hfree : allFree table txn cond = true) (change : ρ → ρ)

theorem committedTotal_writeWhere :
    committedTotal quantity (writeWhere table txn cond change) =
      committedTotal quantity table := by
  rw [committedTotal, writeWhere, Table.total_mapRows]
  apply table.total_congr
  intro key row _
  split
  · exact Version.settled_write
  · rfl

include hfree

theorem free_of_allFree {row : Row κ ρ} (hrow : (key, row) ∈ table.entries)
    (hcond : cond key row.ident = true) : row.version.free txn = true := by
  have hentry := List.all_eq_true.mp hfree _ hrow
  rw [hcond, Bool.not_true, Bool.false_or] at hentry
  exact hentry

theorem changeTotal_writeWhere :
    changeTotal quantity (writeWhere table txn cond change) txn =
      changeTotal quantity table txn + table.total fun key row =>
        if cond key row.ident then
          quantity row.ident (change row.version.latest) - quantity row.ident row.version.latest
        else 0 := by
  rw [changeTotal, writeWhere, Table.total_mapRows, changeTotal, ← Table.total_add]
  apply table.total_congr
  intro key row hrow
  split
  · next hcond => exact Version.change_write (free_of_allFree hfree hrow hcond)
  · exact (add_zero _).symm

theorem changeTotal_writeWhere_other (hother : other ≠ txn) :
    changeTotal quantity (writeWhere table txn cond change) other =
      changeTotal quantity table other := by
  rw [changeTotal, writeWhere, Table.total_mapRows]
  apply table.total_congr
  intro key row hrow
  split
  · next hcond => exact Version.change_write_other (free_of_allFree hfree hrow hcond) hother
  · rfl

theorem held_writeWhere_other (hother : other ≠ txn) :
    held (writeWhere table txn cond change) other = held table other := by
  funext key
  rw [held, held, writeWhere, Table.get?_mapRows]
  cases hget : table.get? key with
  | none => rfl
  | some row =>
      rw [Option.map_some, Option.bind_some, Option.bind_some]
      split
      · next hcond =>
          have hrow := table.get?_eq_some.mp hget
          rw [Version.heldBy_write_other (free_of_allFree hfree hrow hcond) hother]
      · rfl

end Writing

variable {cond : ℕ → κ → Bool}

theorem held_writeWhere {row : Row κ ρ} (hrow : (key, row) ∈ table.entries)
    (hcond : cond key row.ident = true) (change : ρ → ρ) :
    held (writeWhere table txn cond change) txn key =
      some (row.ident, change row.version.latest) := by
  rw [held, writeWhere, Table.get?_mapRows, table.get?_eq_some.mpr hrow]
  simp [Version.heldBy_write, hcond]

theorem total_key {row : Row κ ρ} (hrow : (key, row) ∈ table.entries)
    (value : Row κ ρ → ℤ) :
    (table.total fun key' row => if key' == key then value row else 0) = value row := by
  rw [← table.total_single hrow fun _ row => value row]
  apply table.total_congr
  intro key' row' _
  simp only [beq_iff_eq]

/-- A held row is free for its holder, and shows what is held. -/
theorem mem_of_held {ident : κ} {value : ρ} (hheld : held table txn key = some (ident, value)) :
    ∃ row, (key, row) ∈ table.entries ∧ row.ident = ident ∧ row.version.latest = value ∧
      row.version.free txn = true := by
  rw [held, Option.bind_eq_some_iff] at hheld
  obtain ⟨row, hget, hvalue⟩ := hheld
  refine ⟨row, table.get?_eq_some.mp hget, ?_⟩
  cases hversion : row.version with
  | stable before => simp [hversion, Version.heldBy] at hvalue
  | written writer committed latest =>
      by_cases hwriter : writer = txn
      · simp only [hversion, Version.heldBy, if_pos hwriter, Option.map_some,
          Option.some.injEq, Prod.mk.injEq] at hvalue
        exact ⟨hvalue.1, hvalue.2, beq_iff_eq.mpr hwriter⟩
      · simp [hversion, Version.heldBy, hwriter] at hvalue

/-! ## Inserting a row -/

theorem committedTotal_insertRow (ident : κ) (value : ρ) :
    committedTotal quantity (insertRow table txn ident value) = committedTotal quantity table := by
  rw [committedTotal, insertRow, Table.total_insert]
  exact add_zero _

theorem changeTotal_insertRow (ident : κ) (value : ρ) :
    changeTotal quantity (insertRow table txn ident value) txn =
      changeTotal quantity table txn + quantity ident value := by
  rw [changeTotal, insertRow, Table.total_insert]
  simp [Version.change, changeTotal]

theorem changeTotal_insertRow_other (hother : other ≠ txn) (ident : κ) (value : ρ) :
    changeTotal quantity (insertRow table txn ident value) other =
      changeTotal quantity table other := by
  rw [changeTotal, insertRow, Table.total_insert]
  simp [Version.change, changeTotal, Ne.symm hother]

theorem held_insertRow_other (hother : other ≠ txn) (ident : κ) (value : ρ) :
    held (insertRow table txn ident value) other = held table other := by
  funext key
  rw [held, held, insertRow]
  by_cases hkey : key = table.next
  · have hnone : table.get? table.next = none := by
      rw [Option.eq_none_iff_forall_ne_some]
      intro row hrow
      exact table.next_not_mem row (table.get?_eq_some.mp hrow)
    rw [hkey, Table.get?_insert_self, hnone]
    simp [Version.heldBy, Ne.symm hother]
  · rw [Table.get?_insert_of_ne _ hkey]

/-! ## The end of a transaction -/

theorem committedTotal_commitRows (table : Table (Row κ ρ)) (txn : ℕ) :
    committedTotal quantity (commitRows table txn) =
      committedTotal quantity table + changeTotal quantity table txn := by
  rw [committedTotal, commitRows, Table.total_mapRows, committedTotal, changeTotal,
    ← Table.total_add]
  exact table.total_congr fun key row _ => Version.settled_settle

theorem changeTotal_commitRows (table : Table (Row κ ρ)) (txn : ℕ) :
    changeTotal quantity (commitRows table txn) txn = 0 := by
  rw [changeTotal, commitRows, Table.total_mapRows]
  exact table.total_eq_zero fun key row _ => Version.change_settle

theorem changeTotal_commitRows_other (table : Table (Row κ ρ)) (hother : other ≠ txn) :
    changeTotal quantity (commitRows table txn) other = changeTotal quantity table other := by
  rw [changeTotal, commitRows, Table.total_mapRows]
  exact table.total_congr fun key row _ => Version.change_settle_other hother

theorem held_commitRows_other (table : Table (Row κ ρ)) (hother : other ≠ txn) :
    held (commitRows table txn) other = held table other := by
  funext key
  rw [held, held, commitRows, Table.get?_mapRows]
  cases table.get? key with
  | none => rfl
  | some row => simp [Version.heldBy_settle_other hother]

theorem committedTotal_rollbackRows (table : Table (Row κ ρ)) (txn : ℕ) :
    committedTotal quantity (rollbackRows table txn) = committedTotal quantity table := by
  rw [committedTotal, rollbackRows, Table.total_mapRows, Table.total_deleteWhere]
  apply table.total_congr
  intro key row _
  split
  · next hinserted => rw [Version.settled_of_insertedBy hinserted]
  · exact Version.settled_undo

theorem changeTotal_rollbackRows (table : Table (Row κ ρ)) (txn : ℕ) :
    changeTotal quantity (rollbackRows table txn) txn = 0 := by
  rw [changeTotal, rollbackRows, Table.total_mapRows, Table.total_deleteWhere]
  apply table.total_eq_zero
  intro key row _
  split
  · rfl
  · next hinserted => exact Version.change_undo (Bool.eq_false_of_not_eq_true hinserted)

theorem changeTotal_rollbackRows_other (table : Table (Row κ ρ)) (hother : other ≠ txn) :
    changeTotal quantity (rollbackRows table txn) other = changeTotal quantity table other := by
  rw [changeTotal, rollbackRows, Table.total_mapRows, Table.total_deleteWhere]
  apply table.total_congr
  intro key row _
  split
  · next hinserted => rw [Version.change_of_insertedBy hinserted hother]
  · exact Version.change_undo_other hother

theorem get?_deleteWhere (table : Table ρ) (cond : ρ → Bool) (key : ℕ) :
    (table.deleteWhere cond).get? key = (table.get? key).filter fun row => !cond row := by
  apply Option.ext
  intro row
  rw [Table.get?_eq_some, Table.mem_deleteWhere, Option.filter_eq_some_iff, Table.get?_eq_some,
    Bool.not_eq_true']

theorem held_rollbackRows_other (table : Table (Row κ ρ)) (hother : other ≠ txn) :
    held (rollbackRows table txn) other = held table other := by
  funext key
  rw [held, held, rollbackRows, Table.get?_mapRows, get?_deleteWhere]
  cases table.get? key with
  | none => rfl
  | some row =>
      rw [Option.filter_some]
      split
      · simp [Version.heldBy_undo_other hother]
      · next hinserted =>
          rw [Bool.not_eq_true, Bool.not_eq_false'] at hinserted
          simp [Version.heldBy_of_insertedBy hinserted hother]

/-! ## Rows that are only inserted -/

/-- The row was committed, and its columns are being written again. -/
def Version.overwrites : Version ρ → Bool
  | .written _ (some _) _ => true
  | _ => false

/-- The columns that never change, row by row. -/
def idents (table : Table (Row κ ρ)) : List κ :=
  table.entries.map fun entry => entry.2.ident

/-- No row is written once it is committed. -/
def InsertOnly (table : Table (Row κ ρ)) : Prop :=
  ∀ entry ∈ table.entries, entry.2.version.overwrites = false

section Versions

variable {version : Version ρ} {value : ρ}

theorem Version.committed_write : (version.write txn value).committed = version.committed := by
  cases version <;> rfl

theorem Version.overwrites_settle (hinsert : version.overwrites = false) :
    (version.settle txn).overwrites = false := by
  cases version with
  | stable value => rfl
  | written writer committed latest =>
      rw [settle]
      split
      · rfl
      · exact hinsert

theorem Version.overwrites_undo (hinsert : version.overwrites = false) :
    (version.undo txn).overwrites = false := by
  cases version with
  | stable value => rfl
  | written writer committed latest =>
      cases committed with
      | none => rfl
      | some committed => cases hinsert

theorem Version.overwrites_write (hinsert : version.overwrites = false)
    (hheld : (version.heldBy txn).isSome = true) :
    (version.write txn value).overwrites = false := by
  cases version with
  | stable value => cases hheld
  | written writer committed latest =>
      cases committed with
      | none => rfl
      | some committed => cases hinsert

theorem Version.heldBy_settle : (version.settle txn).heldBy txn = none := by
  cases version with
  | stable value => rfl
  | written writer committed latest =>
      by_cases hwriter : writer = txn <;> simp [settle, heldBy, hwriter]

theorem Version.heldBy_undo (hinserted : version.insertedBy txn = false) :
    (version.undo txn).heldBy txn = none := by
  cases version with
  | stable value => rfl
  | written writer committed latest =>
      cases committed with
      | none =>
          have hwriter : writer ≠ txn := beq_eq_false_iff_ne.mp hinserted
          simp [undo, heldBy, hwriter]
      | some value => by_cases hwriter : writer = txn <;> simp [undo, heldBy, hwriter]

theorem Version.committed_of_insertedBy (hinserted : version.insertedBy txn = true) :
    version.committed = none := by
  cases version with
  | stable value => cases hinserted
  | written writer committed latest =>
      cases committed with
      | none => rfl
      | some value => cases hinserted

theorem Version.committed_undo : (version.undo txn).committed = version.committed := by
  cases version with
  | stable value => rfl
  | written writer committed latest =>
      cases committed with
      | none => rfl
      | some value => by_cases hwriter : writer = txn <;> simp [undo, hwriter, committed]

end Versions

/-! ### What is committed -/

theorem committedRows_writeWhere (change : ρ → ρ) :
    committedRows (writeWhere table txn cond change) = committedRows table := by
  simp only [committedRows, writeWhere, Table.mapRows, List.filterMap_map]
  apply List.filterMap_congr
  intro entry _
  dsimp only [Function.comp]
  split
  · rw [Version.committed_write]
  · rfl

theorem committedRows_insertRow (ident : κ) (value : ρ) :
    committedRows (insertRow table txn ident value) = committedRows table := by
  simp [committedRows, insertRow, Table.insert, Version.committed]

theorem committedRows_rollbackRows (table : Table (Row κ ρ)) (txn : ℕ) :
    committedRows (rollbackRows table txn) = committedRows table := by
  simp only [committedRows, rollbackRows, Table.mapRows, Table.deleteWhere,
    List.filterMap_map, List.filterMap_filter]
  apply List.filterMap_congr
  intro entry _
  dsimp only [Function.comp]
  cases hinserted : entry.2.version.insertedBy txn with
  | true => simp [Version.committed_of_insertedBy hinserted]
  | false => simp [Version.committed_undo]

/-- A commit adds what the transaction has inserted. -/
theorem committedRows_commitRows (hinsert : InsertOnly table) (txn : ℕ) :
    (committedRows (commitRows table txn)).Perm
      (committedRows table ++ writtenBy table txn) := by
  simp only [committedRows, commitRows, Table.mapRows, writtenBy, List.filterMap_map]
  rw [InsertOnly] at hinsert
  generalize table.entries = entries at hinsert
  induction entries with
  | nil => exact List.Perm.nil
  | cons entry rest ih =>
      have hrest := ih fun entry hentry => hinsert entry (List.mem_cons_of_mem _ hentry)
      have hhead := hinsert entry List.mem_cons_self
      cases hversion : entry.2.version with
      | stable value =>
          simp only [List.filterMap_cons, Function.comp, hversion, Version.settle,
            Version.committed, Version.heldBy, Option.map_some, Option.map_none,
            List.cons_append]
          exact hrest.cons _
      | written writer committed latest =>
          cases committed with
          | some value =>
              rw [hversion] at hhead
              cases hhead
          | none =>
              by_cases hwriter : writer = txn
              · simp only [List.filterMap_cons, Function.comp, hversion, Version.settle,
                  Version.committed, Version.heldBy, if_pos hwriter, Option.map_some,
                  Option.map_none]
                exact (hrest.cons _).trans List.perm_middle.symm
              · simp only [List.filterMap_cons, Function.comp, hversion, Version.settle,
                  Version.committed, Version.heldBy, if_neg hwriter, Option.map_none]
                exact hrest

/-- A row that is committed stays there. -/
theorem committed_idents_commitRows (table : Table (Row κ ρ)) (txn : ℕ) :
    (committedRows table).map Prod.fst ⊆ (committedRows (commitRows table txn)).map Prod.fst := by
  intro ident hident
  obtain ⟨row, hrow, rfl⟩ := List.mem_map.mp hident
  obtain ⟨entry, hentry, hcommitted⟩ := List.mem_filterMap.mp hrow
  obtain ⟨value, hvalue, rfl⟩ := Option.map_eq_some_iff.mp hcommitted
  have hstays : (entry.2.version.settle txn).committed.isSome = true := by
    cases hversion : entry.2.version with
    | stable before => rfl
    | written writer committed latest =>
        rw [Version.settle]
        split
        · rfl
        · rw [← hversion, hvalue]
          rfl
  obtain ⟨value', hvalue'⟩ := Option.isSome_iff_exists.mp hstays
  refine List.mem_map.mpr ⟨(entry.2.ident, value'), ?_, rfl⟩
  refine List.mem_filterMap.mpr
    ⟨(entry.1, { entry.2 with version := entry.2.version.settle txn }), ?_, ?_⟩
  · exact (Table.mem_mapRows _).mpr ⟨entry.2, hentry, rfl⟩
  · rw [Option.map_eq_some_iff]
    exact ⟨value', hvalue', rfl⟩

/-- A transaction that has written nothing sees what is committed. -/
theorem mem_committedRows_of_seen (hwritten : writtenBy table txn = []) {ident : κ} {value : ρ}
    (hseen : (key, ident, value) ∈ rowsSeen table txn) :
    (ident, value) ∈ committedRows table := by
  obtain ⟨entry, hentry, hview⟩ := List.mem_filterMap.mp hseen
  obtain ⟨value', hvalue, heq⟩ := Option.map_eq_some_iff.mp hview
  cases heq
  refine List.mem_filterMap.mpr ⟨entry, hentry, ?_⟩
  have hheld := List.filterMap_eq_nil_iff.mp hwritten entry hentry
  rw [Option.map_eq_none_iff] at hheld
  cases hversion : entry.2.version with
  | stable before =>
      rw [hversion] at hvalue
      cases hvalue
      rfl
  | written writer committed latest =>
      have hwriter : writer ≠ txn := by
        intro hwriter
        simp [hversion, Version.heldBy, hwriter] at hheld
      simp only [hversion, Version.view, if_neg hwriter] at hvalue
      simp [Version.committed, hvalue]

/-! ### What a transaction has written -/

theorem writtenBy_insertRow (ident : κ) (value : ρ) :
    writtenBy (insertRow table txn ident value) txn =
      writtenBy table txn ++ [(ident, value)] := by
  simp [writtenBy, insertRow, Table.insert, Version.heldBy]

theorem writtenBy_insertRow_other (hother : other ≠ txn) (ident : κ) (value : ρ) :
    writtenBy (insertRow table txn ident value) other = writtenBy table other := by
  simp [writtenBy, insertRow, Table.insert, Version.heldBy, Ne.symm hother]

theorem writtenBy_commitRows (table : Table (Row κ ρ)) (txn : ℕ) :
    writtenBy (commitRows table txn) txn = [] := by
  simp only [writtenBy, commitRows, Table.mapRows, List.filterMap_map]
  apply List.filterMap_eq_nil_iff.mpr
  intro entry _
  simp [Version.heldBy_settle]

theorem writtenBy_commitRows_other (table : Table (Row κ ρ)) (hother : other ≠ txn) :
    writtenBy (commitRows table txn) other = writtenBy table other := by
  simp only [writtenBy, commitRows, Table.mapRows, List.filterMap_map]
  apply List.filterMap_congr
  intro entry _
  simp [Version.heldBy_settle_other hother]

theorem writtenBy_rollbackRows (table : Table (Row κ ρ)) (txn : ℕ) :
    writtenBy (rollbackRows table txn) txn = [] := by
  simp only [writtenBy, rollbackRows, Table.mapRows, Table.deleteWhere, List.filterMap_map]
  apply List.filterMap_eq_nil_iff.mpr
  intro entry hentry
  have hinserted := (List.mem_filter.mp hentry).2
  rw [Bool.not_eq_true'] at hinserted
  simp [Version.heldBy_undo hinserted]

theorem writtenBy_rollbackRows_other (table : Table (Row κ ρ)) (hother : other ≠ txn) :
    writtenBy (rollbackRows table txn) other = writtenBy table other := by
  simp only [writtenBy, rollbackRows, Table.mapRows, Table.deleteWhere,
    List.filterMap_map, List.filterMap_filter]
  apply List.filterMap_congr
  intro entry _
  dsimp only [Function.comp]
  cases hinserted : entry.2.version.insertedBy txn with
  | true => simp [Version.heldBy_of_insertedBy hinserted hother]
  | false => simp [Version.heldBy_undo_other hother]

theorem writtenBy_writeWhere_other (hfree : allFree table txn cond = true) (change : ρ → ρ)
    (hother : other ≠ txn) :
    writtenBy (writeWhere table txn cond change) other = writtenBy table other := by
  simp only [writtenBy, writeWhere, Table.mapRows, List.filterMap_map]
  apply List.filterMap_congr
  intro entry hentry
  dsimp only [Function.comp]
  split
  · next hcond =>
      rw [Version.heldBy_write_other (free_of_allFree hfree hentry hcond) hother]
  · rfl

/-- A transaction that writes only rows it has written before writes them again. -/
theorem writtenBy_writeWhere {cond : κ → Bool} (change : ρ → ρ)
    (hown : ∀ entry ∈ table.entries, cond entry.2.ident = true →
      (entry.2.version.heldBy txn).isSome = true) :
    writtenBy (writeWhere table txn (fun _ => cond) change) txn =
      (writtenBy table txn).map fun row =>
        if cond row.1 then (row.1, change row.2) else row := by
  simp only [writtenBy, writeWhere, Table.mapRows, List.filterMap_map, List.map_filterMap]
  apply List.filterMap_congr
  intro entry hentry
  dsimp only [Function.comp]
  by_cases hcond : cond entry.2.ident = true
  · have hheld := hown entry hentry hcond
    rw [if_pos hcond]
    cases hversion : entry.2.version with
    | stable value =>
        rw [hversion] at hheld
        cases hheld
    | written writer committed latest =>
        rw [hversion, Version.heldBy] at hheld
        split at hheld
        · next hwriter =>
            simp [Version.write, Version.heldBy, Version.latest, hwriter, hcond]
        · cases hheld
  · rw [if_neg hcond]
    cases entry.2.version.heldBy txn with
    | none => rfl
    | some value => simp [hcond]

/-! ### Which rows there are -/

theorem idents_writeWhere (change : ρ → ρ) :
    idents (writeWhere table txn cond change) = idents table := by
  simp only [idents, writeWhere, Table.mapRows, List.map_map]
  apply List.map_congr_left
  intro entry _
  dsimp only [Function.comp]
  split <;> rfl

theorem idents_insertRow (ident : κ) (value : ρ) :
    idents (insertRow table txn ident value) = idents table ++ [ident] := by
  simp [idents, insertRow, Table.insert]

theorem idents_commitRows (table : Table (Row κ ρ)) (txn : ℕ) :
    idents (commitRows table txn) = idents table := by
  simp [idents, commitRows, Table.mapRows, Function.comp_def]

theorem idents_rollbackRows (table : Table (Row κ ρ)) (txn : ℕ) :
    (idents (rollbackRows table txn)).Sublist (idents table) := by
  simp only [idents, rollbackRows, Table.mapRows, Table.deleteWhere, List.map_map]
  exact List.filter_sublist.map _

theorem committedRows_idents (table : Table (Row κ ρ)) :
    ((committedRows table).map Prod.fst).Sublist (idents table) := by
  rw [committedRows, idents, List.map_filterMap]
  induction table.entries with
  | nil => exact List.Sublist.slnil
  | cons entry rest ih =>
      rw [List.filterMap_cons, List.map_cons]
      cases entry.2.version.committed with
      | none => exact ih.cons _
      | some value => exact ih.cons_cons _

/-- So are the ones that a transaction has written. -/
theorem writtenBy_idents (table : Table (Row κ ρ)) {row : κ × ρ}
    (hrow : row ∈ writtenBy table txn) :
    ∃ entry ∈ table.entries, entry.2.ident = row.1 ∧
      (entry.2.version.heldBy txn).isSome = true := by
  obtain ⟨entry, hentry, hheld⟩ := List.mem_filterMap.mp hrow
  obtain ⟨value, hvalue, hrow⟩ := Option.map_eq_some_iff.mp hheld
  refine ⟨entry, hentry, ?_, ?_⟩
  · rw [← hrow]
  · rw [hvalue]
    rfl

/-! ### Insertion is kept -/

theorem InsertOnly.insertRow (hinsert : InsertOnly table) (ident : κ) (value : ρ) :
    InsertOnly (insertRow table txn ident value) := by
  intro entry hentry
  rcases table.mem_insert.mp hentry with hold | hnew
  · exact hinsert entry hold
  · rw [hnew]
    rfl

theorem InsertOnly.commitRows (hinsert : InsertOnly table) (txn : ℕ) :
    InsertOnly (commitRows table txn) := by
  intro entry hentry
  obtain ⟨before, hbefore, hafter⟩ := (Table.mem_mapRows _).mp hentry
  rw [← hafter]
  exact Version.overwrites_settle (hinsert _ hbefore)

theorem InsertOnly.rollbackRows (hinsert : InsertOnly table) (txn : ℕ) :
    InsertOnly (rollbackRows table txn) := by
  intro entry hentry
  obtain ⟨before, hbefore, hafter⟩ := (Table.mem_mapRows _).mp hentry
  rw [← hafter]
  exact Version.overwrites_undo (hinsert _ ((table.mem_deleteWhere).mp hbefore).1)

theorem InsertOnly.writeWhere (hinsert : InsertOnly table) {cond : κ → Bool} (change : ρ → ρ)
    (hown : ∀ entry ∈ table.entries, cond entry.2.ident = true →
      (entry.2.version.heldBy txn).isSome = true) :
    InsertOnly (writeWhere table txn (fun _ => cond) change) := by
  intro entry hentry
  obtain ⟨before, hbefore, hafter⟩ := (Table.mem_mapRows _).mp hentry
  rw [← hafter]
  split
  · next hcond =>
      exact Version.overwrites_write (hinsert _ hbefore) (hown _ hbefore hcond)
  · exact hinsert _ hbefore

end ReadCommitted
