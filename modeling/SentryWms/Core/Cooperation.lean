import SentryWms.Core.ReadCommitted
import SentryWms.Core.Session

/-!
# Sessions that rely on each other

What a session relies on may be kept by the others only because they rely on something
themselves: a lock keeps others away because they take it too. The rule for runs then
asks that a step of one session, taken where that session stands, leaves the others where
they stand. Advisory locks are the common case: a lock has one holder.
-/

namespace Interleaving

open Transition

universe u v w x

variable {Db : Type x} {Statement : Type u} {Answer : Statement → Type v} {Reply : Type w}
  {Request : Type*}

/-- What one session does, where it stands, keeps the invariant and leaves the others
where they stand. -/
structure Cooperating (engine : Engine Db Statement Answer)
    (program : Request → Program Statement Answer Reply)
    (allowed : Db → ℕ → Statement → Prop) (Inv : Db → List Reply → Prop)
    (Stands : Db → ℕ → Option (Program Statement Answer Reply) → Prop) : Prop where
  begins : ∀ {db replies txn}, Inv db replies → Stands db txn none →
    ∀ request, Stands db txn (some (program request))
  performs : ∀ {db replies txn statement next result}, Inv db replies →
    Stands db txn (some (.exec statement next)) → allowed db txn statement →
    engine.perform db txn statement = some result →
    Inv result.1 replies ∧ Stands result.1 txn (some (next result.2)) ∧
      ∀ other ≠ txn, ∀ session, Stands db other session → Stands result.1 other session
  commits : ∀ {db replies txn value}, Inv db replies →
    Stands db txn (some (.reply true value)) →
    Inv (engine.commit db txn) (replies ++ [value]) ∧ Stands (engine.commit db txn) txn none ∧
      ∀ other ≠ txn, ∀ session, Stands db other session →
        Stands (engine.commit db txn) other session
  refuses : ∀ {db replies txn value}, Inv db replies →
    Stands db txn (some (.reply false value)) →
    Inv (engine.rollback db txn) (replies ++ [value])
  rollsBack : ∀ {db replies txn session}, Inv db replies → Stands db txn (some session) →
    Inv (engine.rollback db txn) replies ∧ Stands (engine.rollback db txn) txn none ∧
      ∀ other ≠ txn, ∀ session, Stands db other session →
        Stands (engine.rollback db txn) other session

/-- The invariant of the database, and where every session stands. -/
structure Together (Inv : Db → List Reply → Prop)
    (Stands : Db → ℕ → Option (Program Statement Answer Reply) → Prop)
    (system : System Db Statement Answer Reply) : Prop where
  inv : Inv system.db system.replies
  stands : ∀ txn, Stands system.db txn (system.sessions txn)

variable {engine : Engine Db Statement Answer}
  {program : Request → Program Statement Answer Reply}
  {allowed : Db → ℕ → Statement → Prop} {Inv : Db → List Reply → Prop}
  {Stands : Db → ℕ → Option (Program Statement Answer Reply) → Prop}
  {system after : System Db Statement Answer Reply}

/-- One session went on, and the others are where they were. -/
theorem Together.move (htogether : Together Inv Stands system) {db : Db}
    {replies : List Reply} {txn : ℕ} {session : Option (Program Statement Answer Reply)}
    (hinv : Inv db replies) (hown : Stands db txn session)
    (hothers : ∀ other ≠ txn, ∀ session, Stands system.db other session →
      Stands db other session) :
    Together Inv Stands ⟨db, setSession system.sessions txn session, replies⟩ where
  inv := hinv
  stands := by
    intro other
    dsimp only
    by_cases hother : other = txn
    · rw [setSession, if_pos hother, hother]
      exact hown
    · rw [setSession, if_neg hother]
      exact hothers other hother _ (htogether.stands other)

theorem step_together (hrule : Cooperating engine program allowed Inv Stands)
    {act : Act Request} (htogether : Together Inv Stands system)
    (hguard : Guarded allowed system act) (hstep : step engine program system act = some after) :
    Together Inv Stands after := by
  cases act with
  | start txn request =>
      rw [step] at hstep
      cases hsession : system.sessions txn with
      | some running =>
          rw [hsession] at hstep
          cases hstep
      | none =>
          rw [hsession] at hstep
          cases hstep
          have hidle : Stands system.db txn none := hsession ▸ htogether.stands txn
          exact htogether.move htogether.inv (hrule.begins htogether.inv hidle request)
            fun _ _ _ hstands => hstands
  | advance txn =>
      rw [step, Option.bind_eq_some_iff] at hstep
      obtain ⟨session, hsession, hadvance⟩ := hstep
      have hown : Stands system.db txn (some session) := hsession ▸ htogether.stands txn
      cases session with
      | reply commits value =>
          cases hadvance
          cases commits with
          | true =>
              obtain ⟨hinv, hidle, hothers⟩ := hrule.commits htogether.inv hown
              exact htogether.move hinv hidle hothers
          | false =>
              obtain ⟨-, hidle, hothers⟩ := hrule.rollsBack htogether.inv hown
              exact htogether.move (hrule.refuses htogether.inv hown) hidle hothers
      | exec statement next =>
          rw [advance, Option.map_eq_some_iff] at hadvance
          obtain ⟨result, hperform, rfl⟩ := hadvance
          have hallowed : allowed system.db txn statement := by
            rw [Guarded, hsession] at hguard
            exact hguard
          obtain ⟨hinv, hnext, hothers⟩ := hrule.performs htogether.inv hown hallowed hperform
          exact htogether.move hinv hnext hothers
  | abort txn =>
      rw [step, Option.map_eq_some_iff] at hstep
      obtain ⟨session, hsession, rfl⟩ := hstep
      have hown : Stands system.db txn (some session) := hsession ▸ htogether.stands txn
      obtain ⟨hinv, hidle, hothers⟩ := hrule.rollsBack htogether.inv hown
      exact htogether.move hinv hidle hothers

/-- What sessions keep for each other holds in every run. -/
theorem run_together (hrule : Cooperating engine program allowed Inv Stands)
    {acts : List (Act Request)} (htogether : Together Inv Stands system)
    (hrun : Run (step engine program) (Guarded allowed) system acts after) :
    Together Inv Stands after :=
  hrun.invariant _ (fun hinv hguard hstep => step_together hrule hinv hguard hstep) htogether

end Interleaving

namespace ReadCommitted

open Relational

/-! ## Advisory locks -/

section Locks

variable {κ : Type*} [DecidableEq κ] {locks : List (ℕ × κ)} {txn other : ℕ} {key : κ}

/-- Take a lock, once nobody else holds it. -/
def takeLock (locks : List (ℕ × κ)) (txn : ℕ) (key : κ) : Option (List (ℕ × κ)) :=
  if locks.any fun lock => lock.2 == key && lock.1 != txn then none
  else some ((txn, key) :: locks)

/-- The locks of a transaction end with it. -/
def releaseLocks (locks : List (ℕ × κ)) (txn : ℕ) : List (ℕ × κ) :=
  locks.filter fun lock => lock.1 != txn

def Exclusive (locks : List (ℕ × κ)) : Prop :=
  ∀ lock ∈ locks, ∀ lock' ∈ locks, lock.2 = lock'.2 → lock.1 = lock'.1

omit [DecidableEq κ] in
theorem Exclusive.nil : Exclusive ([] : List (ℕ × κ)) := nofun

theorem takeLock_eq {locks' : List (ℕ × κ)} (htake : takeLock locks txn key = some locks') :
    locks' = (txn, key) :: locks ∧ ∀ lock ∈ locks, lock.2 = key → lock.1 = txn := by
  rw [takeLock] at htake
  split at htake
  · cases htake
  · next hfree =>
      refine ⟨(Option.some.inj htake).symm, fun lock hlock hkey => ?_⟩
      by_contra htxn
      exact hfree (List.any_eq_true.mpr ⟨lock, hlock, by simp [hkey, htxn]⟩)

theorem Exclusive.take {locks' : List (ℕ × κ)} (hexclusive : Exclusive locks)
    (htake : takeLock locks txn key = some locks') : Exclusive locks' := by
  obtain ⟨rfl, hfree⟩ := takeLock_eq htake
  intro lock hlock lock' hlock' hkey
  rcases List.mem_cons.mp hlock with rfl | hold <;> rcases List.mem_cons.mp hlock' with rfl | hold'
  · rfl
  · exact (hfree lock' hold' hkey.symm).symm
  · exact hfree lock hold hkey
  · exact hexclusive lock hold lock' hold' hkey

omit [DecidableEq κ] in
theorem Exclusive.release (hexclusive : Exclusive locks) (txn : ℕ) :
    Exclusive (releaseLocks locks txn) := by
  intro lock hlock lock' hlock' hkey
  exact hexclusive lock (List.mem_filter.mp hlock).1 lock' (List.mem_filter.mp hlock').1 hkey

omit [DecidableEq κ] in
theorem mem_releaseLocks_other (hlock : (other, key) ∈ locks) (hother : other ≠ txn) :
    (other, key) ∈ releaseLocks locks txn :=
  List.mem_filter.mpr ⟨hlock, by simpa using hother⟩

end Locks

/-! ## What a transaction owns -/

section Owning

variable {κ : Type*} {ρ : Type*} {table : Table (Row κ ρ)} {txn other key : ℕ}
  {version : Version ρ}

/-- What is committed and what the transaction has written, if it holds the row. -/
def Version.ownedBy (txn : ℕ) : Version ρ → Option (Option ρ × ρ)
  | .stable _ => none
  | .written writer committed latest => if writer = txn then some (committed, latest) else none

/-- The rows a transaction holds, with what is committed and what it has written. -/
def own (table : Table (Row κ ρ)) (txn key : ℕ) : Option (κ × Option ρ × ρ) :=
  (table.get? key).bind fun row => (row.version.ownedBy txn).map fun pair => (row.ident, pair)

theorem Version.ownedBy_write (hfree : version.free txn = true) (value : ρ) :
    (version.write txn value).ownedBy txn = some (version.committed, value) := by
  cases version with
  | stable before => simp [write, ownedBy, committed]
  | written writer committed before =>
      have hwriter : writer = txn := beq_iff_eq.mp hfree
      simp [write, ownedBy, Version.committed]

theorem Version.ownedBy_write_other (hfree : version.free txn = true) (hother : other ≠ txn)
    (value : ρ) : (version.write txn value).ownedBy other = version.ownedBy other := by
  cases version with
  | stable before => simp [write, ownedBy, Ne.symm hother]
  | written writer committed before =>
      have hwriter : writer = txn := beq_iff_eq.mp hfree
      simp [write, ownedBy, hwriter, Ne.symm hother]

theorem Version.ownedBy_eq_some {pair : Option ρ × ρ} :
    version.ownedBy txn = some pair ↔ version = .written txn pair.1 pair.2 := by
  cases version with
  | stable value => simp [ownedBy]
  | written writer committed latest =>
      obtain ⟨committed', latest'⟩ := pair
      by_cases hwriter : writer = txn <;> simp [ownedBy, hwriter]

/-- The row that is owned. -/
theorem own_eq_some {ident : κ} {committed : Option ρ} {latest : ρ} :
    own table txn key = some (ident, committed, latest) ↔
      (key, ⟨ident, .written txn committed latest⟩) ∈ table.entries := by
  rw [own, Option.bind_eq_some_iff]
  constructor
  · rintro ⟨row, hget, hown⟩
    obtain ⟨pair, hpair, heq⟩ := Option.map_eq_some_iff.mp hown
    cases heq
    rw [Version.ownedBy_eq_some] at hpair
    rw [← hpair]
    exact table.get?_eq_some.mp hget
  · intro hrow
    exact ⟨_, table.get?_eq_some.mpr hrow, by simp [Version.ownedBy]⟩

theorem own_insertRow (ident : κ) (value : ρ) :
    own (insertRow table txn ident value) txn =
      Function.update (own table txn) table.next (some (ident, none, value)) := by
  funext key
  rw [own, insertRow]
  by_cases hkey : key = table.next
  · rw [hkey, Table.get?_insert_self, Function.update_self]
    simp [Version.ownedBy]
  · rw [Table.get?_insert_of_ne _ hkey, Function.update_of_ne hkey]
    rfl

theorem own_insertRow_other (hother : other ≠ txn) (ident : κ) (value : ρ) :
    own (insertRow table txn ident value) other = own table other := by
  funext key
  rw [own, own, insertRow]
  by_cases hkey : key = table.next
  · have hnone : table.get? table.next = none := by
      rw [Option.eq_none_iff_forall_ne_some]
      intro row hrow
      exact table.next_not_mem row (table.get?_eq_some.mp hrow)
    rw [hkey, Table.get?_insert_self, hnone]
    simp [Version.ownedBy, Ne.symm hother]
  · rw [Table.get?_insert_of_ne _ hkey]

theorem own_writeWhere_other {cond : ℕ → κ → Bool} (hfree : allFree table txn cond = true)
    (change : ρ → ρ) (hother : other ≠ txn) :
    own (writeWhere table txn cond change) other = own table other := by
  funext key
  rw [own, own, writeWhere, Table.get?_mapRows]
  cases hget : table.get? key with
  | none => rfl
  | some row =>
      rw [Option.map_some, Option.bind_some, Option.bind_some]
      split
      · next hcond =>
          have hrow := table.get?_eq_some.mp hget
          rw [Version.ownedBy_write_other (free_of_allFree hfree hrow hcond) hother]
      · rfl

theorem own_writeKey {row : Row κ ρ} (hrow : (key, row) ∈ table.entries)
    (hfree : row.version.free txn = true) (change : ρ → ρ) :
    own (writeWhere table txn (fun key' _ => key' == key) change) txn =
      Function.update (own table txn) key
        (some (row.ident, row.version.committed, change row.version.latest)) := by
  funext key'
  by_cases hkey : key' = key
  · rw [hkey, Function.update_self, own, writeWhere, Table.get?_mapRows,
      table.get?_eq_some.mpr hrow]
    simp [Version.ownedBy_write hfree]
  · rw [Function.update_of_ne hkey, own, own, writeWhere, Table.get?_mapRows]
    cases table.get? key' with
    | none => rfl
    | some row' => simp [hkey]

theorem changeTotal_writeKey {quantity : κ → ρ → ℤ} {row : Row κ ρ}
    (hrow : (key, row) ∈ table.entries)
    (hfree : allFree table txn (fun key' _ => key' == key) = true) (change : ρ → ρ) :
    changeTotal quantity (writeWhere table txn (fun key' _ => key' == key) change) txn =
      changeTotal quantity table txn + (quantity row.ident (change row.version.latest) -
        quantity row.ident row.version.latest) := by
  rw [changeTotal_writeWhere hfree change]
  exact congrArg (changeTotal quantity table txn + ·) (total_key hrow fun row =>
    quantity row.ident (change row.version.latest) - quantity row.ident row.version.latest)

theorem changeTotal_lock {quantity : κ → ρ → ℤ} {cond : ℕ → κ → Bool}
    (hfree : allFree table txn cond = true) :
    changeTotal quantity (writeWhere table txn cond id) txn = changeTotal quantity table txn := by
  rw [changeTotal_writeWhere hfree id]
  have hzero : (table.total fun key row => if cond key row.ident then
      quantity row.ident (id row.version.latest) - quantity row.ident row.version.latest
      else 0) = 0 := by
    apply table.total_eq_zero
    intro key row _
    split
    · exact sub_self _
    · rfl
  rw [hzero, add_zero]

theorem own_commitRows (table : Table (Row κ ρ)) (txn : ℕ) :
    own (commitRows table txn) txn = fun _ => none := by
  funext key
  rw [own, commitRows, Table.get?_mapRows]
  cases table.get? key with
  | none => rfl
  | some row =>
      have hnone : (row.version.settle txn).ownedBy txn = none := by
        cases row.version with
        | stable value => rfl
        | written writer committed latest =>
            by_cases hwriter : writer = txn <;> simp [Version.settle, Version.ownedBy, hwriter]
      simp [hnone]

theorem own_commitRows_other (table : Table (Row κ ρ)) (hother : other ≠ txn) :
    own (commitRows table txn) other = own table other := by
  funext key
  rw [own, own, commitRows, Table.get?_mapRows]
  cases table.get? key with
  | none => rfl
  | some row =>
      have hsame : (row.version.settle txn).ownedBy other = row.version.ownedBy other := by
        cases row.version with
        | stable value => rfl
        | written writer committed latest =>
            by_cases hwriter : writer = txn
            · simp [Version.settle, Version.ownedBy, hwriter, Ne.symm hother]
            · simp [Version.settle, hwriter]
      simp [hsame]

theorem own_rollbackRows (table : Table (Row κ ρ)) (txn : ℕ) :
    own (rollbackRows table txn) txn = fun _ => none := by
  funext key
  rw [own, rollbackRows, Table.get?_mapRows, get?_deleteWhere]
  cases table.get? key with
  | none => rfl
  | some row =>
      rw [Option.filter_some]
      split
      · next hkept =>
          rw [Bool.not_eq_true'] at hkept
          have hnone : (row.version.undo txn).ownedBy txn = none := by
            cases hversion : row.version with
            | stable value => rfl
            | written writer committed latest =>
                rw [hversion] at hkept
                cases committed with
                | none =>
                    have hwriter : writer ≠ txn := beq_eq_false_iff_ne.mp hkept
                    simp [Version.undo, Version.ownedBy, hwriter]
                | some value =>
                    by_cases hwriter : writer = txn <;>
                      simp [Version.undo, Version.ownedBy, hwriter]
          simp [hnone]
      · rfl

theorem own_rollbackRows_other (table : Table (Row κ ρ)) (hother : other ≠ txn) :
    own (rollbackRows table txn) other = own table other := by
  funext key
  rw [own, own, rollbackRows, Table.get?_mapRows, get?_deleteWhere]
  cases table.get? key with
  | none => rfl
  | some row =>
      rw [Option.filter_some]
      split
      · have hsame : (row.version.undo txn).ownedBy other = row.version.ownedBy other := by
          cases row.version with
          | stable value => rfl
          | written writer committed latest =>
              cases committed with
              | none => rfl
              | some value =>
                  by_cases hwriter : writer = txn
                  · simp [Version.undo, Version.ownedBy, hwriter, Ne.symm hother]
                  · simp [Version.undo, hwriter]
        simp [hsame]
      · next hinserted =>
          rw [Bool.not_eq_true, Bool.not_eq_false'] at hinserted
          have hnone : row.version.ownedBy other = none := by
            cases hversion : row.version with
            | stable value => rfl
            | written writer committed latest =>
                rw [hversion] at hinserted
                cases committed with
                | none =>
                    have hwriter : writer = txn := beq_iff_eq.mp hinserted
                    simp [Version.ownedBy, hwriter, Ne.symm hother]
                | some value => cases hinserted
          simp [hnone]

/-! ### Rows after a write, a commit, a rollback -/

/-- A key that a statement writes is free. -/
theorem writeKey_spec {table' : Table (Row κ ρ)} {change : ρ → ρ}
    (hwrite : writeKey table txn key change = some table') :
    table' = writeWhere table txn (fun key' _ => key' == key) change ∧
      ∀ {row}, (key, row) ∈ table.entries → row.version.free txn = true := by
  rw [writeKey] at hwrite
  split at hwrite
  · next hfree =>
      exact ⟨(Option.some.inj hwrite).symm,
        fun hrow => free_of_allFree hfree hrow (beq_self_eq_true key)⟩
  · cases hwrite

section Writing

variable {row : Row κ ρ} {change : ρ → ρ} {entry : ℕ × Row κ ρ}

theorem mem_writeRow (hrow : (key, row) ∈ table.entries)
    (hentry : entry ∈ (writeWhere table txn (fun key' _ => key' == key) change).entries) :
    (entry ∈ table.entries ∧ entry.1 ≠ key) ∨
      entry = (key, ⟨row.ident, row.version.write txn (change row.version.latest)⟩) := by
  obtain ⟨key', row'⟩ := entry
  obtain ⟨before, hbefore, hafter⟩ := (Table.mem_mapRows _).mp hentry
  by_cases hkey : key' = key
  · rw [if_pos (beq_iff_eq.mpr hkey)] at hafter
    subst hkey
    rw [← hafter, table.row_unique hbefore hrow]
    exact .inr rfl
  · rw [if_neg (by simpa using hkey)] at hafter
    rw [← hafter]
    exact .inl ⟨hbefore, hkey⟩

theorem mem_writeRow_of_ne (hentry : entry ∈ table.entries) (hkey : entry.1 ≠ key) :
    entry ∈ (writeWhere table txn (fun key' _ => key' == key) change).entries :=
  (Table.mem_mapRows _).mpr ⟨entry.2, hentry, if_neg (by simpa using hkey)⟩

theorem mem_writeRow_self (hrow : (key, row) ∈ table.entries) :
    (key, ⟨row.ident, row.version.write txn (change row.version.latest)⟩) ∈
      (writeWhere table txn (fun key' _ => key' == key) change).entries :=
  (Table.mem_mapRows _).mpr ⟨row, hrow, if_pos (beq_self_eq_true _)⟩

theorem allFree_row (hrow : (key, row) ∈ table.entries) (hfree : row.version.free txn = true) :
    allFree table txn (fun key' _ => key' == key) = true := by
  apply List.all_eq_true.mpr
  intro entry hentry
  by_cases hkey : entry.1 = key
  · obtain ⟨id, row'⟩ := entry
    subst hkey
    rw [table.row_unique hentry hrow, hfree, Bool.or_true]
  · simp [hkey]

end Writing

section Ending

variable {entry : ℕ × Row κ ρ} {ident : κ} {committed : Option ρ} {latest : ρ}

theorem settle_of_ownedBy_none (hnone : version.ownedBy txn = none) :
    version.settle txn = version := by
  cases version with
  | stable value => rfl
  | written writer committed latest =>
      rw [Version.settle]
      split
      · next hwriter => simp [Version.ownedBy, hwriter] at hnone
      · rfl

/-- The one row that a transaction has written, once it commits. -/
theorem mem_commitRows
    (hown : own table txn = Function.update (fun _ => none) key (some (ident, committed, latest)))
    (hentry : entry ∈ (commitRows table txn).entries) :
    (entry ∈ table.entries ∧ entry.2.version.ownedBy txn = none) ∨
      entry = (key, ⟨ident, .stable latest⟩) := by
  obtain ⟨key', row⟩ := entry
  obtain ⟨before, hbefore, hrow⟩ := (Table.mem_mapRows _).mp hentry
  rw [← hrow]
  cases howned : before.version.ownedBy txn with
  | none =>
      rw [settle_of_ownedBy_none howned]
      exact .inl ⟨hbefore, howned⟩
  | some pair =>
      have hheld : own table txn key' = some (before.ident, pair.1, pair.2) := by
        rw [own, table.get?_eq_some.mpr hbefore, Option.bind_some, howned]
        rfl
      rw [hown] at hheld
      by_cases hkey : key' = key
      · rw [hkey, Function.update_self] at hheld
        rw [Version.ownedBy_eq_some.mp howned, hkey]
        cases hheld
        exact .inr (by simp [Version.settle])
      · rw [Function.update_of_ne hkey] at hheld
        cases hheld

theorem mem_commitRows_of (hentry : entry ∈ table.entries) :
    (entry.1, { entry.2 with version := entry.2.version.settle txn }) ∈
      (commitRows table txn).entries :=
  (Table.mem_mapRows _).mpr ⟨entry.2, hentry, rfl⟩

/-- A transaction that has written nothing commits nothing. -/
theorem commitRows_of_own_none (hown : own table txn = fun _ => none) :
    commitRows table txn = table := by
  conv_rhs => rw [← table.mapRows_id]
  apply table.mapRows_congr
  intro key row hrow
  have hnone : row.version.ownedBy txn = none := by
    have hkey := congrFun hown key
    rw [own, table.get?_eq_some.mpr hrow, Option.bind_some, Option.map_eq_none_iff] at hkey
    exact hkey
  rw [settle_of_ownedBy_none hnone]

theorem committed_of_writtenBy {row : κ × ρ} (hrow : row ∈ writtenBy table txn) :
    row ∈ committedRows (commitRows table txn) := by
  obtain ⟨entry, hentry, hheld⟩ := List.mem_filterMap.mp hrow
  obtain ⟨value, hvalue, rfl⟩ := Option.map_eq_some_iff.mp hheld
  refine List.mem_filterMap.mpr ⟨_, mem_commitRows_of hentry, ?_⟩
  cases hversion : entry.2.version with
  | stable before => simp [hversion, Version.heldBy] at hvalue
  | written writer committed latest =>
      rw [hversion, Version.heldBy] at hvalue
      split at hvalue
      · next hwriter =>
          rw [Option.some.inj hvalue]
          simp [Version.settle, hwriter, Version.committed]
      · cases hvalue

theorem mem_rollbackRows (hentry : entry ∈ (rollbackRows table txn).entries) :
    ∃ before, (entry.1, before) ∈ table.entries ∧ before.version.insertedBy txn = false ∧
      entry.2 = { before with version := before.version.undo txn } := by
  obtain ⟨before, hbefore, hafter⟩ := (Table.mem_mapRows _).mp hentry
  obtain ⟨hmem, hkept⟩ := (Table.mem_deleteWhere _).mp hbefore
  exact ⟨before, hmem, hkept, hafter.symm⟩

theorem mem_rollbackRows_of (hentry : entry ∈ table.entries)
    (hkept : entry.2.version.insertedBy txn = false) :
    (entry.1, { entry.2 with version := entry.2.version.undo txn }) ∈
      (rollbackRows table txn).entries :=
  (Table.mem_mapRows _).mpr ⟨entry.2, (Table.mem_deleteWhere _).mpr ⟨hentry, hkept⟩, rfl⟩

end Ending

/-! ### Tables at rest -/

section AtRest

variable (txn) (hstable : ∀ entry ∈ table.entries, ∃ value, entry.2.version = .stable value)

include hstable

theorem own_stable : own table txn = fun _ => none := by
  funext key
  rw [own]
  cases hget : table.get? key with
  | none => rfl
  | some row =>
      obtain ⟨value, hvalue⟩ := hstable _ (table.get?_eq_some.mp hget)
      dsimp only at hvalue
      simp [hvalue, Version.ownedBy]

theorem changeTotal_stable (quantity : κ → ρ → ℤ) : changeTotal quantity table txn = 0 := by
  apply table.total_eq_zero
  intro key row hrow
  obtain ⟨value, hvalue⟩ := hstable _ hrow
  dsimp only at hvalue
  rw [hvalue]
  rfl

end AtRest

end Owning

end ReadCommitted
