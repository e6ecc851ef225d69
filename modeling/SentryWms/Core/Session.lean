import SentryWms.Core.Transition

/-!
# Requests as interleaved sequences of statements

A request is a program: a statement whose answer decides how it goes on, or a reply that
commits or rolls back. Sessions run their programs one statement at a time in any order,
and a statement that has to wait for a lock is one that cannot be executed yet. A session
may be aborted at any point. What holds of the database, and what each session relies on,
holds in every run once no statement of one session disturbs another.
-/

namespace Interleaving

open Transition

universe u v w x

inductive Program (Statement : Type u) (Answer : Statement → Type v) (Reply : Type w) where
  | reply (commits : Bool) (value : Reply)
  | exec (statement : Statement) (next : Answer statement → Program Statement Answer Reply)

/-- How a database executes the statements of its transactions. A statement that waits is
not executed. -/
structure Engine (Db : Type x) (Statement : Type u) (Answer : Statement → Type v) where
  perform : Db → ℕ → (statement : Statement) → Option (Db × Answer statement)
  commit : Db → ℕ → Db
  rollback : Db → ℕ → Db

/-- A database, the requests in progress, and the replies so far. -/
structure System (Db : Type x) (Statement : Type u) (Answer : Statement → Type v)
    (Reply : Type w) where
  db : Db
  sessions : ℕ → Option (Program Statement Answer Reply)
  replies : List Reply

/-- What happens: a request comes in, a session goes on, a session is aborted. -/
inductive Act (Request : Type*) where
  | start (txn : ℕ) (request : Request)
  | advance (txn : ℕ)
  | abort (txn : ℕ)

section Steps

variable {Db : Type x} {Statement : Type u} {Answer : Statement → Type v} {Reply : Type w}
  {Request : Type*}

/-- One session is somewhere else. -/
def setSession (sessions : ℕ → Option (Program Statement Answer Reply)) (txn : ℕ)
    (program : Option (Program Statement Answer Reply)) (other : ℕ) :
    Option (Program Statement Answer Reply) :=
  if other = txn then program else sessions other

/-- The next statement of a session, or its end. -/
def advance (engine : Engine Db Statement Answer) (system : System Db Statement Answer Reply)
    (txn : ℕ) : Program Statement Answer Reply → Option (System Db Statement Answer Reply)
  | .reply commits value =>
      some ⟨if commits then engine.commit system.db txn else engine.rollback system.db txn,
        setSession system.sessions txn none, system.replies ++ [value]⟩
  | .exec statement next =>
      (engine.perform system.db txn statement).map fun result =>
        ⟨result.1, setSession system.sessions txn (some (next result.2)), system.replies⟩

def step (engine : Engine Db Statement Answer)
    (program : Request → Program Statement Answer Reply)
    (system : System Db Statement Answer Reply) :
    Act Request → Option (System Db Statement Answer Reply)
  | .start txn request =>
      match system.sessions txn with
      | some _ => none
      | none =>
          some { system with sessions := setSession system.sessions txn (program request) }
  | .advance txn => (system.sessions txn).bind (advance engine system txn)
  | .abort txn =>
      (system.sessions txn).map fun _ =>
        { system with
          db := engine.rollback system.db txn
          sessions := setSession system.sessions txn none }

/-- The statements that are executed meet a condition on the database before them. -/
def Guarded (allowed : Db → ℕ → Statement → Prop)
    (system : System Db Statement Answer Reply) : Act Request → Prop
  | .advance txn =>
      match system.sessions txn with
      | some (.exec statement _) => allowed system.db txn statement
      | _ => True
  | _ => True

instance (allowed : Db → ℕ → Statement → Prop)
    [∀ db txn statement, Decidable (allowed db txn statement)]
    (system : System Db Statement Answer Reply) (act : Act Request) :
    Decidable (Guarded allowed system act) :=
  match act with
  | .start _ _ => isTrue trivial
  | .abort _ => isTrue trivial
  | .advance txn =>
      match hsession : system.sessions txn with
      | some (.exec statement _) =>
          decidable_of_iff (allowed system.db txn statement) (by rw [Guarded, hsession])
      | some (.reply _ _) => isTrue (by rw [Guarded, hsession]; trivial)
      | none => isTrue (by rw [Guarded, hsession]; trivial)

/-- Where every statement meets the condition, every step does. -/
theorem Guarded.of_all {allowed : Db → ℕ → Statement → Prop}
    (hall : ∀ db txn statement, allowed db txn statement)
    (system : System Db Statement Answer Reply) (act : Act Request) :
    Guarded allowed system act := by
  cases act with
  | start txn request => trivial
  | abort txn => trivial
  | advance txn =>
      rw [Guarded]
      split
      · exact hall _ _ _
      · trivial

/-! ## The rule -/

/-- What one session may rely on: its own steps lead from one assertion to the next, keep
the invariant, and leave the assertions of every other session as they are. -/
structure Undisturbed (engine : Engine Db Statement Answer)
    (program : Request → Program Statement Answer Reply)
    (allowed : Db → ℕ → Statement → Prop) (Inv : Db → List Reply → Prop)
    (Owns : Db → ℕ → Program Statement Answer Reply → Prop) (Idle : Db → ℕ → Prop) :
    Prop where
  begins : ∀ {db txn}, Idle db txn → ∀ request, Owns db txn (program request)
  performs : ∀ {db replies txn statement next result}, Inv db replies →
    Owns db txn (.exec statement next) → allowed db txn statement →
    engine.perform db txn statement = some result →
    Inv result.1 replies ∧ Owns result.1 txn (next result.2)
  commits : ∀ {db replies txn value}, Inv db replies → Owns db txn (.reply true value) →
    Inv (engine.commit db txn) (replies ++ [value]) ∧ Idle (engine.commit db txn) txn
  refuses : ∀ {db replies txn value}, Inv db replies → Owns db txn (.reply false value) →
    Inv (engine.rollback db txn) (replies ++ [value])
  rollsBack : ∀ {db replies}, Inv db replies → ∀ txn,
    Inv (engine.rollback db txn) replies ∧ Idle (engine.rollback db txn) txn
  owns_others : ∀ {db txn other program}, Owns db other program → other ≠ txn →
    (∀ {statement result}, engine.perform db txn statement = some result →
      Owns result.1 other program) ∧
    Owns (engine.commit db txn) other program ∧ Owns (engine.rollback db txn) other program
  idle_others : ∀ {db txn other}, Idle db other → other ≠ txn →
    (∀ {statement result}, engine.perform db txn statement = some result →
      Idle result.1 other) ∧
    Idle (engine.commit db txn) other ∧ Idle (engine.rollback db txn) other

/-- The invariant of the database, and of every session where it stands. -/
structure Holds (Inv : Db → List Reply → Prop)
    (Owns : Db → ℕ → Program Statement Answer Reply → Prop) (Idle : Db → ℕ → Prop)
    (system : System Db Statement Answer Reply) : Prop where
  inv : Inv system.db system.replies
  owns : ∀ txn program, system.sessions txn = some program → Owns system.db txn program
  idle : ∀ txn, system.sessions txn = none → Idle system.db txn

variable {engine : Engine Db Statement Answer}
  {program : Request → Program Statement Answer Reply}
  {allowed : Db → ℕ → Statement → Prop} {Inv : Db → List Reply → Prop}
  {Owns : Db → ℕ → Program Statement Answer Reply → Prop} {Idle : Db → ℕ → Prop}
  {system after : System Db Statement Answer Reply}

/-- One session went on and the others are where they were. -/
theorem Holds.move (hholds : Holds Inv Owns Idle system) {db : Db} {replies : List Reply}
    {txn : ℕ} {session : Option (Program Statement Answer Reply)} (hinv : Inv db replies)
    (hown : ∀ program, session = some program → Owns db txn program)
    (hidle : session = none → Idle db txn)
    (howns : ∀ {other program}, Owns system.db other program → other ≠ txn →
      Owns db other program)
    (hidles : ∀ {other}, Idle system.db other → other ≠ txn → Idle db other) :
    Holds Inv Owns Idle ⟨db, setSession system.sessions txn session, replies⟩ where
  inv := hinv
  owns := by
    intro other program hsession
    dsimp only at hsession
    by_cases hother : other = txn
    · rw [setSession, if_pos hother] at hsession
      rw [hother]
      exact hown program hsession
    · rw [setSession, if_neg hother] at hsession
      exact howns (hholds.owns other program hsession) hother
  idle := by
    intro other hsession
    dsimp only at hsession
    by_cases hother : other = txn
    · rw [setSession, if_pos hother] at hsession
      rw [hother]
      exact hidle hsession
    · rw [setSession, if_neg hother] at hsession
      exact hidles (hholds.idle other hsession) hother

theorem step_holds (hrule : Undisturbed engine program allowed Inv Owns Idle)
    {act : Act Request} (hholds : Holds Inv Owns Idle system)
    (hguard : Guarded allowed system act) (hstep : step engine program system act = some after) :
    Holds Inv Owns Idle after := by
  cases act with
  | start txn request =>
      rw [step] at hstep
      cases hsession : system.sessions txn with
      | some program =>
          rw [hsession] at hstep
          cases hstep
      | none =>
          rw [hsession] at hstep
          cases hstep
          refine hholds.move hholds.inv ?_ nofun (fun howns _ => howns) fun hidle _ => hidle
          intro started hstarted
          rw [← Option.some.inj hstarted]
          exact hrule.begins (hholds.idle txn hsession) request
  | advance txn =>
      rw [step, Option.bind_eq_some_iff] at hstep
      obtain ⟨session, hsession, hadvance⟩ := hstep
      have hown := hholds.owns txn session hsession
      cases session with
      | reply commits value =>
          cases hadvance
          cases commits with
          | true =>
              obtain ⟨hinv, hidle⟩ := hrule.commits hholds.inv hown
              exact hholds.move hinv nofun (fun _ => hidle)
                (fun howns hother => (hrule.owns_others howns hother).2.1)
                fun hidles hother => (hrule.idle_others hidles hother).2.1
          | false =>
              have hidle := (hrule.rollsBack hholds.inv txn).2
              exact hholds.move (hrule.refuses hholds.inv hown) nofun (fun _ => hidle)
                (fun howns hother => (hrule.owns_others howns hother).2.2)
                fun hidles hother => (hrule.idle_others hidles hother).2.2
      | exec statement next =>
          rw [advance, Option.map_eq_some_iff] at hadvance
          obtain ⟨result, hperform, hafter⟩ := hadvance
          have hallowed : allowed system.db txn statement := by
            rw [Guarded, hsession] at hguard
            exact hguard
          obtain ⟨hinv, hnext⟩ := hrule.performs hholds.inv hown hallowed hperform
          rw [← hafter]
          refine hholds.move hinv ?_ nofun
            (fun howns hother => (hrule.owns_others howns hother).1 hperform)
            fun hidles hother => (hrule.idle_others hidles hother).1 hperform
          intro program hprogram
          rw [← Option.some.inj hprogram]
          exact hnext
  | abort txn =>
      rw [step, Option.map_eq_some_iff] at hstep
      obtain ⟨session, hsession, hafter⟩ := hstep
      obtain ⟨hinv, hidle⟩ := hrule.rollsBack hholds.inv txn
      rw [← hafter]
      exact hholds.move hinv nofun (fun _ => hidle)
        (fun howns hother => (hrule.owns_others howns hother).2.2)
        fun hidles hother => (hrule.idle_others hidles hother).2.2

/-- What no session disturbs holds in every run. -/
theorem run_holds (hrule : Undisturbed engine program allowed Inv Owns Idle)
    {acts : List (Act Request)} (hholds : Holds Inv Owns Idle system)
    (hrun : Run (step engine program) (Guarded allowed) system acts after) :
    Holds Inv Owns Idle after :=
  hrun.invariant _ (fun hinv hguard hstep => step_holds hrule hinv hguard hstep) hholds

end Steps

end Interleaving
