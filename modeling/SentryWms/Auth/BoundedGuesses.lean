import SentryWms.Auth.EarlierSessions
import SentryWms.Auth.GuessSteps

/-!
# Guesses stay bounded

Every statement leads a session on and leaves the others where they stand, and so in every
run no window holds more password checks of a key than are allowed.
-/

namespace SentryWms.Auth

open ReadCommitted Interleaving Transition Window

variable {τ : Type} [Field τ] [LinearOrder τ] [FloorRing τ]

variable {config : Config} {library : Library τ} {key : String} {db mid after : Database τ}
  {txn other : ℕ} {self standing : Standing τ}

/-! ## Statements -/

/-- A statement leads to where an assertion holds, and leaves the others where they stand. -/
def Leads (config : Config) (key : String) (db after : Database τ) (txn : ℕ)
    (post : Standing τ → Prop) : Prop :=
  Moves config key db after txn ∧
    ∃ standing, Agrees config key after txn standing ∧ post standing

variable {post : Standing τ → Prop}

omit [FloorRing τ] in
theorem Unrelated.leads (hunrelated : Unrelated config key db after)
    (hinvariant : GuessInvariant config key db) (hagrees : Agrees config key db txn standing)
    (hpost : post standing) : Leads config key db after txn post :=
  ⟨(hunrelated txn).moves hinvariant, standing, hunrelated.agrees hagrees, hpost⟩

omit [FloorRing τ] in
theorem Leads.opened (hinvariant : GuessInvariant config key db)
    (hleads : Leads config key (db.begin txn) after txn post) :
    Leads config key db after txn post :=
  ⟨(frame_begin.moves hinvariant).trans hleads.1, hleads.2⟩

omit [FloorRing τ] in
theorem Leads.to {phase : Phase τ}
    (hmoves : Moves config key db after txn ∧ PhaseHolds config key after txn phase)
    (hnow : ∀ now, self.now = some now → now ≤ after.clock) (hpost : post (self.to phase)) :
    Leads config key db after txn post :=
  ⟨hmoves.1, self.to phase, ⟨hmoves.2, nofun, hnow⟩, hpost⟩

variable {key' : String}

omit [FloorRing τ] in
theorem Agrees.opened (hagrees : Agrees config key db txn self) :
    Agrees config key db txn self.opened :=
  ⟨hagrees.phase, fun hfresh => absurd hfresh Bool.false_ne_true, hagrees.now⟩

theorem perform_checkRateLimit {post : Option ℤ → Standing τ → Prop}
    (hinvariant : GuessInvariant config key db) (hagrees : Agrees config key db txn self)
    (hbefore : Before config key self (.checkRateLimit key') post)
    (hallowed : AllowedGuess library key db txn (.checkRateLimit key'))
    {result : Database τ × Option ℤ}
    (hperform : performIn library db txn (.checkRateLimit key') = some result) :
    Leads config key db result.1 txn (post result.2) := by
  rw [performIn] at hperform
  by_cases hkey : key' = key
  · subst hkey
    obtain ⟨houtside, hrefused, hadmitted⟩ := (if_pos (rfl : key' = key')).mp hbefore
    split at hperform
    · next remaining _ =>
        rw [← Option.some.inj hperform]
        exact (Unrelated.refl config key' db).leads hinvariant hagrees.opened (hrefused remaining)
    · next hopen =>
        rw [← Option.some.inj hperform]
        have hrecorded : recorded db key' = true := by
          refine (hallowed rfl).resolve_left fun hlocked => ?_
          rw [hopen] at hlocked
          cases hlocked
        have hphase := hagrees.phase
        rw [houtside] at hphase
        exact Leads.to (moves_pass hinvariant hphase hrecorded hopen) hagrees.now hadmitted
  · have hpost : ∀ answer, post answer self.opened := (if_neg hkey).mp hbefore
    have hunrelated : Unrelated config key db result.1 := by
      intro third
      split at hperform
      · rw [← Option.some.inj hperform]
        exact Unrelated.refl config key db third
      · rw [← Option.some.inj hperform]
        refine Frame.ofRow rfl le_rfl rfl (fun other => ?_) Iff.rfl fun _ _ => rfl
        rw [List.mem_cons, or_iff_right fun heq => hkey (Prod.mk.inj heq).2.symm]
    exact hunrelated.leads hinvariant hagrees.opened (hpost result.2)

theorem perform_authenticate [IsStrictOrderedRing τ] (hmax : 1 ≤ config.maxLoginAttempts)
    {username password : String} {post : Bool → Standing τ → Prop}
    (hinvariant : GuessInvariant config key db) (hagrees : Agrees config key db txn self)
    (hbefore : Before config key self (.authenticate key' username password) post)
    (hallowed : AllowedGuess library key db txn (.authenticate key' username password))
    {result : Database τ × Bool}
    (hperform : performIn library db txn (.authenticate key' username password) = some result) :
    Leads config key db result.1 txn (post result.2) := by
  rw [← Option.some.inj hperform]
  by_cases hkey : key' = key
  · subst hkey
    obtain ⟨hadmitted, hpost⟩ := (if_pos (rfl : key' = key')).mp hbefore
    have hphase := hagrees.phase
    rw [hadmitted] at hphase
    have hfails : ((db.account.view txn).any fun account =>
        username == db.username && account.isActive &&
          library.checkpw password account.passwordHash) = false := hallowed rfl
    refine Leads.to (moves_check hmax hinvariant hphase) hagrees.now ?_
    rw [hfails]
    exact hpost db.clock
  · have hpost : ∀ answer, post answer self.opened := (if_neg hkey).mp hbefore
    have hunrelated : Unrelated config key db
        { db with passwordChecks := db.passwordChecks ++ [(key', db.clock)] } := by
      intro third
      refine Frame.ofRow rfl le_rfl ?_ (fun _ => Iff.rfl) Iff.rfl fun _ _ => rfl
      simp [checksOf, hkey]
    exact hunrelated.leads hinvariant hagrees.opened (hpost _)

theorem perform_upsertFailure [IsStrictOrderedRing τ] (hmax : 1 ≤ config.maxLoginAttempts)
    {post : Unit → Standing τ → Prop} (hinvariant : GuessInvariant config key db)
    (hagrees : Agrees config key db txn self)
    (hbefore : Before config key self (.upsertFailure key') post)
    (hwrite : (db.begin txn).writeAttempts txn key' (countFailure ((db.begin txn).now txn)) = some after) : Leads config key (db.begin txn) after txn (post ()) := by
  have hbegun : GuessInvariant config key (db.begin txn) := frame_begin.invariant hinvariant
  by_cases hkey : key' = key
  · subst hkey
    obtain ⟨last, hchecked, hfresh, hpost⟩ := (if_pos (rfl : key' = key')).mp hbefore
    have hphase := hagrees.phase.begin
    rw [hchecked] at hphase
    have hnow : last ≤ (db.begin txn).now txn := by
      have hclock : (db.begin txn).now txn = db.clock := by
        simp [Database.now, Database.begin, hagrees.fresh hfresh]
      rw [hclock]
      exact hphase.2.2.1
    have hmoves := moves_count hmax hbegun hnow hphase hwrite
    have hafter : after.clock = db.clock := by
      rw [(Database.writeAttempts_eq hwrite).2]
      rfl
    exact Leads.to hmoves (fun now h => hafter ▸ hagrees.now now h) hpost
  · exact (unrelated_writeAttempts hkey hwrite).leads hbegun hagrees.begin
      ((if_neg hkey).mp hbefore)

omit [FloorRing τ] in
theorem perform_selectAttempts {post : Option (Attempts τ) → Standing τ → Prop}
    (hinvariant : GuessInvariant config key db) (hagrees : Agrees config key db txn self)
    (hbefore : Before config key self (.selectAttempts key') post) :
    Leads config key db db txn (post (db.attemptsSeen txn key')) := by
  by_cases hkey : key' = key
  · subst hkey
    obtain ⟨last, hcounted, hpost⟩ := (if_pos (rfl : key' = key')).mp hbefore
    have hphase := hagrees.phase
    rw [hcounted] at hphase
    obtain ⟨halone, hordered, committed, row, hversion, hcounts⟩ := hphase
    have hseen : db.attemptsSeen txn key' = some row := by
      rw [Database.attemptsSeen, hversion, Version.view, if_pos rfl]
      rfl
    have hafter : PhaseHolds config key' db txn (.seen last row.attempts) :=
      ⟨halone, hordered, committed, row, hversion, rfl, hcounts⟩
    rw [hseen]
    exact Leads.to ⟨(Unrelated.refl config key' db txn).moves hinvariant, hafter⟩ hagrees.now
      (hpost row)
  · have hpost : ∀ answer, post answer self.opened := (if_neg hkey).mp hbefore
    exact (Unrelated.refl config key db).leads hinvariant hagrees.opened (hpost _)

theorem perform_setLocked [IsStrictOrderedRing τ] {lockedUntil : τ}
    {post : Unit → Standing τ → Prop} (hinvariant : GuessInvariant config key db)
    (hagrees : Agrees config key db txn self)
    (hbefore : Before config key self (.setLocked key' lockedUntil) post)
    (hwrite : db.writeAttempts txn key' (fun row => row.map fun row => { row with lockedUntil := some lockedUntil, attempts := 0 }) = some after) :
    Leads config key db after txn (post ()) := by
  by_cases hkey : key' = key
  · subst hkey
    obtain ⟨last, attempts, now, hseen, hlast, rfl, hpost⟩ :=
      (if_pos (rfl : key' = key')).mp hbefore
    have hphase := hagrees.phase
    rw [hseen] at hphase
    have hafter : after.clock = db.clock := by
      rw [(Database.writeAttempts_eq hwrite).2]
    exact Leads.to (moves_lock hinvariant hlast hphase hwrite)
      (fun now h => hafter ▸ hagrees.now now h) hpost
  · exact (unrelated_writeAttempts hkey hwrite).leads hinvariant hagrees.opened
      ((if_neg hkey).mp hbefore)

theorem perform_deleteStale [IsStrictOrderedRing τ]
    (hperiod : lockoutPeriod config ≤ (3600 : τ)) {cutoff : τ}
    {post : Unit → Standing τ → Prop} (hinvariant : GuessInvariant config key db)
    (hagrees : Agrees config key db txn self)
    (hbefore : Before config key self (.deleteStale key' cutoff) post)
    (hdelete : db.deleteIf txn key' (stale cutoff) = some after) :
    Leads config key db after txn (post ()) := by
  obtain ⟨hoff, ⟨now, hnow, rfl⟩, hpost⟩ := hbefore
  have houtside : (txn, key) ∉ db.inFlight := by
    have hphase := hagrees.phase
    rcases hoff with houtside | hcleaning
    · rw [houtside] at hphase
      exact hphase.1
    · rw [hcleaning] at hphase
      exact hphase
  have hframe : Frame config key db after txn := by
    by_cases hkey : key' = key
    · subst hkey
      have hcutoff : now - (3600 : ℤ) ≤ db.clock - 3600 := by
        rw [Int.cast_ofNat]
        linarith [hagrees.now now hnow]
      exact frame_delete hperiod hinvariant houtside hcutoff hdelete
    · exact unrelated_deleteIf hkey hdelete txn
  have hphase : PhaseHolds config key after txn .cleaning :=
    fun hmem => houtside ((hframe.inFlight txn).mp hmem)
  exact Leads.to ⟨hframe.moves hinvariant, hphase⟩
    (fun now h => (hagrees.now now h).trans hframe.clock) hpost

theorem perform_before [IsStrictOrderedRing τ] (hmax : 1 ≤ config.maxLoginAttempts)
    (hperiod : lockoutPeriod config ≤ (3600 : τ)) {statement : Statement τ}
    {post : Answer τ statement → Standing τ → Prop} (hinvariant : GuessInvariant config key db)
    (hagrees : Agrees config key db txn self) (hbefore : Before config key self statement post)
    (hallowed : AllowedGuess library key db txn statement)
    {result : Database τ × Answer τ statement}
    (hperform : Auth.perform library db txn statement = some result) :
    Leads config key db result.1 txn (post result.2) := by
  have hbegun : GuessInvariant config key (db.begin txn) := frame_begin.invariant hinvariant
  have hopened : Agrees config key (db.begin txn) txn self.opened := hagrees.begin
  cases statement with
  | wait duration =>
      obtain ⟨hduration, heq⟩ := Option.ite_none_right_eq_some.mp hperform
      rw [← Option.some.inj heq]
      have hunrelated : Unrelated config key db { db with clock := db.clock + duration } :=
        fun third => Frame.ofRow rfl (le_add_of_nonneg_right hduration) rfl (fun _ => Iff.rfl)
          Iff.rfl fun _ _ => rfl
      exact hunrelated.leads hinvariant hagrees hbefore
  | readClock =>
      rw [← Option.some.inj hperform]
      have hafter : Agrees config key db txn { self with now := some db.clock } :=
        ⟨hagrees.phase, hagrees.fresh, fun now h => (Option.some.inj h).ge⟩
      refine (Unrelated.refl config key db).leads hinvariant hafter (hbefore db.clock ?_)
      intro last hlast
      have hphase := hagrees.phase
      rw [hlast] at hphase
      exact hphase.2.2.1
  | checkRateLimit key' =>
      exact (perform_checkRateLimit hbegun hopened hbefore hallowed hperform).opened hinvariant
  | authenticate key' username password =>
      exact (perform_authenticate hmax hbegun hopened hbefore hallowed hperform).opened hinvariant
  | touchLastLogin =>
      obtain ⟨after, hwrite, rfl⟩ := Option.map_eq_some_iff.mp hperform
      exact ((unrelated_writeAccount hwrite).leads hbegun hopened hbefore).opened hinvariant
  | upsertFailure key' =>
      obtain ⟨after, hwrite, rfl⟩ := Option.map_eq_some_iff.mp hperform
      exact (perform_upsertFailure hmax hinvariant hagrees hbefore hwrite).opened hinvariant
  | selectAttempts key' =>
      rw [← Option.some.inj hperform]
      exact (perform_selectAttempts hbegun hopened hbefore).opened hinvariant
  | setLocked key' lockedUntil =>
      obtain ⟨after, hwrite, rfl⟩ := Option.map_eq_some_iff.mp hperform
      exact (perform_setLocked hbegun hopened hbefore hwrite).opened hinvariant
  | deleteAttempts key' =>
      obtain ⟨after, hdelete, rfl⟩ := Option.map_eq_some_iff.mp hperform
      exact ((unrelated_deleteIf hbefore.1 hdelete).leads hbegun hopened
        hbefore.2).opened hinvariant
  | deleteStale key' cutoff =>
      obtain ⟨after, hdelete, rfl⟩ := Option.map_eq_some_iff.mp hperform
      exact (perform_deleteStale hperiod hbegun hopened hbefore hdelete).opened hinvariant
  | readAccount =>
      rw [← Option.some.inj hperform]
      exact ((Unrelated.refl config key _).leads hbegun hopened (hbefore _)).opened hinvariant
  | updatePassword passwordHash =>
      obtain ⟨after, hwrite, rfl⟩ := Option.map_eq_some_iff.mp hperform
      exact ((unrelated_writeAccount hwrite).leads hbegun hopened hbefore).opened hinvariant
  | commit =>
      rw [← Option.some.inj hperform]
      obtain ⟨phase, hcommits, hpost⟩ := hbefore
      obtain ⟨hmoves, hphase⟩ := hagrees.phase.commit hinvariant hcommits
      exact ⟨hmoves, ⟨phase, true, self.now⟩,
        ⟨hphase, fun _ => Function.update_self _ _ _, hagrees.now⟩, hpost⟩
  | issueToken source =>
      rw [← Option.some.inj hperform]
      refine Unrelated.leads (fun third => ?_) hinvariant hagrees (hbefore _)
      exact Frame.ofRow rfl le_rfl rfl (fun _ => Iff.rfl) Iff.rfl fun _ _ => rfl
  | decodeToken token =>
      rw [← Option.some.inj hperform]
      exact (Unrelated.refl config key db).leads hinvariant hagrees (hbefore _)
  | checkToken token endpoint =>
      have hunrelated : Unrelated config key db result.1 := by
        intro third
        change performIn library db txn (.checkToken token endpoint) = some result at hperform
        rw [performIn] at hperform
        split at hperform
        · split at hperform <;> rw [← Option.some.inj hperform] <;>
            exact Frame.ofRow rfl le_rfl rfl (fun _ => Iff.rfl) Iff.rfl fun _ _ => rfl
        · rw [← Option.some.inj hperform]
          exact Unrelated.refl config key db third
      exact hunrelated.leads hinvariant hagrees (hbefore result.2)

/-! ## Runs -/

def Stands (config : Config) (key : String) (db : Database τ) (txn : ℕ) :
    Option (AuthProgram τ) → Prop
  | none => Agrees config key db txn .idle
  | some program =>
      ∃ self, Agrees config key db txn self ∧ Balanced config key self program

omit [FloorRing τ] in
theorem Moves.stands (hmoves : Moves config key db after txn) (hother : other ≠ txn)
    (session : Option (AuthProgram τ)) (hstands : Stands config key db other session) :
    Stands config key after other session := by
  cases session with
  | none => exact hmoves.others other hother _ hstands
  | some program =>
      obtain ⟨self, hagrees, hbalanced⟩ := hstands
      exact ⟨self, hmoves.others other hother self hagrees, hbalanced⟩

omit [FloorRing τ] in
theorem Stands.rollback {session : AuthProgram τ} (hinvariant : GuessInvariant config key db)
    (hstands : Stands config key db txn (some session)) :
    Moves config key db (db.rollback txn) txn := by
  obtain ⟨self, hagrees, -⟩ := hstands
  exact moves_rollback hinvariant hagrees

theorem cooperating_guesses [IsStrictOrderedRing τ] (library : Library τ)
    (hmax : 1 ≤ config.maxLoginAttempts) (hperiod : lockoutPeriod config ≤ (3600 : τ))
    (huser : ∀ name, normalizeRateLimitKey library (userKey name) ≠ key) :
    Cooperating (engine library) (AuthRequest.program config library)
      (AllowedGuess library key) (fun db _ => GuessInvariant config key db)
      (Stands config key) where
  begins := fun _ hidle request => ⟨.idle, hidle, program_balanced huser request⟩
  performs := by
    intro db replies txn statement next result hinvariant hstands hallowed hperform
    obtain ⟨self, hagrees, hbefore⟩ := hstands
    obtain ⟨hmoves, standing, hafter, hpost⟩ :=
      perform_before hmax hperiod hinvariant hagrees hbefore hallowed hperform
    exact ⟨hmoves.invariant, ⟨standing, hafter, hpost⟩,
      fun other hother session hstands => hmoves.stands hother session hstands⟩
  commits := by
    intro db replies txn value _ hstands
    obtain ⟨self, -, hcloses⟩ := hstands
    cases hcloses
  refuses := fun hinvariant hstands => (hstands.rollback hinvariant).invariant
  rollsBack := by
    intro db replies txn session hinvariant hstands
    have hmoves := hstands.rollback hinvariant
    exact ⟨hmoves.invariant, idle_rollback hinvariant,
      fun other hother session hstands => hmoves.stands hother session hstands⟩

/-- No transaction is open on the row of the key, and no login of it has been tried. -/
structure NoGuesses (key : String) (db : Database τ) : Prop where
  row : ∃ row, db.loginAttempts key = .stable row
  passwordChecks : db.passwordChecks = []
  inFlight : db.inFlight = []
  abandoned : db.abandoned = []

omit [FloorRing τ] in
theorem NoGuesses.together (hstart : NoGuesses key db) :
    Together (fun db _ => GuessInvariant config key db) (Stands config key)
      (⟨db, fun _ => none, []⟩ : AuthSystem τ) := by
  obtain ⟨row, hrow⟩ := hstart.row
  have hchecks : checksOf db key = [] := by
    rw [checksOf, hstart.passwordChecks]
    rfl
  refine ⟨⟨⟨row, by rw [hrow]; rfl⟩, ?_, ?_, fun _ => ?_, ?_⟩, fun txn =>
    ⟨⟨?_, ?_⟩, by rintro ⟨⟩, by rintro _ ⟨⟩⟩⟩
  · rw [hchecks]
    rintro _ ⟨⟩
  · rw [GuessesBounded, hchecks]
    rintro _ ⟨⟩
  · rw [hchecks]
    rintro (_ | row) -
    · rintro _ ⟨⟩
    · exact ⟨by rintro _ ⟨⟩, by rintro _ ⟨⟩⟩
  · intro writer committed latest hversion
    rw [hrow] at hversion
    cases hversion
  · rw [hstart.inFlight]
    exact List.not_mem_nil
  · rw [hrow]
    rfl

/-- Where at least one attempt is allowed, a lockout is no longer than the cleanup keeps the
rows, and no username alone is counted under the key: in every run in which a login of the
key passes the lockout check only once those before it are recorded, and none succeeds, no
window of a lockout period that starts at a check holds more checks than allowed. -/
theorem guessesBounded_of_run [IsStrictOrderedRing τ] (library : Library τ)
    {clientIp username : String} (hmax : 1 ≤ config.maxLoginAttempts)
    (hperiod : config.lockoutMinutes ≤ 60)
    (huser : ∀ name, normalizeRateLimitKey library (userKey name) ≠
      normalizeRateLimitKey library (lockKey clientIp username))
    {acts : List (Act (AuthRequest τ))} {system : AuthSystem τ}
    (hstart : NoGuesses (normalizeRateLimitKey library (lockKey clientIp username)) db)
    (hrun : Run (Interleaving.step (engine library) (AuthRequest.program config library))
      (Guarded (AllowedGuess library (normalizeRateLimitKey library (lockKey clientIp username))))
      ⟨db, fun _ => none, []⟩ acts system) :
    GuessesBounded config (normalizeRateLimitKey library (lockKey clientIp username))
      system.db := by
  have hseconds : lockoutPeriod config ≤ (3600 : τ) := by
    have hle : 60 * config.lockoutMinutes ≤ 3600 := by omega
    rw [lockoutPeriod]
    exact_mod_cast hle
  exact (run_together (cooperating_guesses library hmax hseconds huser) hstart.together
    hrun).inv.bounded

/-! ## Guesses at once -/

def guess : AuthRequest ℚ :=
  .login ⟨"ana", "guess-1", "10.0.0.1"⟩

def guessKey : String :=
  normalizeRateLimitKey demoLibrary (lockKey "10.0.0.1" "ana")

/-- Five guesses, the last of which locks, and one that is turned away. -/
def guessInTurn : List (Act (AuthRequest ℚ)) :=
  [11, 11, 11, 11, 12, 2].zipIdx.flatMap fun entry =>
    .start entry.2 guess :: List.replicate entry.1 (.advance entry.2)

/-- Six guesses that are past the lockout check before one is recorded. -/
def guessAtOnce : List (Act (AuthRequest ℚ)) :=
  (List.range 6).map (fun txn => .start txn guess) ++
    (List.range 6).map .advance ++ (List.range 6).map .advance

theorem userKey_ne_guessKey (name : String) :
    normalizeRateLimitKey demoLibrary (userKey name) ≠ guessKey := by
  have hkey : ∀ raw, normalizeRateLimitKey demoLibrary raw = raw := fun raw => ite_self raw
  rw [guessKey, hkey, hkey]
  intro heq
  have hhead := congrArg (fun text => text.toList.head?) heq
  simp [userKey, lockKey] at hhead

theorem oneUser_noGuesses : NoGuesses guessKey oneUser :=
  ⟨⟨none, rfl⟩, rfl, rfl, rfl⟩

theorem guessesBounded_guessInTurn :
    GuessesBounded ⟨5, 15⟩ guessKey
      (endOf (Guarded (AllowedGuess demoLibrary guessKey)) guessInTurn).db :=
  guessesBounded_of_run demoLibrary (by decide) (by decide) userKey_ne_guessKey
    oneUser_noGuesses (endOf_run _ guessInTurn (by decide +kernel))

/-- All six are checked at one time, where five are allowed. -/
theorem guesses_at_once_exceed :
    Run (Interleaving.step (engine demoLibrary) (AuthRequest.program ⟨5, 15⟩ demoLibrary))
        (fun _ _ => True) ⟨oneUser, fun _ => none, []⟩ guessAtOnce
        (endOf (fun _ _ => True) guessAtOnce) ∧
      ¬ GuessesBounded ⟨5, 15⟩ guessKey (endOf (fun _ _ => True) guessAtOnce).db := by
  refine ⟨endOf_run _ _ (by decide +kernel), fun hbounded => ?_⟩
  have hchecks : checksOf (endOf (fun _ _ => True) guessAtOnce).db guessKey =
      List.replicate 6 (100 + 1 / 5) := by
    decide +kernel
  rw [GuessesBounded, hchecks] at hbounded
  have hsix := hbounded (100 + 1 / 5) (by decide +kernel)
  exact absurd hsix (by decide +kernel)

end SentryWms.Auth
