import SentryWms.Auth.Lockout

/-!
# How far a login has come

Where the logins of a key go past the lockout check one after the other, one of them at a
time stands between its check and the commit of its record. A phase says what that login
knows of the row of the key, and every request goes from phase to phase.
-/

namespace SentryWms.Auth

open ReadCommitted Interleaving Window

variable {τ : Type} [Field τ] [LinearOrder τ] [FloorRing τ]

/-! ## Where a session stands -/

/-- How far a login of the key has come, where `last` is the time of its password check, or
that the cleanup is deleting rows. -/
inductive Phase (τ : Type) where
  | outside
  | cleaning
  | admitted
  | checked (last : τ)
  | counted (last : τ)
  | seen (last : τ) (attempts : ℕ)
  | written

/-- What a session knows: how far it has come, whether its transaction is not yet open, and
its last reading of the clock. -/
structure Standing (τ : Type) where
  phase : Phase τ
  fresh : Bool
  now : Option τ

/-- A session that has done nothing. -/
def Standing.idle : Standing τ :=
  ⟨.outside, false, none⟩

/-- The session has executed a statement in its transaction. -/
def Standing.opened (self : Standing τ) : Standing τ :=
  { self with fresh := false }

/-- The session has come to another phase by a statement. -/
def Standing.to (self : Standing τ) (phase : Phase τ) : Standing τ :=
  ⟨phase, false, self.now⟩

/-- No other login of the key is past the lockout check. -/
def Alone (db : Database τ) (key : String) (txn : ℕ) : Prop :=
  (txn, key) ∈ db.inFlight ∧ (∀ other, (other, key) ∈ db.inFlight → other = txn) ∧
    key ∉ db.abandoned

/-- The row of the key is written by a transaction, and counts or remembers the checks. -/
def Wrote (db : Database τ) (key : String) (txn : ℕ) (holds : Attempts τ → Prop) : Prop :=
  ∃ committed row,
    db.loginAttempts key = .written txn (some committed) (some row) ∧ holds row

def PhaseHolds (config : Config) (key : String) (db : Database τ) (txn : ℕ) : Phase τ → Prop
  | .outside => (txn, key) ∉ db.inFlight ∧ (db.loginAttempts key).heldBy txn = none
  | .cleaning => (txn, key) ∉ db.inFlight
  | .admitted =>
      Alone db key txn ∧ (db.loginAttempts key).heldBy txn = none ∧
        Remembers config (checksOf db key) db.clock (db.loginAttempts key) ∧
        Unlocked db.clock (db.loginAttempts key)
  | .checked last =>
      Alone db key txn ∧ (db.loginAttempts key).heldBy txn = none ∧ last ≤ db.clock ∧
        ∃ before, checksOf db key = before ++ [last] ∧ (∀ check ∈ before, check ≤ last) ∧
          Remembers config before db.clock (db.loginAttempts key) ∧
          Unlocked db.clock (db.loginAttempts key)
  | .counted last =>
      Alone db key txn ∧ (∀ check ∈ checksOf db key, check ≤ last) ∧
        Wrote db key txn (Counted config (checksOf db key) db.clock)
  | .seen last attempts =>
      Alone db key txn ∧ (∀ check ∈ checksOf db key, check ≤ last) ∧
        Wrote db key txn fun row =>
          row.attempts = attempts ∧ Counted config (checksOf db key) db.clock row
  | .written =>
      Alone db key txn ∧ Wrote db key txn fun row =>
        RowRemembers config (checksOf db key) db.clock (some row)

/-- A transaction stands where the session believes. -/
structure Agrees (config : Config) (key : String) (db : Database τ) (txn : ℕ)
    (standing : Standing τ) : Prop where
  phase : PhaseHolds config key db txn standing.phase
  fresh : standing.fresh = true → db.began txn = none
  now : ∀ now, standing.now = some now → now ≤ db.clock

/-- Where a commit leads, if the session may commit there. -/
def Phase.committed (config : Config) : Phase τ → Option (Phase τ)
  | .outside => some .outside
  | .cleaning => some .outside
  | .checked last => some (.checked last)
  | .seen _ attempts => if (attempts : ℤ) < config.maxLoginAttempts then some .outside else none
  | .written => some .outside
  | _ => none

/-- What a session has to know before a statement so that an assertion holds after it. -/
def Before (config : Config) (key : String) (self : Standing τ) :
    (statement : Statement τ) → (Answer τ statement → Standing τ → Prop) → Prop
  | .readClock, post =>
      ∀ now, (∀ last, self.phase = .checked last → last ≤ now) →
        post now { self with now := some now }
  | .checkRateLimit other, post =>
      if other = key then
        self.phase = .outside ∧ (∀ remaining, post (some remaining) self.opened) ∧
          post none (self.to .admitted)
      else ∀ answer, post answer self.opened
  | .authenticate other _ _, post =>
      if other = key then self.phase = .admitted ∧ ∀ last, post false (self.to (.checked last))
      else ∀ answer, post answer self.opened
  | .upsertFailure other, post =>
      if other = key then ∃ last, self.phase = .checked last ∧ self.fresh = true ∧
        post () (self.to (.counted last))
      else post () self.opened
  | .selectAttempts other, post =>
      if other = key then ∃ last, self.phase = .counted last ∧
        ∀ row : Attempts τ, post (some row) (self.to (.seen last row.attempts))
      else ∀ answer, post answer self.opened
  | .setLocked other lockedUntil, post =>
      if other = key then ∃ last attempts now, self.phase = .seen last attempts ∧ last ≤ now ∧
        lockedUntil = now + lockoutPeriod config ∧ post () (self.to .written)
      else post () self.opened
  | .deleteAttempts other, post => other ≠ key ∧ post () self.opened
  | .deleteStale _ cutoff, post =>
      (self.phase = .outside ∨ self.phase = .cleaning) ∧
        (∃ now, self.now = some now ∧ cutoff = now - (3600 : ℤ)) ∧ post () (self.to .cleaning)
  | .commit, post =>
      ∃ phase, self.phase.committed config = some phase ∧ post () ⟨phase, true, self.now⟩
  | .wait _, post => post () self
  | .issueToken _, post => ∀ answer, post answer self
  | .decodeToken _, post => ∀ answer, post answer self
  | .checkToken _ _, post => ∀ answer, post answer self
  | .touchLastLogin, post => post () self.opened
  | .readAccount, post => ∀ answer, post answer self.opened
  | .updatePassword _, post => post () self.opened

/-- From where a session stands, its program records the check it makes. -/
def Balanced (config : Config) (key : String) (self : Standing τ) : AuthProgram τ → Prop
  | .reply commits _ => commits = false
  | .exec statement next =>
      Before config key self statement fun answer after => Balanced config key after (next answer)

/-! ## The requests -/

section Requests

variable {config : Config} {library : Library τ} {key : String} {self : Standing τ}

omit [FloorRing τ] in
theorem requireAuth_balanced {token : ℕ} {endpoint : String} {handler : AuthProgram τ}
    (hhandler : Balanced config key self handler) :
    Balanced config key self (requireAuth token endpoint handler) := by
  intro (decoded : Bool)
  cases decoded with
  | false => rfl
  | true =>
      intro (judgement : Judgement)
      cases judgement with
      | passed => exact hhandler
      | _ => rfl

omit [FloorRing τ] in
theorem refresh_balanced (token : ℕ) : Balanced config key self (Auth.refresh token) := by
  apply requireAuth_balanced
  intro (account : Option (Account τ))
  change Balanced config key _ (if _ then _ else _)
  split
  · intro issued
    rfl
  · rfl

omit [FloorRing τ] in
theorem changePassword_balanced (token : ℕ) (request : ChangePasswordRequest)
    (houtside : self.phase = .outside) :
    Balanced config key self (Auth.changePassword library token request) := by
  apply requireAuth_balanced
  cases validatePassword library request.newPassword with
  | some message => rfl
  | none =>
      intro (account : Option (Account τ))
      change Balanced config key _ (if _ then _ else _)
      split
      · exact ⟨.outside, congrArg (Phase.committed config) houtside, rfl⟩
      · rfl

omit [FloorRing τ] in
theorem recordFailure_balanced_other {other : String} {allowLockout : Bool}
    {next : Bool → AuthProgram τ} (hother : normalizeRateLimitKey library other ≠ key)
    (hcommits : self.phase.committed config = some self.phase)
    (hnext : ∀ locked (after : Standing τ), after.phase = self.phase → after.fresh = true →
      Balanced config key after (next locked)) :
    Balanced config key self (recordFailure config library other allowLockout next) := by
  intro (now : τ) _
  refine (if_neg hother).mpr ((if_neg hother).mpr fun (row : Option (Attempts τ)) => ?_)
  change Balanced config key _ (if _ then _ else _)
  split
  · exact (if_neg hother).mpr ⟨_, hcommits, hnext true _ rfl rfl⟩
  · exact ⟨_, hcommits, hnext false _ rfl rfl⟩

omit [FloorRing τ] in
theorem recordFailure_balanced {last : τ} {raw : String}
    (hraw : normalizeRateLimitKey library raw = key) (hphase : self.phase = .checked last)
    (hfresh : self.fresh = true) {next : Bool → AuthProgram τ}
    (hnext : ∀ locked (after : Standing τ), after.phase = .outside →
      Balanced config key after (next locked)) :
    Balanced config key self (recordFailure config library raw true next) := by
  intro (now : τ) hnow
  refine (if_pos hraw).mpr ⟨last, hphase, hfresh, (if_pos hraw).mpr ⟨last, rfl, ?_⟩⟩
  intro row
  change Balanced config key _ (if _ then _ else _)
  split
  · exact (if_pos hraw).mpr ⟨last, row.attempts, now, rfl, hnow last hphase, rfl, .outside, rfl,
      hnext true _ rfl⟩
  · next hbelow =>
      have hlt : (row.attempts : ℤ) < config.maxLoginAttempts := by
        simpa using hbelow
      exact ⟨.outside, if_pos hlt, hnext false _ rfl⟩

omit [FloorRing τ] in
theorem reply_locked_balanced (locked : Bool) (lockoutMinutes : ℤ) :
    Balanced config key self
      (if locked then .reply false (.refused (.locked lockoutMinutes))
      else .reply false (.refused .invalidCredentials)) := by
  cases locked <;> rfl

omit [FloorRing τ] in
theorem login_balanced (huser : ∀ name, normalizeRateLimitKey library (userKey name) ≠ key)
    (request : LoginRequest) (houtside : self.phase = .outside) :
    Balanced config key self (Auth.login config library request) := by
  by_cases hkey : normalizeRateLimitKey library (lockKey request.clientIp
      (library.strip (library.lower (library.strip request.username)))) = key
  · refine (if_pos hkey).mpr ⟨houtside, fun remaining => rfl, (if_pos hkey).mpr ⟨rfl, ?_⟩⟩
    intro last
    change Balanced config key _ (if false = true then _ else _)
    rw [if_neg Bool.false_ne_true]
    apply recordFailure_balanced_other (huser _)
    · rfl
    · intro locked after hphase hfresh
      exact recordFailure_balanced hkey hphase hfresh fun locked after _ =>
        reply_locked_balanced locked _
  · refine (if_neg hkey).mpr fun (remaining : Option ℤ) => ?_
    cases remaining with
    | some remaining => rfl
    | none =>
        refine (if_neg hkey).mpr fun (found : Bool) => ?_
        have hcommits : self.phase.committed config = some self.phase := by
          rw [houtside]
          rfl
        cases found with
        | true =>
            change Balanced config key _ (if true = true then _ else _)
            rw [if_pos rfl]
            refine ⟨self.phase, hcommits, huser _, self.phase, hcommits, hkey, self.phase,
              hcommits, ?_⟩
            exact fun token => rfl
        | false =>
            change Balanced config key _ (if false = true then _ else _)
            rw [if_neg Bool.false_ne_true]
            apply recordFailure_balanced_other (huser _)
            · exact hcommits
            intro locked after hphase _
            have hcommits' : after.phase.committed config = some after.phase := by
              rw [hphase]
              exact hcommits
            exact recordFailure_balanced_other hkey hcommits' fun locked after _ _ =>
              reply_locked_balanced locked _

omit [FloorRing τ] in
theorem deleteStaleRows_balanced {now : τ} (keys : List String) {self : Standing τ}
    (houtside : self.phase = .outside ∨ self.phase = .cleaning) (hnow : self.now = some now) :
    Balanced config key self (deleteStaleRows (now - 3600) keys) := by
  induction keys generalizing self with
  | nil =>
      have hcommits : self.phase.committed config = some .outside := by
        rcases houtside with houtside | hcleaning
        · rw [houtside]
          rfl
        · rw [hcleaning]
          rfl
      exact ⟨.outside, hcommits, rfl⟩
  | cons other rest ih =>
      exact ⟨houtside, ⟨now, hnow, by rw [Int.cast_ofNat]⟩, ih (.inr rfl) hnow⟩

omit [FloorRing τ] in
theorem program_balanced (huser : ∀ name, normalizeRateLimitKey library (userKey name) ≠ key)
    (request : AuthRequest τ) :
    Balanced config key .idle (request.program config library) := by
  cases request with
  | wait duration => rfl
  | login request => exact login_balanced huser request rfl
  | refresh token => exact refresh_balanced token
  | changePassword token request => exact changePassword_balanced token request rfl
  | access token endpoint => exact requireAuth_balanced rfl
  | cleanup keys => exact fun now _ => deleteStaleRows_balanced keys (.inl rfl) rfl

end Requests

end SentryWms.Auth
