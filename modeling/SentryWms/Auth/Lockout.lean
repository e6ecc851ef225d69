import SentryWms.Auth.AuthRequests
import SentryWms.Core.Window
import Mathlib.Tactic.Linarith

/-!
# The lockout bounds guessing

The row of a rate-limit key remembers the password checks of the last lockout period: it
counts them, or it is locked until they are past. A check that is made on the strength of
a row that does not yet count an earlier one escapes the bound, and so does one whose
record the cleanup has deleted too early.
-/

namespace SentryWms.Auth

open ReadCommitted Interleaving Transition Window

variable {τ : Type} [Field τ] [LinearOrder τ]

/-! ## The property -/

/-- `LOCKOUT_MINUTES`, in seconds. -/
def lockoutPeriod (config : Config) : τ :=
  (60 * config.lockoutMinutes : ℤ)

/-- The times of the password checks made under a key. -/
def checksOf (db : Database τ) (key : String) : List τ :=
  (db.passwordChecks.filter fun check => check.1 == key).map Prod.snd

/-- In a window that starts at a check there are no more checks than failures allowed. -/
def GuessesBounded (config : Config) (key : String) (db : Database τ) : Prop :=
  ∀ start ∈ checksOf db key,
    (within (checksOf db key) start (lockoutPeriod config) : ℤ) ≤ config.maxLoginAttempts

/-! ## What a row remembers -/

/-- The row remembers the checks: it is as new as the last one, and each is past, or locked
out until it is past, or counted with all that followed it. -/
def RowRemembers (config : Config) (checks : List τ) (clock : τ) :
    Option (Attempts τ) → Prop
  | none => ∀ check ∈ checks, check + lockoutPeriod config ≤ clock
  | some row =>
      (∀ check ∈ checks, check ≤ row.lastAttempt) ∧ ∀ check ∈ checks,
        check + lockoutPeriod config ≤ clock ∨
          (∃ lockedUntil, row.lockedUntil = some lockedUntil ∧
            check + lockoutPeriod config ≤ lockedUntil) ∨
          since checks check ≤ row.attempts ∧
            (since checks check : ℤ) < config.maxLoginAttempts

def MayHold (version : Version (Option (Attempts τ))) (row : Option (Attempts τ)) : Prop :=
  version.committed = some row ∨ version.latest = row

def Remembers (config : Config) (checks : List τ) (clock : τ)
    (version : Version (Option (Attempts τ))) : Prop :=
  ∀ row, MayHold version row → RowRemembers config checks clock row

/-- Whatever the row turns out to hold is not locked. -/
def Unlocked (clock : τ) (version : Version (Option (Attempts τ))) : Prop :=
  ∀ row, MayHold version row → ∀ lockedUntil, row.bind Attempts.lockedUntil = some lockedUntil →
    lockedUntil ≤ clock

def Counted (config : Config) (checks : List τ) (clock : τ) (row : Attempts τ) : Prop :=
  (∀ check ∈ checks, check ≤ row.lastAttempt) ∧ ∀ check ∈ checks,
    check + lockoutPeriod config ≤ clock ∨
      since checks check ≤ row.attempts ∧ (since checks check : ℤ) ≤ config.maxLoginAttempts

section Rows

variable {config : Config} {checks : List τ} {clock time : τ} {row : Option (Attempts τ)}
  {version after : Version (Option (Attempts τ))}

theorem RowRemembers.later (hremembers : RowRemembers config checks clock row)
    (hle : clock ≤ time) : RowRemembers config checks time row := by
  cases row with
  | none => exact fun check hcheck => (hremembers check hcheck).trans hle
  | some row =>
      refine ⟨hremembers.1, fun check hcheck => ?_⟩
      exact (hremembers.2 check hcheck).imp_left fun hpast => hpast.trans hle

theorem Remembers.later (hremembers : Remembers config checks clock version)
    (hle : clock ≤ time) : Remembers config checks time version :=
  fun row hrow => (hremembers row hrow).later hle

theorem Remembers.mono (hremembers : Remembers config checks clock version)
    (hmono : ∀ row, MayHold after row → MayHold version row) :
    Remembers config checks clock after :=
  fun row hrow => hremembers row (hmono row hrow)

omit [Field τ] in
theorem Unlocked.later (hunlocked : Unlocked clock version) (hle : clock ≤ time) :
    Unlocked time version :=
  fun row hrow lockedUntil hlocked => (hunlocked row hrow lockedUntil hlocked).trans hle

omit [Field τ] in
theorem Unlocked.mono (hunlocked : Unlocked clock version)
    (hmono : ∀ row, MayHold after row → MayHold version row) : Unlocked clock after :=
  fun row hrow => hunlocked row (hmono row hrow)

theorem Counted.later {row : Attempts τ} (hcounted : Counted config checks clock row)
    (hle : clock ≤ time) : Counted config checks time row :=
  ⟨hcounted.1, fun check hcheck =>
    (hcounted.2 check hcheck).imp_left fun hpast => hpast.trans hle⟩

omit [Field τ] [LinearOrder τ] in
theorem mayHold_settle {txn : ℕ} (hholds : MayHold (version.settle txn) row) :
    MayHold version row := by
  cases version with
  | stable value => exact hholds
  | written writer committed latest =>
      rw [Version.settle] at hholds
      split at hholds
      · rcases hholds with hcommitted | hlatest
        · exact .inr (Option.some.inj hcommitted)
        · exact .inr hlatest
      · exact hholds

omit [Field τ] [LinearOrder τ] in
theorem mayHold_undo {txn : ℕ} (hholds : MayHold (version.undo txn) row) :
    MayHold version row := by
  cases version with
  | stable value => exact hholds
  | written writer committed latest =>
      cases committed with
      | none => exact hholds
      | some committed =>
          rw [Version.undo] at hholds
          split at hholds
          · rcases hholds with hcommitted | hlatest
            · exact .inl hcommitted
            · exact .inl (congrArg some hlatest)
          · exact hholds

theorem RowRemembers.deleted [IsStrictOrderedRing τ] {row : Attempts τ} {cutoff : τ}
    (hremembers : RowRemembers config checks clock (some row))
    (hperiod : lockoutPeriod config ≤ (3600 : τ)) (hcutoff : cutoff ≤ clock - 3600)
    (hstale : stale cutoff row = true) : RowRemembers config checks clock none := by
  intro check hcheck
  have hold := hremembers.1 check hcheck
  have hlast : row.lastAttempt < cutoff := by
    rw [stale, Bool.and_eq_true, decide_eq_true_eq] at hstale
    exact hstale.1
  linarith

theorem RowRemembers.check [IsStrictOrderedRing τ]
    (hremembers : RowRemembers config checks clock row)
    (hunlocked : ∀ lockedUntil, row.bind Attempts.lockedUntil = some lockedUntil →
      lockedUntil ≤ clock)
    {start : τ} (hstart : start ∈ checks) :
    start + lockoutPeriod config ≤ clock ∨
      since checks start ≤ (row.elim 0 Attempts.attempts) ∧
        (since checks start : ℤ) + 1 ≤ config.maxLoginAttempts := by
  cases row with
  | none => exact .inl (hremembers start hstart)
  | some row =>
      rcases hremembers.2 start hstart with hpast | ⟨lockedUntil, hlocked, huntil⟩ | hcounted
      · exact .inl hpast
      · exact .inl (huntil.trans (hunlocked lockedUntil hlocked))
      · exact .inr hcounted

omit [Field τ] in
theorem since_check_le {checks : List τ} {last start : τ} {bound : ℕ}
    (hordered : ∀ check ∈ checks, check ≤ last) (hstart : start ∈ checks ++ [last])
    (hbound : start ∈ checks → since checks start ≤ bound) :
    since (checks ++ [last]) start ≤ bound + 1 := by
  by_cases hbefore : start ∈ checks
  · exact (since_concat_le _ _ _).trans (Nat.succ_le_succ (hbound hbefore))
  · obtain rfl : start = last := (List.mem_append.mp hstart).elim (absurd · hbefore)
      List.mem_singleton.mp
    have hnone : since checks start = 0 :=
      since_eq_zero fun check hcheck => lt_of_le_of_ne (hordered check hcheck)
        fun heq => hbefore (heq ▸ hcheck)
    rw [since_concat, hnone, if_pos le_rfl]
    exact Nat.succ_le_succ (Nat.zero_le _)

theorem RowRemembers.bounded [IsStrictOrderedRing τ]
    (hremembers : RowRemembers config checks clock row)
    (hunlocked : ∀ lockedUntil, row.bind Attempts.lockedUntil = some lockedUntil →
      lockedUntil ≤ clock)
    (hmax : 1 ≤ config.maxLoginAttempts) (hordered : ∀ check ∈ checks, check ≤ clock)
    (hbounded : ∀ start ∈ checks,
      (within checks start (lockoutPeriod config) : ℤ) ≤ config.maxLoginAttempts) :
    ∀ start ∈ checks ++ [clock],
      (within (checks ++ [clock]) start (lockoutPeriod config) : ℤ) ≤
        config.maxLoginAttempts := by
  intro start hstart
  by_cases hbefore : start ∈ checks
  · rcases hremembers.check hunlocked hbefore with hpast | ⟨-, hcounted⟩
    · rw [within_concat, if_neg fun hwithin => absurd hwithin.2 (not_lt.mpr hpast), add_zero]
      exact hbounded start hbefore
    · have hwithin := within_le_since checks start (lockoutPeriod config)
      have hconcat := within_concat_le checks start clock (lockoutPeriod config)
      omega
  · have hsince : since (checks ++ [clock]) start ≤ 0 + 1 :=
      since_check_le hordered hstart fun hmem => absurd hmem hbefore
    have hwithin := within_le_since (checks ++ [clock]) start (lockoutPeriod config)
    omega

theorem RowRemembers.counted [IsStrictOrderedRing τ]
    (hremembers : RowRemembers config checks clock row)
    (hunlocked : ∀ lockedUntil, row.bind Attempts.lockedUntil = some lockedUntil →
      lockedUntil ≤ clock)
    (hmax : 1 ≤ config.maxLoginAttempts) {last now : τ}
    (hordered : ∀ check ∈ checks, check ≤ last) (hnow : last ≤ now) :
    ∃ counted, countFailure now row = some counted ∧
      Counted config (checks ++ [last]) clock counted := by
  have hnewer : ∀ check ∈ checks ++ [last], check ≤ now := by
    intro check hcheck
    rcases List.mem_append.mp hcheck with hold | hnew
    · exact (hordered check hold).trans hnow
    · rw [List.mem_singleton.mp hnew]
      exact hnow
  have hcounts : ∀ check ∈ checks ++ [last], check + lockoutPeriod config ≤ clock ∨
      since (checks ++ [last]) check ≤ row.elim 0 Attempts.attempts + 1 ∧
        (since (checks ++ [last]) check : ℤ) ≤ config.maxLoginAttempts := by
    intro check hcheck
    by_cases hbefore : check ∈ checks
    · rcases hremembers.check hunlocked hbefore with hpast | ⟨hattempts, hbound⟩
      · exact .inl hpast
      · have hconcat := since_concat_le checks check last
        exact .inr ⟨by omega, by omega⟩
    · have hsince : since (checks ++ [last]) check ≤ 0 + 1 :=
        since_check_le hordered hcheck fun hmem => absurd hmem hbefore
      exact .inr ⟨by omega, by omega⟩
  cases row with
  | none => exact ⟨_, rfl, hnewer, hcounts⟩
  | some row => exact ⟨_, rfl, hnewer, hcounts⟩

theorem Counted.remembers {row : Attempts τ} (hcounted : Counted config checks clock row)
    (hbelow : (row.attempts : ℤ) < config.maxLoginAttempts) :
    RowRemembers config checks clock (some row) := by
  refine ⟨hcounted.1, fun check hcheck => ?_⟩
  rcases hcounted.2 check hcheck with hpast | ⟨hattempts, -⟩
  · exact .inl hpast
  · exact .inr (.inr ⟨hattempts, by omega⟩)

theorem Counted.locked [IsStrictOrderedRing τ] {row : Attempts τ}
    (hcounted : Counted config checks clock row) {last now : τ}
    (hordered : ∀ check ∈ checks, check ≤ last) (hnow : last ≤ now) :
    RowRemembers config checks clock (some { row with
      lockedUntil := some (now + lockoutPeriod config), attempts := 0 }) := by
  refine ⟨hcounted.1, fun check hcheck => .inr (.inl ⟨_, rfl, ?_⟩)⟩
  have hle := (hordered check hcheck).trans hnow
  linarith

end Rows

variable [FloorRing τ]

/-! ## The condition -/

/-- Every login of a key that has passed the lockout check has recorded its failure. -/
def recorded (db : Database τ) (key : String) : Bool :=
  (db.inFlight.all fun entry => entry.2 != key) && !db.abandoned.contains key

/-- A login of the key passes the lockout check only once those before it are recorded, and
no login of the key succeeds. -/
def AllowedGuess (library : Library τ) (key : String) (db : Database τ) (txn : ℕ) :
    Statement τ → Prop
  | .checkRateLimit other =>
      other = key → (remainingLockout db.clock (db.attemptsSeen txn key)).isSome = true ∨
        recorded db key = true
  | .authenticate other username password =>
      other = key → ((db.account.view txn).any fun account =>
        username == db.username && account.isActive &&
          library.checkpw password account.passwordHash) = false
  | _ => True

instance (library : Library τ) (key : String) (db : Database τ) (txn : ℕ)
    (statement : Statement τ) : Decidable (AllowedGuess library key db txn statement) :=
  match statement with
  | .checkRateLimit _ | .authenticate _ _ _ => inferInstanceAs (Decidable (_ → _))
  | .wait _ | .readClock | .touchLastLogin | .upsertFailure _ | .selectAttempts _
  | .setLocked _ _ | .deleteAttempts _ | .deleteStale _ _ | .readAccount | .updatePassword _
  | .commit | .issueToken _ | .decodeToken _ | .checkToken _ _ => instDecidableTrue

end SentryWms.Auth
