import SentryWms.Core.Transition

/-!
# The circuit breaker of a connector

A call makes up to three HTTP attempts. The breaker is consulted before the first one only;
failures are recorded inside the loop of attempts, and once more after a loop that ends in a
network error.
-/

namespace SentryWms.Connectors

open Transition

/-! ## The breaker -/

/-- `CircuitBreakerState`, with the times of `time.monotonic()`. -/
structure CircuitBreakerState where
  threshold : ℕ
  cooldownSeconds : ℤ
  failures : ℕ
  openedAt : Option ℚ

/-- The cooldown that began at this time is not over. -/
def coolingDown (cooldownSeconds : ℤ) (openedAt : Option ℚ) (now : ℚ) : Bool :=
  openedAt.any fun openedAt => decide (now - openedAt < cooldownSeconds)

/-- `check`: whether the call may go on. -/
def CircuitBreakerState.check (breaker : CircuitBreakerState) (now : ℚ) : Bool :=
  !coolingDown breaker.cooldownSeconds breaker.openedAt now

def CircuitBreakerState.recordSuccess (breaker : CircuitBreakerState) :
    CircuitBreakerState :=
  { breaker with failures := 0, openedAt := none }

def CircuitBreakerState.recordFailure (now : ℚ) (breaker : CircuitBreakerState) :
    CircuitBreakerState :=
  { breaker with
    failures := breaker.failures + 1
    openedAt :=
      if breaker.threshold ≤ breaker.failures + 1 ∧ breaker.openedAt = none then some now
      else if breaker.openedAt ≠ none then some now
      else breaker.openedAt }

/-! ## Calls -/

def maxRetriesPerCall : ℕ := 3

/-- How an attempt ends. -/
inductive Outcome where
  | networkError
  | response (status : ℕ)

/-- A response that is not returned but answered by another attempt. -/
def retried (attempt status : ℕ) : Bool :=
  (status == 429 || status == 503) && decide (attempt + 1 < maxRetriesPerCall)

/-- Where a call stands. -/
inductive Phase where
  | idle
  /-- This attempt comes next. -/
  | ready (attempt : ℕ)
  /-- This attempt has been sent. -/
  | sent (attempt : ℕ)
deriving DecidableEq

/-- What the loop of `make_request` does with the end of an attempt: the breaker, and where
the call goes on. -/
def finishAttempt (now : ℚ) (attempt : ℕ) (breaker : CircuitBreakerState) :
    Outcome → CircuitBreakerState × Phase
  | .networkError =>
      if attempt + 1 < maxRetriesPerCall then
        (breaker.recordFailure now, .ready (attempt + 1))
      else ((breaker.recordFailure now).recordFailure now, .idle)
  | .response status =>
      if retried attempt status then (breaker, .ready (attempt + 1))
      else if status < 500 then (breaker.recordSuccess, .idle)
      else (breaker.recordFailure now, .idle)

/-! ## What a breaker should do -/

/-- The failed attempts since the last success, and when the breaker should have opened or
re-opened. -/
structure Watch where
  streak : ℕ
  openedAt : Option ℚ

/-- An attempt that ends in a network error, or whose 5xx response is returned. -/
def failed (attempt : ℕ) : Outcome → Bool
  | .networkError => true
  | .response status => decide (500 ≤ status) && !retried attempt status

/-- A failed attempt opens the breaker when it completes the threshold, and re-opens it; a
response below 500 closes it. -/
def Watch.observe (threshold : ℕ) (now : ℚ) (attempt : ℕ) (outcome : Outcome)
    (watch : Watch) : Watch :=
  if failed attempt outcome then
    { streak := watch.streak + 1
      openedAt :=
        if watch.openedAt.isSome ∨ threshold ≤ watch.streak + 1 then some now else none }
  else
    match outcome with
    | .networkError => watch
    | .response status => if status < 500 then ⟨0, none⟩ else watch

/-! ## Runs -/

/-- A connector; `watch` and `early` only look on. -/
structure Connector where
  now : ℚ
  breaker : CircuitBreakerState
  phase : Phase
  watch : Watch
  /-- An attempt has been sent during a cooldown. -/
  early : Bool

/-- A connector that has just been made. -/
def Connector.start (threshold : ℕ) (cooldownSeconds : ℤ) (now : ℚ) : Connector where
  now := now
  breaker := ⟨threshold, cooldownSeconds, 0, none⟩
  phase := .idle
  watch := ⟨0, none⟩
  early := false

inductive Act where
  /-- Time passes. -/
  | tick (seconds : ℚ)
  /-- `make_request` is called. -/
  | call
  /-- The next attempt is sent. -/
  | send
  /-- The attempt that was sent ends. -/
  | finish (outcome : Outcome)

/-- One event. -/
def step (connector : Connector) : Act → Option Connector
  | .tick seconds =>
      if 0 ≤ seconds then some { connector with now := connector.now + seconds } else none
  | .call =>
      match connector.phase with
      | .idle =>
          if connector.breaker.check connector.now then
            some { connector with phase := .ready 0 }
          else some connector
      | _ => none
  | .send =>
      match connector.phase with
      | .ready attempt =>
          some { connector with
            phase := .sent attempt
            early := connector.early || coolingDown connector.breaker.cooldownSeconds
              connector.watch.openedAt connector.now }
      | _ => none
  | .finish outcome =>
      match connector.phase with
      | .sent attempt =>
          let done := finishAttempt connector.now attempt connector.breaker outcome
          some { connector with
            breaker := done.1
            phase := done.2
            watch := connector.watch.observe connector.breaker.threshold connector.now attempt
              outcome }
      | _ => none

def CircuitBreakerState.opens (breaker : CircuitBreakerState) : Bool :=
  breaker.openedAt.isSome || decide (breaker.threshold ≤ breaker.failures + 1)

/-- A network error comes at the last attempt of its call where it opens or re-opens the
breaker, and only there; a 429 that is retried comes to a closed breaker without failures. -/
def guard (connector : Connector) : Act → Prop
  | .finish .networkError =>
      connector.breaker.opens = true ↔ connector.phase = .sent (maxRetriesPerCall - 1)
  | .finish (.response status) =>
      status = 429 → connector.phase = .sent (maxRetriesPerCall - 1) ∨
        connector.breaker.failures = 0 ∧ connector.breaker.openedAt = none
  | _ => True

instance (connector : Connector) (act : Act) : Decidable (guard connector act) :=
  match act with
  | .finish .networkError =>
      inferInstanceAs (Decidable (connector.breaker.opens = true ↔
        connector.phase = .sent (maxRetriesPerCall - 1)))
  | .finish (.response status) =>
      inferInstanceAs (Decidable (status = 429 →
        connector.phase = .sent (maxRetriesPerCall - 1) ∨
          connector.breaker.failures = 0 ∧ connector.breaker.openedAt = none))
  | .tick _ | .call | .send => isTrue trivial

/-- The breaker is open exactly since the moment it should be, and no attempt was sent
during a cooldown. -/
structure Quiet (connector : Connector) : Prop where
  opened : connector.breaker.openedAt = connector.watch.openedAt
  quiet : connector.early = false

/-! ## One attempt -/

variable {now : ℚ} {attempt : ℕ} {breaker : CircuitBreakerState} {watch : Watch}

/-- The breaker is open since the moment it should be and, while it is closed, counts the
failed attempts. -/
structure Agrees (breaker : CircuitBreakerState) (watch : Watch) : Prop where
  opened : breaker.openedAt = watch.openedAt
  counted : breaker.openedAt = none → breaker.failures = watch.streak

theorem recordFailure_openedAt (now : ℚ) (breaker : CircuitBreakerState) :
    (breaker.recordFailure now).openedAt = if breaker.opens then some now else none := by
  rw [CircuitBreakerState.recordFailure, CircuitBreakerState.opens]
  cases breaker.openedAt <;> simp

variable {outcome : Outcome}

theorem observe_failed (threshold : ℕ) (now : ℚ) (watch : Watch)
    (hfailed : failed attempt outcome = true) :
    watch.observe threshold now attempt outcome =
      { streak := watch.streak + 1
        openedAt :=
          if watch.openedAt.isSome ∨ threshold ≤ watch.streak + 1 then some now else none } :=
  if_pos hfailed

theorem observe_response (threshold : ℕ) (now : ℚ) (watch : Watch) {status : ℕ}
    (hfailed : failed attempt (.response status) = false) :
    watch.observe threshold now attempt (.response status) =
      if status < 500 then ⟨0, none⟩ else watch :=
  if_neg (by rw [hfailed]; exact Bool.false_ne_true)

theorem Agrees.failure (hagrees : Agrees breaker watch)
    (hfailed : failed attempt outcome = true) :
    Agrees (breaker.recordFailure now)
      (watch.observe breaker.threshold now attempt outcome) := by
  have hopens : breaker.opens = true ↔
      watch.openedAt.isSome = true ∨ breaker.threshold ≤ watch.streak + 1 := by
    rw [CircuitBreakerState.opens, Bool.or_eq_true, decide_eq_true_iff, hagrees.opened]
    cases hopened : watch.openedAt with
    | some openedAt => simp
    | none =>
        have hcount := hagrees.counted (hagrees.opened.trans hopened)
        simp [hcount]
  rw [observe_failed _ _ _ hfailed]
  constructor
  · rw [recordFailure_openedAt]
    by_cases hopen : breaker.opens = true
    · rw [if_pos hopen]
      exact (if_pos (hopens.mp hopen)).symm
    · rw [if_neg hopen]
      exact (if_neg fun hwatch => hopen (hopens.mpr hwatch)).symm
  · intro hclosed
    rw [recordFailure_openedAt] at hclosed
    split at hclosed
    · cases hclosed
    · next hshut =>
        have hnone : breaker.openedAt = none := by
          rw [CircuitBreakerState.opens, Bool.or_eq_true, not_or, Bool.not_eq_true,
            Option.isSome_eq_false_iff, Option.isNone_iff_eq_none] at hshut
          exact hshut.1
        exact congrArg (· + 1) (hagrees.counted hnone)

theorem Agrees.again (hagrees : Agrees breaker watch) (hopen : breaker.openedAt = some now) :
    Agrees (breaker.recordFailure now) watch := by
  have hopens : breaker.opens = true := by
    rw [CircuitBreakerState.opens, hopen]
    rfl
  have hopened : (breaker.recordFailure now).openedAt = some now := by
    rw [recordFailure_openedAt, if_pos hopens]
  constructor
  · rw [hopened, ← hopen, hagrees.opened]
  · intro hclosed
    rw [hopened] at hclosed
    cases hclosed

theorem Agrees.networkError (hagrees : Agrees breaker watch)
    (hattempt : attempt < maxRetriesPerCall)
    (hopens : breaker.opens = true ↔ attempt = maxRetriesPerCall - 1) :
    Agrees (finishAttempt now attempt breaker .networkError).1
      (watch.observe breaker.threshold now attempt .networkError) := by
  have hfirst : Agrees (breaker.recordFailure now)
      (watch.observe breaker.threshold now attempt .networkError) := hagrees.failure rfl
  rw [finishAttempt]
  split
  · exact hfirst
  · next hlast =>
      apply hfirst.again
      rw [recordFailure_openedAt, if_pos]
      apply hopens.mpr
      unfold maxRetriesPerCall at hattempt hlast ⊢
      omega

theorem Agrees.response (hagrees : Agrees breaker watch) {status : ℕ}
    (hretried : status = 429 → retried attempt status = false ∨
      breaker.failures = 0 ∧ breaker.openedAt = none) :
    Agrees (finishAttempt now attempt breaker (.response status)).1
      (watch.observe breaker.threshold now attempt (.response status)) := by
  rw [finishAttempt]
  cases hagain : retried attempt status with
  | true =>
      have hpassed : failed attempt (.response status) = false := by
        rw [failed, hagain, Bool.not_true, Bool.and_false]
      rw [if_pos rfl, observe_response _ _ _ hpassed]
      split
      · next hbelow =>
          have hlimited : status = 429 := by
            rw [retried, Bool.and_eq_true, Bool.or_eq_true, beq_iff_eq, beq_iff_eq] at hagain
            omega
          rcases hretried hlimited with hreturned | ⟨hcount, hclosed⟩
          · rw [hagain] at hreturned
            cases hreturned
          · exact ⟨hclosed, fun _ => hcount⟩
      · exact hagrees
  | false =>
      rw [if_neg Bool.false_ne_true]
      split
      · next hbelow =>
          have hpassed : failed attempt (.response status) = false := by
            rw [failed, decide_eq_false (Nat.not_le.mpr hbelow), Bool.false_and]
          rw [observe_response _ _ _ hpassed, if_pos hbelow]
          exact ⟨rfl, fun _ => rfl⟩
      · next hserver =>
          have hfailed : failed attempt (.response status) = true := by
            rw [failed, hagain, decide_eq_true (Nat.not_lt.mp hserver)]
            rfl
          exact hagrees.failure hfailed

/-! ## Every run -/

/-- What holds of a connector at any moment. -/
structure Sound (connector : Connector) : Prop where
  agrees : Agrees connector.breaker connector.watch
  quiet : connector.early = false
  attempts : ∀ attempt, connector.phase = .ready attempt ∨ connector.phase = .sent attempt →
    attempt < maxRetriesPerCall
  /-- During a call there is no cooldown. -/
  calm : connector.phase ≠ .idle →
    coolingDown connector.breaker.cooldownSeconds connector.breaker.openedAt connector.now =
      false

theorem sound_start (threshold : ℕ) (cooldownSeconds : ℤ) (now : ℚ) :
    Sound (Connector.start threshold cooldownSeconds now) where
  agrees := ⟨rfl, fun _ => rfl⟩
  quiet := rfl
  attempts := by
    rintro attempt (hready | hsent)
    · cases hready
    · cases hsent
  calm := fun hcall => absurd rfl hcall

/-- A cooldown that is over stays over. -/
theorem coolingDown_later {cooldownSeconds : ℤ} {openedAt : Option ℚ} {now seconds : ℚ}
    (hseconds : 0 ≤ seconds) (hcalm : coolingDown cooldownSeconds openedAt now = false) :
    coolingDown cooldownSeconds openedAt (now + seconds) = false := by
  cases openedAt with
  | none => rfl
  | some openedAt =>
      rw [coolingDown, Option.any_some, decide_eq_false_iff_not, not_lt] at hcalm ⊢
      linarith

theorem finishAttempt_ready {cooldownSeconds : ℤ} {next : ℕ}
    (hnext : (finishAttempt now attempt breaker outcome).2 = .ready next)
    (hcalm : coolingDown cooldownSeconds breaker.openedAt now = false)
    (hopens : outcome = .networkError → attempt + 1 < maxRetriesPerCall → breaker.opens = false) :
    next < maxRetriesPerCall ∧ coolingDown cooldownSeconds
      (finishAttempt now attempt breaker outcome).1.openedAt now = false := by
  cases outcome with
  | networkError =>
      rw [finishAttempt] at hnext ⊢
      split at hnext
      · next hmore =>
          cases hnext
          refine ⟨hmore, ?_⟩
          rw [if_pos hmore, recordFailure_openedAt, hopens rfl hmore,
            if_neg Bool.false_ne_true]
          rfl
      · cases hnext
  | response status =>
      rw [finishAttempt] at hnext ⊢
      split at hnext
      · next hagain =>
          cases hnext
          rw [if_pos hagain]
          rw [retried, Bool.and_eq_true, decide_eq_true_iff] at hagain
          exact ⟨hagain.2, hcalm⟩
      · split at hnext <;> cases hnext

theorem finishAttempt_sent {next : ℕ} :
    (finishAttempt now attempt breaker outcome).2 ≠ .sent next := by
  cases outcome with
  | networkError =>
      rw [finishAttempt]
      split <;> exact fun heq => by cases heq
  | response status =>
      rw [finishAttempt]
      split
      · exact fun heq => by cases heq
      · split <;> exact fun heq => by cases heq

theorem finishAttempt_cooldown :
    (finishAttempt now attempt breaker outcome).1.cooldownSeconds = breaker.cooldownSeconds := by
  cases outcome with
  | networkError =>
      rw [finishAttempt]
      split <;> rfl
  | response status =>
      rw [finishAttempt]
      split
      · rfl
      · split <;> rfl

variable {connector next : Connector}

theorem Sound.finish (hsound : Sound connector) (hguard : guard connector (.finish outcome))
    (hsent : connector.phase = .sent attempt) :
    Sound { connector with
      breaker := (finishAttempt connector.now attempt connector.breaker outcome).1
      phase := (finishAttempt connector.now attempt connector.breaker outcome).2
      watch := connector.watch.observe connector.breaker.threshold connector.now attempt
        outcome } := by
  have hattempt := hsound.attempts attempt (.inr hsent)
  have hcalm := hsound.calm (by rw [hsent]; exact fun heq => by cases heq)
  have hopens : outcome = .networkError →
      (connector.breaker.opens = true ↔ attempt = maxRetriesPerCall - 1) := by
    rintro rfl
    rw [guard, hsent, Phase.sent.injEq] at hguard
    exact hguard
  have hready : ∀ {next},
      (finishAttempt connector.now attempt connector.breaker outcome).2 = .ready next →
      next < maxRetriesPerCall ∧ coolingDown connector.breaker.cooldownSeconds
        (finishAttempt connector.now attempt connector.breaker outcome).1.openedAt
          connector.now = false := by
    intro next hnext
    apply finishAttempt_ready hnext hcalm
    intro hnetwork hmore
    rw [← Bool.not_eq_true, hopens hnetwork]
    omega
  refine ⟨?_, hsound.quiet, ?_, ?_⟩
  · cases outcome with
    | networkError => exact hsound.agrees.networkError hattempt (hopens rfl)
    | response status =>
        apply hsound.agrees.response
        intro hlimited
        rw [guard, hsent, Phase.sent.injEq] at hguard
        rcases hguard hlimited with hlast | hclosed
        · left
          rw [retried, hlast]
          exact Bool.and_false _
        · exact .inr hclosed
  · rintro next (hnext | hnext)
    · exact (hready hnext).1
    · exact absurd hnext finishAttempt_sent
  · intro hcall
    rw [finishAttempt_cooldown]
    cases hphase : (finishAttempt connector.now attempt connector.breaker outcome).2 with
    | idle => exact absurd hphase hcall
    | ready next => exact (hready hphase).2
    | sent next => exact absurd hphase finishAttempt_sent

/-- Every event that meets the condition keeps what holds of a connector. -/
theorem step_sound {act : Act} (hsound : Sound connector) (hguard : guard connector act)
    (hstep : step connector act = some next) : Sound next := by
  cases act with
  | tick seconds =>
      rw [step] at hstep
      split at hstep
      · next hseconds =>
          cases hstep
          exact ⟨hsound.agrees, hsound.quiet, hsound.attempts,
            fun hcall => coolingDown_later hseconds (hsound.calm hcall)⟩
      · cases hstep
  | call =>
      rw [step] at hstep
      split at hstep
      · next hidle =>
          split at hstep
          · next hcheck =>
              cases hstep
              refine ⟨hsound.agrees, hsound.quiet, ?_, fun _ => ?_⟩
              · rintro attempt (hready | hsent)
                · cases hready
                  decide
                · cases hsent
              · rw [CircuitBreakerState.check, Bool.not_eq_true'] at hcheck
                exact hcheck
          · cases hstep
            exact hsound
      · cases hstep
  | send =>
      rw [step] at hstep
      split at hstep
      · next attempt hready =>
          cases hstep
          have hcalm := hsound.calm (by rw [hready]; exact fun heq => by cases heq)
          refine ⟨hsound.agrees, ?_, ?_, fun _ => hcalm⟩
          · rw [hsound.quiet, ← hsound.agrees.opened, hcalm]
            rfl
          · rintro attempt' (hready' | hsent)
            · cases hready'
            · cases hsent
              exact hsound.attempts attempt (.inl hready)
      · cases hstep
  | finish outcome =>
      rw [step] at hstep
      split at hstep
      · next attempt hsent =>
          cases hstep
          exact hsound.finish hguard hsent
      · cases hstep

/-- In every run that meets the condition the breaker opens, re-opens and closes exactly
when it should, and no attempt is sent during a cooldown. -/
theorem breaker_quiet {threshold : ℕ} {cooldownSeconds : ℤ} {now : ℚ} {acts : List Act}
    {connector : Connector}
    (hrun : Run step guard (Connector.start threshold cooldownSeconds now) acts connector) :
    Quiet connector := by
  have hsound := hrun.invariant Sound
    (fun hsound hguard hstep => step_sound hsound hguard hstep)
    (sound_start threshold cooldownSeconds now)
  exact ⟨hsound.agrees.opened, hsound.quiet⟩

/-- One call whose three attempts end in a network error. -/
def brokenCall : List Act :=
  [.call, .send, .finish .networkError, .send, .finish .networkError, .send,
    .finish .networkError]

/-- With a threshold of three, the third network error opens the breaker. A call during the
cooldown sends nothing, and the call after it closes the breaker. -/
def recovery : List Act :=
  brokenCall ++ [.tick 299, .call, .tick 1, .call, .send, .finish (.response 200)]

def afterRecovery : Connector :=
  (execute step guard (Connector.start 3 300 0) recovery).getD (Connector.start 3 300 0)

theorem recovery_quiet : Quiet afterRecovery := by
  have hsome : (execute step guard (Connector.start 3 300 0) recovery).isSome = true := by
    decide +kernel
  have hrun : Run step guard (Connector.start 3 300 0) recovery afterRecovery := by
    apply Run.ofExecute
    obtain ⟨connector, hexecute⟩ := Option.isSome_iff_exists.mp hsome
    rw [afterRecovery, hexecute, Option.getD_some]
  exact breaker_quiet hrun

/-- Three network errors of one call count four times, and the fourth failed attempt opens a
breaker whose threshold is five. -/
theorem fourth_failure_opens : ∃ connector,
    Run step (fun _ _ => True) (Connector.start 5 300 0)
      (brokenCall ++ [.call, .send, .finish .networkError]) connector ∧
      ¬ Quiet connector := by
  let after := execute step (fun _ _ => True) (Connector.start 5 300 0)
    (brokenCall ++ [.call, .send, .finish .networkError])
  have hopened : after.map (fun connector =>
      (connector.breaker.openedAt, connector.watch.openedAt)) = some (some 0, none) := by
    decide +kernel
  obtain ⟨connector, hexecute, hpair⟩ := Option.map_eq_some_iff.mp hopened
  rw [Prod.mk.injEq] at hpair
  refine ⟨connector, Run.ofExecute hexecute, fun hquiet => ?_⟩
  have hagree := hquiet.opened
  rw [hpair.1, hpair.2] at hagree
  cases hagree

end SentryWms.Connectors
