import SentryWms.Core.Table
import SentryWms.Core.Transition

/-!
# The token bucket of a subscription

`services/webhook_dispatcher/rate_limiter.py`, over exact rationals: a bucket that refills
at its rate up to its capacity, calls that take one token or wait, and changes of the rate
in between. Whatever the interleaving, no interval sees more successful calls than the
largest rate times one second more than its length.
-/

namespace SentryWms.Webhook.RateLimiter

open Relational Transition

/-! ## The bucket -/

structure TokenBucket where
  rate : ℚ
  capacity : ℚ
  tokens : ℚ
  lastRefill : ℚ

/-- `__init__`: a full bucket, at a reading of the clock. -/
def TokenBucket.init (ratePerSecond : ℤ) (now : ℚ) : Except String TokenBucket :=
  if ratePerSecond ≤ 0 then .error "rate_per_second must be a positive integer"
  else .ok ⟨ratePerSecond, ratePerSecond, ratePerSecond, now⟩

/-- `_refill_locked`. -/
def TokenBucket.refill (bucket : TokenBucket) (now : ℚ) : TokenBucket :=
  let elapsed := now - bucket.lastRefill
  if 0 < elapsed then
    { bucket with
      tokens := min bucket.capacity (bucket.tokens + elapsed * bucket.rate)
      lastRefill := now }
  else bucket

def TokenBucket.setRate (bucket : TokenBucket) (ratePerSecond : ℤ) (now : ℚ) :
    Except String TokenBucket :=
  if ratePerSecond ≤ 0 then .error "rate_per_second must be a positive integer"
  else if ⌊bucket.rate⌋ = ratePerSecond then .ok bucket
  else
    .ok { rate := ratePerSecond
          capacity := ratePerSecond
          tokens := if (ratePerSecond : ℚ) < bucket.tokens then ratePerSecond
            else bucket.tokens
          lastRefill := now }

/-- What a call does while it holds the lock: refill, and take a token if there is one. -/
def TokenBucket.take (bucket : TokenBucket) (now : ℚ) : TokenBucket × Bool :=
  let refilled := bucket.refill now
  if 1 ≤ refilled.tokens then ({ refilled with tokens := refilled.tokens - 1 }, true)
  else (refilled, false)

/-- `wait_for_one`: how long one token takes to come. -/
def TokenBucket.waitForOne (bucket : TokenBucket) : ℚ := (1 - bucket.tokens) / bucket.rate

/-! ## Calls -/

/-- Where a call of `acquire` is. -/
inductive Phase where
  | checking
  | locking
  | missed (waitForOne : ℚ)
  | sleeping (wakeAt : ℚ)
  | returned (acquired : Bool)

/-- A call of `acquire`: its deadline, and whether it was given the shutdown event. -/
structure Call where
  deadline : ℚ
  watches : Bool
  phase : Phase := .checking

/-- The bucket, the clock, the shutdown event, the calls, and when tokens were taken. -/
structure Limiter where
  bucket : TokenBucket
  clock : ℚ
  shutdown : Bool := false
  calls : Table Call := .empty
  taken : List ℚ := []

/-- What can happen, at a reading of the clock. -/
inductive Act where
  | acquire (timeoutS : ℚ) (watches : Bool)
  | proceed (callId : ℕ)
  | setRate (ratePerSecond : ℤ)
  | shutDown

def lockStep (limiter : Limiter) (callId : ℕ) : Limiter :=
  let (bucket, acquired) := limiter.bucket.take limiter.clock
  if acquired then
    { limiter with
      bucket := bucket
      calls := limiter.calls.modify callId ({ · with phase := .returned true })
      taken := limiter.clock :: limiter.taken }
  else
    { limiter with
      bucket := bucket
      calls := limiter.calls.modify callId ({ · with phase := .missed bucket.waitForOne }) }

/-- The next step of a call. -/
def proceed (limiter : Limiter) (callId : ℕ) (call : Call) : Option Limiter :=
  let goTo (phase : Phase) : Limiter :=
    { limiter with calls := limiter.calls.modify callId ({ · with phase := phase }) }
  match call.phase with
  | .checking =>
      if call.watches ∧ limiter.shutdown then some (goTo (.returned false))
      else some (goTo .locking)
  | .locking => some (lockStep limiter callId)
  | .missed waitForOne =>
      let remaining := call.deadline - limiter.clock
      if remaining ≤ 0 then some (goTo (.returned false))
      else some (goTo (.sleeping (limiter.clock + min (min waitForOne remaining) (1 / 2))))
  | .sleeping wakeAt =>
      if call.watches ∧ limiter.shutdown then some (goTo (.returned false))
      else if wakeAt ≤ limiter.clock then some (goTo .checking)
      else none
  | .returned _ => none

/-- One step, at a reading of a clock that never goes back. -/
def step (limiter : Limiter) (event : ℚ × Act) : Option Limiter :=
  if event.1 < limiter.clock then none
  else
    let limiter := { limiter with clock := event.1 }
    match event.2 with
    | .acquire timeoutS watches =>
        some { limiter with
          calls := limiter.calls.insert ⟨limiter.clock + timeoutS, watches, .checking⟩ }
    | .proceed callId => (limiter.calls.get? callId).bind (proceed limiter callId)
    | .setRate ratePerSecond =>
        match limiter.bucket.setRate ratePerSecond limiter.clock with
        | .error _ => some limiter
        | .ok bucket => some { limiter with bucket := bucket }
    | .shutDown => some { limiter with shutdown := true }

/-- No rate is set above the largest. -/
def RateAtMost (maxRate : ℤ) (_ : Limiter) (event : ℚ × Act) : Prop :=
  match event.2 with
  | .setRate ratePerSecond => ratePerSecond ≤ maxRate
  | _ => True

instance (maxRate : ℤ) (limiter : Limiter) (event : ℚ × Act) :
    Decidable (RateAtMost maxRate limiter event) :=
  match event with
  | (_, .setRate ratePerSecond) => inferInstanceAs (Decidable (ratePerSecond ≤ maxRate))
  | (_, .acquire _ _) => inferInstanceAs (Decidable True)
  | (_, .proceed _) => inferInstanceAs (Decidable True)
  | (_, .shutDown) => inferInstanceAs (Decidable True)

def start (bucket : TokenBucket) : Limiter :=
  { bucket := bucket, clock := bucket.lastRefill }

/-! ## The bucket is sound -/

/-- The bucket holds no more than its capacity, which is its rate and no larger than the
largest. -/
structure TokenBucket.Sound (maxRate now : ℚ) (bucket : TokenBucket) : Prop where
  positive : 0 < bucket.rate
  capacity : bucket.capacity = bucket.rate
  bounded : bucket.rate ≤ maxRate
  nonneg : 0 ≤ bucket.tokens
  full : bucket.tokens ≤ bucket.capacity
  past : bucket.lastRefill ≤ now

/-- What a refill at that time would find in the bucket. -/
def TokenBucket.level (bucket : TokenBucket) (now : ℚ) : ℚ :=
  min bucket.capacity (bucket.tokens + (now - bucket.lastRefill) * bucket.rate)

section Bucket

variable {maxRate now later : ℚ} {bucket bucket' : TokenBucket}

theorem TokenBucket.Sound.mono (hsound : bucket.Sound maxRate now) (hlater : now ≤ later) :
    bucket.Sound maxRate later :=
  { hsound with past := hsound.past.trans hlater }

theorem TokenBucket.Sound.level_nonneg (hsound : bucket.Sound maxRate now) :
    0 ≤ bucket.level now := by
  have hgain : 0 ≤ (now - bucket.lastRefill) * bucket.rate :=
    mul_nonneg (sub_nonneg.mpr hsound.past) hsound.positive.le
  have hcapacity : 0 ≤ bucket.capacity := by
    rw [hsound.capacity]
    exact hsound.positive.le
  exact le_min hcapacity (add_nonneg hsound.nonneg hgain)

theorem TokenBucket.Sound.level_le (hsound : bucket.Sound maxRate now) (at' : ℚ) :
    bucket.level at' ≤ maxRate :=
  calc bucket.level at' ≤ bucket.capacity := min_le_left _ _
    _ = bucket.rate := hsound.capacity
    _ ≤ maxRate := hsound.bounded

theorem TokenBucket.Sound.level_later (hsound : bucket.Sound maxRate now)
    (hlater : now ≤ later) : bucket.level later ≤ bucket.level now + maxRate * (later - now) := by
  have hgain : (later - now) * bucket.rate ≤ maxRate * (later - now) := by
    rw [mul_comm]
    exact mul_le_mul_of_nonneg_right hsound.bounded (sub_nonneg.mpr hlater)
  have hnonneg : 0 ≤ (later - now) * bucket.rate :=
    mul_nonneg (sub_nonneg.mpr hlater) hsound.positive.le
  have hsplit : bucket.tokens + (later - bucket.lastRefill) * bucket.rate =
      bucket.tokens + (now - bucket.lastRefill) * bucket.rate + (later - now) * bucket.rate := by
    ring
  rw [TokenBucket.level, TokenBucket.level, hsplit]
  rcases min_cases bucket.capacity
    (bucket.tokens + (now - bucket.lastRefill) * bucket.rate) with ⟨hmin, -⟩ | ⟨hmin, -⟩
  · rw [hmin]
    exact (min_le_left _ _).trans (by linarith)
  · rw [hmin]
    exact (min_le_right _ _).trans (by linarith)

theorem TokenBucket.Sound.refill_tokens (hsound : bucket.Sound maxRate now) :
    (bucket.refill now).tokens = bucket.level now := by
  rw [TokenBucket.refill, TokenBucket.level]
  by_cases helapsed : 0 < now - bucket.lastRefill
  · simp only [helapsed, if_true]
  · have hsame : now - bucket.lastRefill = 0 :=
      le_antisymm (not_lt.mp helapsed) (sub_nonneg.mpr hsound.past)
    simp [hsame, min_eq_right hsound.full]

theorem TokenBucket.Sound.refill (hsound : bucket.Sound maxRate now) :
    (bucket.refill now).Sound maxRate now ∧ (bucket.refill now).lastRefill = now := by
  have htokens := hsound.refill_tokens
  have hnonneg := hsound.level_nonneg
  have hfull : bucket.level now ≤ bucket.capacity := min_le_left _ _
  rw [TokenBucket.refill] at htokens ⊢
  by_cases helapsed : 0 < now - bucket.lastRefill
  · simp only [helapsed, if_true] at htokens ⊢
    exact ⟨⟨hsound.positive, hsound.capacity, hsound.bounded, by simpa [htokens] using hnonneg,
      by simp, le_rfl⟩, trivial⟩
  · have hsame : bucket.lastRefill = now := by
      have hpast := hsound.past
      linarith [not_lt.mp helapsed]
    simp only [helapsed, if_false]
    exact ⟨hsound, hsame⟩

theorem TokenBucket.level_of_lastRefill (hsound : bucket.Sound maxRate now)
    (hlast : bucket.lastRefill = now) : bucket.level now = bucket.tokens := by
  simp [TokenBucket.level, hlast, hsound.full]

theorem TokenBucket.Sound.take (hsound : bucket.Sound maxRate now) :
    (bucket.take now).1.Sound maxRate now ∧
      (bucket.take now).1.level now + (if (bucket.take now).2 then 1 else 0) =
        bucket.level now := by
  obtain ⟨hrefill, hlast⟩ := hsound.refill
  have htokens := hsound.refill_tokens
  rw [TokenBucket.take]
  by_cases hone : 1 ≤ (bucket.refill now).tokens
  · have hsound' : TokenBucket.Sound maxRate now
        { bucket.refill now with tokens := (bucket.refill now).tokens - 1 } :=
      ⟨hrefill.positive, hrefill.capacity, hrefill.bounded, by simpa using hone,
        by
          have hfull := hrefill.full
          dsimp only
          linarith, hrefill.past⟩
    simp only [hone, if_true]
    refine ⟨hsound', ?_⟩
    rw [TokenBucket.level_of_lastRefill hsound' hlast, ← htokens]
    exact sub_add_cancel _ _
  · simp only [hone, if_false]
    refine ⟨hrefill, ?_⟩
    rw [TokenBucket.level_of_lastRefill hrefill hlast, htokens]
    simp

theorem TokenBucket.Sound.setRate {ratePerSecond : ℤ} (hsound : bucket.Sound maxRate now)
    (hrate : (ratePerSecond : ℚ) ≤ maxRate)
    (hset : bucket.setRate ratePerSecond now = .ok bucket') :
    bucket'.Sound maxRate now ∧ bucket'.level now ≤ bucket.level now := by
  rw [TokenBucket.setRate] at hset
  split at hset
  · cases hset
  rename_i hpositive
  split at hset
  · cases hset
    exact ⟨hsound, le_rfl⟩
  cases hset
  have hpos : (0 : ℚ) < ratePerSecond := by exact_mod_cast not_le.mp hpositive
  have htokens : bucket.tokens ≤ bucket.level now := by
    apply le_min hsound.full
    have hgain : 0 ≤ (now - bucket.lastRefill) * bucket.rate :=
      mul_nonneg (sub_nonneg.mpr hsound.past) hsound.positive.le
    linarith
  have hnonneg := hsound.nonneg
  by_cases hclamp : (ratePerSecond : ℚ) < bucket.tokens
  · simp only [hclamp, if_true]
    refine ⟨⟨hpos, rfl, hrate, hpos.le, le_rfl, le_rfl⟩, ?_⟩
    simp only [TokenBucket.level, sub_self, zero_mul, add_zero, min_self]
    exact hclamp.le.trans htokens
  · simp only [hclamp, if_false]
    refine ⟨⟨hpos, rfl, hrate, hnonneg, not_lt.mp hclamp, le_rfl⟩, ?_⟩
    simp only [TokenBucket.level, sub_self, zero_mul, add_zero]
    exact (min_le_right _ _).trans htokens

end Bucket

/-! ## How many tokens an interval sees taken -/

/-- How many of the times lie in a closed interval. -/
def takenWithin (first length : ℚ) (taken : List ℚ) : ℕ :=
  taken.countP fun time => first ≤ time ∧ time ≤ first + length

/-- What an interval has seen taken, and what the bucket can still give, is paid for by
one second and the time that has passed of the interval. -/
structure Metered (maxRate first length : ℚ) (limiter : Limiter) : Prop where
  sound : limiter.bucket.Sound maxRate limiter.clock
  before : limiter.clock < first → takenWithin first length limiter.taken = 0
  within : first ≤ limiter.clock → limiter.clock ≤ first + length →
    takenWithin first length limiter.taken + limiter.bucket.level limiter.clock ≤
      maxRate * (1 + (limiter.clock - first))
  after : first + length < limiter.clock →
    (takenWithin first length limiter.taken : ℚ) ≤ maxRate * (1 + length)

section Metering

variable {maxRate first length : ℚ} {limiter next : Limiter}

theorem Metered.maxRate_pos (hmetered : Metered maxRate first length limiter) :
    0 < maxRate :=
  hmetered.sound.positive.trans_le hmetered.sound.bounded

/-- Time passes. -/
theorem Metered.advance (hlength : 0 ≤ length) {now : ℚ}
    (hmetered : Metered maxRate first length limiter) (hnow : limiter.clock ≤ now) :
    Metered maxRate first length { limiter with clock := now } := by
  have hpos := hmetered.maxRate_pos
  have hlevel := hmetered.sound.level_later hnow
  have hmax := hmetered.sound.level_le now
  have hnonneg := hmetered.sound.level_nonneg
  refine ⟨hmetered.sound.mono hnow, ?_, ?_, ?_⟩
  · intro hbefore
    exact hmetered.before (hnow.trans_lt hbefore)
  · intro hfirst hlast
    rcases lt_or_ge limiter.clock first with hearly | hstarted
    · have hpast : 0 ≤ maxRate * (now - first) := mul_nonneg hpos.le (sub_nonneg.mpr hfirst)
      simp only [hmetered.before hearly, Nat.cast_zero, zero_add]
      linarith
    · have hwithin := hmetered.within hstarted (hnow.trans hlast)
      have hsplit : maxRate * (1 + (now - first)) =
          maxRate * (1 + (limiter.clock - first)) + maxRate * (now - limiter.clock) := by ring
      rw [hsplit]
      dsimp only
      linarith
  · intro hafter
    rcases lt_or_ge limiter.clock first with hearly | hstarted
    · have hwhole : 0 ≤ maxRate * (1 + length) := mul_nonneg hpos.le (by linarith)
      simpa [hmetered.before hearly] using hwhole
    · rcases le_or_gt limiter.clock (first + length) with hlast | hlast
      · have hwithin := hmetered.within hstarted hlast
        have hbound : maxRate * (1 + (limiter.clock - first)) ≤ maxRate * (1 + length) :=
          mul_le_mul_of_nonneg_left (by linarith) hpos.le
        dsimp only
        linarith
      · exact hmetered.after hlast

/-- A bucket that can give no more is put in the place of another. -/
theorem Metered.replace (hmetered : Metered maxRate first length limiter)
    (hclock : next.clock = limiter.clock) (htaken : next.taken = limiter.taken)
    (hsound : next.bucket.Sound maxRate limiter.clock)
    (hlevel : next.bucket.level limiter.clock ≤ limiter.bucket.level limiter.clock) :
    Metered maxRate first length next := by
  refine ⟨by rw [hclock]; exact hsound, ?_, ?_, ?_⟩
  · rw [hclock, htaken]
    exact hmetered.before
  · rw [hclock, htaken]
    intro hfirst hlast
    have hwithin := hmetered.within hfirst hlast
    linarith
  · rw [hclock, htaken]
    exact hmetered.after

theorem Metered.lockStep (hmetered : Metered maxRate first length limiter) (callId : ℕ) :
    Metered maxRate first length (lockStep limiter callId) := by
  obtain ⟨hsound, hlevel⟩ := hmetered.sound.take
  rw [RateLimiter.lockStep]
  cases hacquired : (limiter.bucket.take limiter.clock).2 with
  | false =>
      rw [hacquired] at hlevel
      simp only [hacquired, Bool.false_eq_true, if_false]
      exact hmetered.replace rfl rfl hsound (by simpa using hlevel.le)
  | true =>
      rw [hacquired, if_pos rfl] at hlevel
      simp only [hacquired, if_true]
      refine ⟨hsound, ?_, ?_, ?_⟩
      · intro hbefore
        have hcount := hmetered.before hbefore
        rw [takenWithin, List.countP_cons_of_neg (by simp [hbefore.not_ge])]
        exact hcount
      · intro hfirst hlast
        have hwithin := hmetered.within hfirst hlast
        rw [takenWithin, List.countP_cons_of_pos (by simp [hfirst, hlast]), Nat.cast_add,
          Nat.cast_one]
        change _ + (limiter.bucket.take limiter.clock).1.level limiter.clock ≤ _
        rw [takenWithin] at hwithin
        linarith
      · intro hafter
        have hcount := hmetered.after hafter
        rw [takenWithin, List.countP_cons_of_neg (by simp [hafter.not_ge])]
        exact hcount

theorem Metered.proceed {callId : ℕ} {call : Call}
    (hmetered : Metered maxRate first length limiter)
    (hproceed : proceed limiter callId call = some next) :
    Metered maxRate first length next := by
  unfold RateLimiter.proceed at hproceed
  cases hphase : call.phase with
  | checking =>
      simp only [hphase] at hproceed
      split at hproceed <;> cases hproceed <;>
        exact hmetered.replace rfl rfl hmetered.sound le_rfl
  | locking =>
      simp only [hphase] at hproceed
      cases hproceed
      exact hmetered.lockStep callId
  | missed waitForOne =>
      simp only [hphase] at hproceed
      split at hproceed <;> cases hproceed <;>
        exact hmetered.replace rfl rfl hmetered.sound le_rfl
  | sleeping wakeAt =>
      simp only [hphase] at hproceed
      split at hproceed
      · cases hproceed
        exact hmetered.replace rfl rfl hmetered.sound le_rfl
      · split at hproceed
        · cases hproceed
          exact hmetered.replace rfl rfl hmetered.sound le_rfl
        · cases hproceed
  | returned acquired =>
      simp only [hphase] at hproceed
      cases hproceed

theorem Metered.step {maxRate : ℤ} {event : ℚ × Act} (hlength : 0 ≤ length)
    (hmetered : Metered maxRate first length limiter)
    (hguard : RateAtMost maxRate limiter event) (hstep : step limiter event = some next) :
    Metered maxRate first length next := by
  obtain ⟨now, act⟩ := event
  rw [RateLimiter.step] at hstep
  split at hstep
  · cases hstep
  rename_i hclock
  have hadvanced := hmetered.advance hlength (not_lt.mp hclock)
  cases act with
  | acquire timeoutS watches =>
      cases hstep
      exact hadvanced.replace rfl rfl hadvanced.sound le_rfl
  | proceed callId =>
      obtain ⟨call, -, hproceed⟩ := Option.bind_eq_some_iff.mp hstep
      exact hadvanced.proceed hproceed
  | setRate ratePerSecond =>
      cases hset : limiter.bucket.setRate ratePerSecond now with
      | error message =>
          simp only [hset] at hstep
          cases hstep
          exact hadvanced
      | ok bucket =>
          simp only [hset] at hstep
          cases hstep
          have hrate : (ratePerSecond : ℚ) ≤ maxRate := by exact_mod_cast hguard
          obtain ⟨hsound, hlevel⟩ := hadvanced.sound.setRate hrate hset
          exact hadvanced.replace rfl rfl hsound hlevel
  | shutDown =>
      cases hstep
      exact hadvanced.replace rfl rfl hadvanced.sound le_rfl

end Metering

/-! ## The bound over every run -/

theorem metered_start {ratePerSecond maxRate : ℤ} {now first length : ℚ}
    {bucket : TokenBucket} (hlength : 0 ≤ length)
    (hinit : TokenBucket.init ratePerSecond now = .ok bucket)
    (hrate : ratePerSecond ≤ maxRate) : Metered maxRate first length (start bucket) := by
  rw [TokenBucket.init] at hinit
  split at hinit
  · cases hinit
  rename_i hpositive
  cases hinit
  have hpos : (0 : ℚ) < ratePerSecond := by exact_mod_cast not_le.mp hpositive
  have hmax : (ratePerSecond : ℚ) ≤ maxRate := by exact_mod_cast hrate
  have hwhole : (0 : ℚ) < maxRate := hpos.trans_le hmax
  refine ⟨⟨hpos, rfl, hmax, hpos.le, le_rfl, le_rfl⟩, fun _ => rfl, ?_, ?_⟩
  · intro hfirst _
    have hpast : 0 ≤ (maxRate : ℚ) * (now - first) :=
      mul_nonneg hwhole.le (sub_nonneg.mpr hfirst)
    simp only [start, takenWithin, List.countP_nil, Nat.cast_zero, zero_add,
      TokenBucket.level, sub_self, zero_mul, add_zero, min_self]
    linarith
  · intro _
    have hbound : 0 ≤ (maxRate : ℚ) * (1 + length) :=
      mul_nonneg hwhole.le (by linarith)
    simpa [start, takenWithin] using hbound

/-- In every run with rates up to a largest one, the tokens lie between zero and the
capacity, and no closed interval sees more tokens taken than the largest rate times one
second more than its length. -/
theorem rate_is_kept {ratePerSecond maxRate : ℤ} {now : ℚ} {bucket : TokenBucket}
    {events : List (ℚ × Act)} {limiter : Limiter}
    (hinit : TokenBucket.init ratePerSecond now = .ok bucket)
    (hrate : ratePerSecond ≤ maxRate)
    (hrun : Run step (RateAtMost maxRate) (start bucket) events limiter) :
    (0 ≤ limiter.bucket.tokens ∧ limiter.bucket.tokens ≤ limiter.bucket.capacity) ∧
      ∀ first length : ℚ, 0 ≤ length →
        (takenWithin first length limiter.taken : ℚ) ≤ maxRate * (1 + length) := by
  have hmetered : ∀ first length : ℚ, 0 ≤ length →
      Metered maxRate first length limiter := fun first length hlength =>
    hrun.invariant (Metered maxRate first length)
      (fun hmetered hguard hstep => hmetered.step hlength hguard hstep)
      (metered_start hlength hinit hrate)
  constructor
  · have hsound := (hmetered 0 0 le_rfl).sound
    exact ⟨hsound.nonneg, hsound.full⟩
  · intro first length hlength
    have hpast := (hmetered first length hlength).advance hlength
      (le_max_left limiter.clock (first + length + 1))
    apply hpast.after
    calc first + length < first + length + 1 := lt_add_one _
      _ ≤ max limiter.clock (first + length + 1) := le_max_right _ _

/-- Two calls at once on a bucket of one token a second: the second waits, and is served
sooner because the rate is raised. -/
def twoCalls : List (ℚ × Act) :=
  [(0, .acquire 5 false), (0, .acquire 5 false), (0, .proceed 1), (0, .proceed 1),
    (0, .proceed 2), (0, .proceed 2), (0, .proceed 2), (1 / 2, .proceed 2),
    (1 / 2, .setRate 2), (1, .proceed 2), (1, .proceed 2)]

def afterTwoCalls : Limiter :=
  (execute step (RateAtMost 2) (start ⟨1, 1, 1, 0⟩) twoCalls).getD (start ⟨1, 1, 1, 0⟩)

theorem twoCalls_keep_rate :
    (0 ≤ afterTwoCalls.bucket.tokens ∧
        afterTwoCalls.bucket.tokens ≤ afterTwoCalls.bucket.capacity) ∧
      ∀ first length : ℚ, 0 ≤ length →
        (takenWithin first length afterTwoCalls.taken : ℚ) ≤ (2 : ℤ) * (1 + length) := by
  have hinit : TokenBucket.init 1 0 = .ok ⟨1, 1, 1, 0⟩ := by rfl
  have hsome : (execute step (RateAtMost 2) (start ⟨1, 1, 1, 0⟩) twoCalls).isSome = true := by
    decide +kernel
  have hrun : Run step (RateAtMost 2) (start ⟨1, 1, 1, 0⟩) twoCalls afterTwoCalls := by
    apply Run.ofExecute
    obtain ⟨limiter, hexecute⟩ := Option.isSome_iff_exists.mp hsome
    rw [afterTwoCalls, hexecute, Option.getD_some]
  exact rate_is_kept hinit (by decide) hrun

end SentryWms.Webhook.RateLimiter
