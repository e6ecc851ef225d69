import SentryWms.Webhook.Attempts
import SentryWms.Webhook.Transport

/-!
# What skips the retry schedule

The guard, the client and the retry classifier each map many causes to a few kinds.
Composed, they take some passing failures for permanent ones: a name that does not
resolve at the moment, and a status outside the classes of HTTP. In runs without
these causes a delivery is dead before its eighth attempt only when the consumer
rejected it or the host resolved to an internal address, and every other failure is
followed by a next attempt.
-/

namespace SentryWms.Webhook

open Ipaddress Relational Transition

/-! ## Causes -/

/-- The guard let the request through and the consumer answered in time. -/
def Answered (client : Client) (exchange : Exchange) (statusCode : ℕ) : Prop :=
  inTime client exchange = true ∧ ¬ Refused client exchange ∧
    ∃ advertised, exchange.post = .response statusCode advertised

/-- The consumer accepted the delivery. -/
def Accepted (client : Client) (exchange : Exchange) : Prop :=
  ∃ statusCode, Answered client exchange statusCode ∧ 200 ≤ statusCode ∧ statusCode < 300

/-- The consumer answered a 4xx other than 408 and 429. -/
def Rejected (client : Client) (exchange : Exchange) : Prop :=
  ∃ statusCode, Answered client exchange statusCode ∧ 400 ≤ statusCode ∧
    statusCode < 500 ∧ statusCode ≠ 408 ∧ statusCode ≠ 429

/-- The host resolved to an internal address while the guard was active. -/
def ResolvedInternally (client : Client) (exchange : Exchange) : Prop :=
  inTime client exchange = true ∧ client.allowInternalWebhooks = false ∧
    ResolvesInternally exchange

/-- A failure that no retry can mend. -/
def Permanent (client : Client) (exchange : Exchange) : Prop :=
  Rejected client exchange ∨ ResolvedInternally client exchange

/-- The host could not be resolved at the moment, while the guard was active. -/
def ResolvedNothing (client : Client) (exchange : Exchange) : Prop :=
  inTime client exchange = true ∧ client.allowInternalWebhooks = false ∧
    Unresolved exchange

/-- The consumer answered a status below 200 or above 599. -/
def OddStatus (client : Client) (exchange : Exchange) : Prop :=
  ∃ statusCode, Answered client exchange statusCode ∧
    (statusCode < 200 ∨ 600 ≤ statusCode)

/-- A failure that the classifier takes for permanent although it may pass. -/
def Misclassified (client : Client) (exchange : Exchange) : Prop :=
  ResolvedNothing client exchange ∨ OddStatus client exchange

/-! ## The classification -/

variable {client : Client} {exchange : Exchange}

theorem isSuccess_answer (statusCode : ℕ) (advertised : Option ℤ) :
    isSuccess (answer statusCode advertised) = true ↔ 200 ≤ statusCode ∧ statusCode < 300 := by
  unfold answer
  split
  · simp [isSuccess]
  · split <;> simp [isSuccess]

theorem classify_answer (statusCode : ℕ) (advertised : Option ℤ) :
    classify (answer statusCode advertised) =
      if 200 ≤ statusCode ∧ statusCode < 300 then
        if maxResponseBodyBytes < advertised.getD 0 then "5xx" else "unknown"
      else classifyStatusCode statusCode := by
  by_cases hsuccess : 200 ≤ statusCode ∧ statusCode < 300
  · have hkind : classifyStatusCode statusCode = "unknown" := if_pos hsuccess
    by_cases hlarge : maxResponseBodyBytes < advertised.getD 0
    · simp [answer, classify, hlarge, hsuccess, hkind]
    · have hclient : ¬ (400 ≤ statusCode ∧ statusCode < 500) := by omega
      have hserver : ¬ (500 ≤ statusCode ∧ statusCode < 600) := by omega
      simp [answer, classify, hlarge, hsuccess, hclient, hserver]
  · have hkind : classifyStatusCode statusCode = "4xx" ∨
        classifyStatusCode statusCode = "5xx" ∨
        classifyStatusCode statusCode = "redirected" := by
      unfold classifyStatusCode
      rw [if_neg hsuccess]
      split
      · simp
      · split <;> simp
    by_cases hlarge : maxResponseBodyBytes < advertised.getD 0
    · simp [answer, classify, hlarge, hsuccess, hkind]
    · simp [answer, classify, hlarge, hsuccess]

theorem statusCode_answer (statusCode : ℕ) (advertised : Option ℤ) :
    (answer statusCode advertised).statusCode = some statusCode := by
  unfold answer
  split
  · rfl
  · split <;> rfl

/-- Of the statuses, the classifier takes for permanent those that are neither a
success, nor a redirect, nor a server error, nor 408 or 429. -/
theorem isPermanentFailure_answer (statusCode : ℕ) (advertised : Option ℤ) :
    isPermanentFailure (classify (answer statusCode advertised))
        (answer statusCode advertised).statusCode = true ↔
      (statusCode < 200 ∨ 600 ≤ statusCode) ∨
        400 ≤ statusCode ∧ statusCode < 500 ∧ statusCode ≠ 408 ∧ statusCode ≠ 429 := by
  rw [classify_answer, statusCode_answer]
  by_cases hsuccess : 200 ≤ statusCode ∧ statusCode < 300
  · rw [if_pos hsuccess]
    have hright : ¬ ((statusCode < 200 ∨ 600 ≤ statusCode) ∨
        400 ≤ statusCode ∧ statusCode < 500 ∧ statusCode ≠ 408 ∧ statusCode ≠ 429) := by
      omega
    split <;> simpa [isPermanentFailure] using hright
  rw [if_neg hsuccess, classifyStatusCode, if_neg hsuccess]
  by_cases hserver : 500 ≤ statusCode ∧ statusCode < 600
  · rw [if_pos hserver]
    simp [isPermanentFailure]
    omega
  rw [if_neg hserver]
  by_cases hredirect : 300 ≤ statusCode ∧ statusCode < 400
  · rw [if_pos hredirect]
    simp [isPermanentFailure]
    omega
  · rw [if_neg hredirect]
    simp [isPermanentFailure]
    omega

theorem send_of_passed {addresses : List IpAddress} (hin : inTime client exchange = true)
    (hguard : assertUrlSafe client.allowInternalWebhooks exchange.hostname
      exchange.guardLookup = .ok addresses) :
    send client exchange =
      match exchange.post with
      | .response statusCode advertised => answer statusCode advertised
      | .error error =>
          { statusCode := none, errorKind := some (classifyException error) } := by
  rw [send, if_pos hin, doRequest, hguard]
  cases exchange.post <;> rfl

theorem not_refused_of_passed {addresses : List IpAddress}
    (hguard : assertUrlSafe client.allowInternalWebhooks exchange.hostname
      exchange.guardLookup = .ok addresses) : ¬ Refused client exchange :=
  fun hrefused => not_ok_of_refused hrefused addresses hguard

theorem not_answered_of_refused (hrefused : Refused client exchange) (statusCode : ℕ) :
    ¬ Answered client exchange statusCode :=
  fun hanswered => hanswered.2.1 hrefused

theorem answered_iff (hin : inTime client exchange = true)
    (hpassed : ¬ Refused client exchange) {statusCode : ℕ} {advertised : Option ℤ}
    (hpost : exchange.post = .response statusCode advertised) (statusCode' : ℕ) :
    Answered client exchange statusCode' ↔ statusCode' = statusCode := by
  constructor
  · rintro ⟨-, -, advertised', hpost'⟩
    rw [hpost] at hpost'
    cases hpost'
    rfl
  · rintro rfl
    exact ⟨hin, hpassed, advertised, hpost⟩

theorem not_answered_of_error {error : RequestError} (hpost : exchange.post = .error error)
    (statusCode : ℕ) : ¬ Answered client exchange statusCode := by
  rintro ⟨-, -, advertised, hpost'⟩
  rw [hpost] at hpost'
  cases hpost'

/-- Both causes that stop a request at the guard are reported as `ssrf_rejected`. -/
theorem resolved_iff_ssrfRejected (hin : inTime client exchange = true) :
    ResolvedNothing client exchange ∨ ResolvedInternally client exchange ↔
      assertUrlSafe client.allowInternalWebhooks exchange.hostname exchange.guardLookup =
        .error .ssrfRejected := by
  rw [assertUrlSafe_ssrfRejected, ResolvedNothing, ResolvedInternally]
  tauto

theorem isSuccess_send : isSuccess (send client exchange) = true ↔
    Accepted client exchange := by
  by_cases hin : inTime client exchange = true
  · cases hguard : assertUrlSafe client.allowInternalWebhooks exchange.hostname
        exchange.guardLookup with
    | error error =>
        have hnone := not_answered_of_refused (refused_of_error hguard)
        cases error <;> simp [send, hin, doRequest, hguard, isSuccess, Accepted, hnone]
    | ok addresses =>
        rw [send_of_passed hin hguard, Accepted]
        cases hpost : exchange.post with
        | error error => simp [isSuccess, not_answered_of_error hpost]
        | response statusCode advertised =>
            simp only [isSuccess_answer,
              answered_iff hin (not_refused_of_passed hguard) hpost, exists_eq_left]
  · simp [send, hin, isSuccess, Accepted, Answered]

theorem isPermanentFailure_classifyException (error : RequestError) (status : Option ℕ) :
    isPermanentFailure (classifyException error) status = false := by
  cases error <;> rfl

theorem isPermanentFailure_send :
    isPermanentFailure (classify (send client exchange)) (send client exchange).statusCode =
        true ↔ Permanent client exchange ∨ Misclassified client exchange := by
  have hcauses : Permanent client exchange ∨ Misclassified client exchange ↔
      (ResolvedNothing client exchange ∨ ResolvedInternally client exchange) ∨
        OddStatus client exchange ∨ Rejected client exchange := by
    rw [Permanent, Misclassified]
    tauto
  rw [hcauses]
  by_cases hin : inTime client exchange = true
  · rw [resolved_iff_ssrfRejected hin, OddStatus, Rejected]
    cases hguard : assertUrlSafe client.allowInternalWebhooks exchange.hostname
        exchange.guardLookup with
    | error error =>
        have hnone := not_answered_of_refused (refused_of_error hguard)
        cases error <;>
          simp [send, hin, doRequest, hguard, classify, isPermanentFailure, hnone,
            classifyException]
    | ok addresses =>
        rw [send_of_passed hin hguard]
        cases hpost : exchange.post with
        | error error =>
            simp [classify, isPermanentFailure_classifyException,
              not_answered_of_error hpost]
        | response statusCode advertised =>
            simp only [isPermanentFailure_answer, reduceCtorEq, false_or,
              answered_iff hin (not_refused_of_passed hguard) hpost, exists_eq_left]
  · simp [send, hin, classify, isPermanentFailure, ResolvedNothing, ResolvedInternally,
      OddStatus, Rejected, Answered]

/-! ## The system -/

/-- The outbox with its dispatcher, and the exchange that settled each delivery. -/
structure Line where
  outbox : Outbox
  settled : List (ℕ × Exchange)

/-- A step of the outbox or of the dispatcher, or the request of a cycle with what the
network does to it and the jittered delay of a retry. -/
inductive LineEvent where
  | outbox (event : DispatcherEvent)
  | attempt (exchange : Exchange) (delay : ℕ)
deriving DecidableEq

/-- The request of a cycle: what `send` reports is settled. -/
def attempt (client : Client) (line : Line) (exchange : Exchange) (delay : ℕ) :
    Option Line := do
  let deliveryId ← line.outbox.awaiting
  let outbox ← settleDelivery line.outbox (send client exchange) delay
  some { outbox, settled := (deliveryId, exchange) :: line.settled }

/-- A response comes from the client only. -/
def lineStep (client : Client) (line : Line) : LineEvent → Option Line
  | .outbox (.system (.settleDelivery _ _)) => none
  | .outbox event =>
      (dispatcherStep line.outbox event).map fun outbox => { line with outbox }
  | .attempt exchange delay => attempt client line exchange delay

/-- Only a permanent failure ends a delivery before its eighth attempt, and every
other failure has a next attempt. -/
structure RetriesTransient (client : Client) (line : Line) : Prop where
  once : (line.settled.map Prod.fst).Nodup
  early : ∀ deliveryId delivery,
    (deliveryId, delivery) ∈ line.outbox.deliveries.entries → delivery.status = .dlq →
    delivery.attemptNumber < maxAttempts →
    ∃ exchange, (deliveryId, exchange) ∈ line.settled ∧ Permanent client exchange
  retried : ∀ deliveryId exchange, (deliveryId, exchange) ∈ line.settled →
    ¬ Accepted client exchange → ¬ Permanent client exchange → ∀ delivery,
    (deliveryId, delivery) ∈ line.outbox.deliveries.entries →
    delivery.attemptNumber < maxAttempts →
    ∃ nextId next, (nextId, next) ∈ line.outbox.deliveries.entries ∧
      next.eventId = delivery.eventId ∧
      next.attemptNumber = delivery.attemptNumber + 1

/-- No attempt fails for a cause that the classifier takes for permanent. -/
def FailsClearly (client : Client) (_ : Line) : LineEvent → Prop
  | .outbox _ => True
  | .attempt exchange _ => ¬ Misclassified client exchange

/-! ## What the dispatcher leaves alone -/

/-- Deliveries keep their event and their number, closed ones stay as they are, and
none is closed. -/
structure KeepsSettled (deliveries after : Table Delivery) : Prop where
  persists : ∀ deliveryId delivery, (deliveryId, delivery) ∈ deliveries.entries →
    ∃ kept, (deliveryId, kept) ∈ after.entries ∧ kept.eventId = delivery.eventId ∧
      kept.attemptNumber = delivery.attemptNumber ∧
      (delivery.nonTerminal = false → kept = delivery)
  origin : ∀ deliveryId delivery, (deliveryId, delivery) ∈ after.entries →
    delivery.nonTerminal = true ∨ (deliveryId, delivery) ∈ deliveries.entries

theorem KeepsSettled.refl (deliveries : Table Delivery) :
    KeepsSettled deliveries deliveries where
  persists _ delivery hmem := ⟨delivery, hmem, rfl, rfl, fun _ => rfl⟩
  origin _ _ hmem := .inr hmem

theorem KeepsSettled.trans {first middle last : Table Delivery}
    (hfirst : KeepsSettled first middle) (hlast : KeepsSettled middle last) :
    KeepsSettled first last where
  persists deliveryId delivery hmem := by
    obtain ⟨kept, hkept, hevent, hnumber, hclosed⟩ := hfirst.persists deliveryId delivery hmem
    obtain ⟨kept', hkept', hevent', hnumber', hclosed'⟩ := hlast.persists deliveryId kept hkept
    refine ⟨kept', hkept', hevent'.trans hevent, hnumber'.trans hnumber, fun hfinal => ?_⟩
    have hsame := hclosed hfinal
    rw [← hsame] at hfinal
    exact (hclosed' hfinal).trans hsame
  origin deliveryId delivery hmem := by
    rcases hlast.origin deliveryId delivery hmem with hopen | hmiddle
    · exact .inl hopen
    · exact hfirst.origin deliveryId delivery hmiddle

variable {delivery : Delivery}

theorem KeepsSettled.insert (deliveries : Table Delivery)
    (hopen : delivery.nonTerminal = true) :
    KeepsSettled deliveries (deliveries.insert delivery) where
  persists _ kept hmem :=
    ⟨kept, (Table.mem_insert _).mpr (.inl hmem), rfl, rfl, fun _ => rfl⟩
  origin deliveryId kept hmem := by
    rcases (Table.mem_insert _).mp hmem with hold | hnew
    · exact .inr hold
    · cases hnew
      exact .inl hopen

theorem KeepsSettled.mapOpen {deliveries : Table Delivery}
    {change : ℕ → Delivery → Delivery} (hkeeps : KeepsClosed deliveries change)
    (hopen : ∀ key delivery, (key, delivery) ∈ deliveries.entries →
      delivery.nonTerminal = true → (change key delivery).nonTerminal = true) :
    KeepsSettled deliveries (deliveries.mapRows change) where
  persists key delivery hmem :=
    ⟨change key delivery, (Table.mem_mapRows _).mpr ⟨delivery, hmem, rfl⟩,
      hkeeps.eventId key delivery, hkeeps.attemptNumber key delivery, hkeeps.closed hmem⟩
  origin key delivery hmem := by
    obtain ⟨before, hbefore, rfl⟩ := (Table.mem_mapRows _).mp hmem
    cases hterminal : before.nonTerminal with
    | true => exact .inl (hopen key before hbefore hterminal)
    | false =>
        rw [hkeeps.closed hbefore hterminal]
        exact .inr hbefore

variable {outbox : Outbox} {deliveryId : ℕ}

theorem markInFlight_keepsSettled (hmem : (deliveryId, delivery) ∈ outbox.deliveries.entries)
    (hopen : delivery.nonTerminal = true) :
    KeepsSettled outbox.deliveries (markInFlight outbox deliveryId).deliveries := by
  have hkeeps : KeepsClosed outbox.deliveries fun key row =>
      if key = deliveryId then
        { row with status := .inFlight, attemptedAt := some outbox.now }
      else row :=
    KeepsClosed.modify hmem hopen (fun _ => rfl) fun _ => rfl
  apply KeepsSettled.mapOpen hkeeps
  intro key row _ hrow
  split
  · rfl
  · exact hrow

theorem beginDelivery_keepsSettled (outbox : Outbox) :
    KeepsSettled outbox.deliveries (beginDelivery outbox).deliveries := by
  rw [beginDelivery]
  split
  · exact KeepsSettled.refl _
  split
  next deliveryId delivery hpending =>
    obtain ⟨hmem, hopen⟩ := selectNextPending_spec hpending
    exact markInFlight_keepsSettled hmem hopen
  split
  · exact KeepsSettled.refl _
  split
  · exact KeepsSettled.refl _
  split
  · exact KeepsSettled.refl _
  next eventId event hfresh =>
    let first : Delivery :=
      { eventId, attemptNumber := 1, status := .pending, scheduledAt := outbox.now }
    have hopen : first.nonTerminal = true := rfl
    let opened : Outbox := { outbox with deliveries := outbox.deliveries.insert first }
    have hmem : (outbox.deliveries.next, first) ∈ opened.deliveries.entries :=
      (Table.mem_insert _).mpr (.inr rfl)
    exact (KeepsSettled.insert outbox.deliveries hopen).trans
      (markInFlight_keepsSettled hmem hopen)

variable {after : Outbox}

theorem dispatcherStep_keepsSettled {event : DispatcherEvent}
    (hnot : ∀ response delay, event ≠ .system (.settleDelivery response delay))
    (hstep : dispatcherStep outbox event = some after) :
    KeepsSettled outbox.deliveries after.deliveries := by
  cases event with
  | crash =>
      cases hstep
      exact KeepsSettled.refl _
  | restart =>
      cases hstep
      apply KeepsSettled.mapOpen restart_keepsClosed
      intro _ delivery _ hopen
      rw [restart_nonTerminal]
      exact hopen
  | system event =>
      cases event with
      | beginDelivery =>
          rw [dispatcherStep, step] at hstep
          split at hstep
          · cases hstep
            exact beginDelivery_keepsSettled outbox
          · cases hstep
      | settleDelivery response delay => exact absurd rfl (hnot response delay)
      | _ =>
          cases hstep
          exact KeepsSettled.refl _

/-! ## What an attempt settles -/

def settledRow (outbox : Outbox) (delivery : Delivery) (status : DeliveryStatus)
    (httpStatus : Option ℕ) (errorKind : Option String) : Delivery :=
  { delivery with status, httpStatus, errorKind, completedAt := some outbox.now }

def settleRow (outbox : Outbox) (deliveryId : ℕ) (status : DeliveryStatus)
    (httpStatus : Option ℕ) (errorKind : Option String) : Table Delivery :=
  outbox.deliveries.modify deliveryId fun delivery =>
    settledRow outbox delivery status httpStatus errorKind

/-- A cycle delivers, gives up on the spot or at the eighth attempt, or fails and
schedules the next attempt. -/
theorem settleDelivery_cases {start : ℕ} (htracked : Tracked start outbox)
    {response : HttpResponse} {delay : ℕ}
    (hsettle : settleDelivery outbox response delay = some after) :
    ∃ deliveryId delivery, outbox.awaiting = some deliveryId ∧
      (deliveryId, delivery) ∈ outbox.deliveries.entries ∧ delivery.nonTerminal = true ∧
      ((isSuccess response = true ∧
          after.deliveries = settleRow outbox deliveryId .succeeded response.statusCode none) ∨
        ((isPermanentFailure (classify response) response.statusCode = true ∨
            maxAttempts ≤ delivery.attemptNumber) ∧
          after.deliveries = settleRow outbox deliveryId .dlq response.statusCode
            (some (classify response))) ∨
        ∃ next : Delivery, next.eventId = delivery.eventId ∧
          next.attemptNumber = delivery.attemptNumber + 1 ∧ next.nonTerminal = true ∧
          after.deliveries = (settleRow outbox deliveryId .failed response.statusCode
            (some (classify response))).insert next) := by
  obtain ⟨deliveryId, hawaiting, hsettle⟩ := Option.bind_eq_some_iff.mp hsettle
  obtain ⟨delivery, hget, hsettle⟩ := Option.bind_eq_some_iff.mp hsettle
  obtain ⟨delivery', hmem, hopen⟩ := htracked.awaitedOpen hawaiting
  obtain rfl : delivery' = delivery :=
    outbox.deliveries.row_unique hmem ((Table.get?_eq_some _).mp hget)
  obtain ⟨event, hevent, -⟩ := htracked.committed hmem
  refine ⟨deliveryId, delivery', hawaiting, hmem, hopen, ?_⟩
  -- A delivered event has been committed, so its row is there.
  rw [(Table.get?_eq_some _).mpr hevent, Option.isNone_some, if_neg Bool.false_ne_true]
    at hsettle
  split at hsettle
  next hsuccess =>
    cases hsettle
    exact .inl ⟨hsuccess, rfl⟩
  rw [settleFailure] at hsettle
  split at hsettle
  next hfinal =>
    cases hsettle
    refine .inr (.inl ⟨?_, maybeAutoPause_deliveries _ _⟩)
    simpa [isTerminalAttempt] using hfinal
  next =>
    split at hsettle
    · cases hsettle
      refine .inr (.inr ⟨
        { eventId := delivery'.eventId, attemptNumber := delivery'.attemptNumber + 1,
          status := .pending, scheduledAt := outbox.now + seconds delay }, rfl, rfl, rfl, ?_⟩)
      exact maybeAutoPause_deliveries _ _
    · cases hsettle

/-- One open delivery got the row of its result; what else is new is open. -/
structure Settles (deliveries after : Table Delivery) (deliveryId : ℕ) (row : Delivery) :
    Prop where
  closed : row.nonTerminal = false
  settled : (deliveryId, row) ∈ after.entries
  others : ∀ key delivery, (key, delivery) ∈ deliveries.entries → key ≠ deliveryId →
    (key, delivery) ∈ after.entries
  origin : ∀ key delivery, (key, delivery) ∈ after.entries → delivery.nonTerminal = false →
    key = deliveryId ∧ delivery = row ∨ key ≠ deliveryId ∧ (key, delivery) ∈ deliveries.entries

theorem settles_settleRow (hmem : (deliveryId, delivery) ∈ outbox.deliveries.entries)
    {status : DeliveryStatus} (httpStatus : Option ℕ) (errorKind : Option String)
    (hclosed : (settledRow outbox delivery status httpStatus errorKind).nonTerminal = false) :
    Settles outbox.deliveries (settleRow outbox deliveryId status httpStatus errorKind)
      deliveryId (settledRow outbox delivery status httpStatus errorKind) where
  closed := hclosed
  settled := (Table.mem_modify _).mpr ⟨delivery, hmem, by rw [if_pos rfl]⟩
  others key row hrow hkey := (Table.mem_modify _).mpr ⟨row, hrow, by rw [if_neg hkey]⟩
  origin key row hrow _ := by
    obtain ⟨before, hbefore, hchanged⟩ := (Table.mem_modify _).mp hrow
    by_cases hkey : key = deliveryId
    · rw [if_pos hkey] at hchanged
      subst hkey
      rw [outbox.deliveries.row_unique hbefore hmem] at hchanged
      exact .inl ⟨rfl, hchanged.symm⟩
    · rw [if_neg hkey] at hchanged
      exact .inr ⟨hkey, hchanged ▸ hbefore⟩

theorem Settles.insert {deliveries after : Table Delivery} {row : Delivery}
    (hsettles : Settles deliveries after deliveryId row) {next : Delivery}
    (hopen : next.nonTerminal = true) :
    Settles deliveries (after.insert next) deliveryId row where
  closed := hsettles.closed
  settled := (Table.mem_insert _).mpr (.inl hsettles.settled)
  others key delivery hmem hkey :=
    (Table.mem_insert _).mpr (.inl (hsettles.others key delivery hmem hkey))
  origin key delivery hmem hclosed := by
    rcases (Table.mem_insert _).mp hmem with hold | hnew
    · exact hsettles.origin key delivery hold hclosed
    · cases hnew
      rw [hopen] at hclosed
      cases hclosed

/-! ## Runs -/

/-- What holds of the line after every step. -/
structure Accounted (client : Client) (start : ℕ) (line : Line) : Prop where
  tracked : Tracked start line.outbox
  closed : ∀ deliveryId exchange, (deliveryId, exchange) ∈ line.settled →
    ∃ delivery, (deliveryId, delivery) ∈ line.outbox.deliveries.entries ∧
      delivery.nonTerminal = false
  retries : RetriesTransient client line

variable {start : ℕ} {line next : Line}

theorem Accounted.dispatch (haccounted : Accounted client start line) {event : DispatcherEvent}
    (hnot : ∀ response delay, event ≠ .system (.settleDelivery response delay))
    (hstep : dispatcherStep line.outbox event = some after) :
    Accounted client start { line with outbox := after } := by
  have hkeeps := dispatcherStep_keepsSettled hnot hstep
  refine ⟨dispatcherStep_tracked haccounted.tracked hstep, ?_, ?_⟩
  · intro deliveryId exchange hsettled
    obtain ⟨delivery, hmem, hclosed⟩ := haccounted.closed deliveryId exchange hsettled
    obtain ⟨kept, hkept, -, -, hsame⟩ := hkeeps.persists deliveryId delivery hmem
    rw [hsame hclosed] at hkept
    exact ⟨delivery, hkept, hclosed⟩
  · refine ⟨haccounted.retries.once, ?_, ?_⟩
    · intro deliveryId delivery hmem hdlq hnumber
      have hold := (hkeeps.origin deliveryId delivery hmem).resolve_left (by
        simp [Delivery.nonTerminal, hdlq])
      exact haccounted.retries.early deliveryId delivery hold hdlq hnumber
    · intro deliveryId exchange hsettled haccepted hpermanent delivery hmem hnumber
      -- A settled delivery is closed, so its row is the one it had before.
      obtain ⟨settled, hsettledMem, hclosed⟩ :=
        haccounted.closed deliveryId exchange hsettled
      obtain ⟨kept, hkept, -, -, hsame⟩ := hkeeps.persists deliveryId settled hsettledMem
      rw [hsame hclosed] at hkept
      obtain rfl := after.deliveries.row_unique hmem hkept
      obtain ⟨nextId, next, hnext, hevent, hnextNumber⟩ :=
        haccounted.retries.retried deliveryId exchange hsettled haccepted hpermanent delivery
          hsettledMem hnumber
      obtain ⟨kept', hkept', hevent', hnumber', -⟩ := hkeeps.persists nextId next hnext
      exact ⟨nextId, kept', hkept', hevent'.trans hevent, hnumber'.trans hnextNumber⟩

theorem Accounted.settle (haccounted : Accounted client start line) {row : Delivery}
    {exchange : Exchange} (hmem : (deliveryId, delivery) ∈ line.outbox.deliveries.entries)
    (hopen : delivery.nonTerminal = true) (htracked : Tracked start after)
    (hsettles : Settles line.outbox.deliveries after.deliveries deliveryId row)
    (hearly : row.status = .dlq → row.attemptNumber < maxAttempts → Permanent client exchange)
    (hretried : ¬ Accepted client exchange → ¬ Permanent client exchange → row.attemptNumber < maxAttempts → ∃ nextId next, (nextId, next) ∈ after.deliveries.entries ∧ next.eventId = row.eventId ∧ next.attemptNumber = row.attemptNumber + 1)
    (hrow : row.eventId = delivery.eventId ∧ row.attemptNumber = delivery.attemptNumber) :
    Accounted client start
      { outbox := after, settled := (deliveryId, exchange) :: line.settled } := by
  have hfirst : ∀ key exchange', (key, exchange') ∈ line.settled → key ≠ deliveryId := by
    rintro key exchange' hsettled rfl
    obtain ⟨settled, hsettledMem, hclosed⟩ := haccounted.closed key exchange' hsettled
    rw [line.outbox.deliveries.row_unique hsettledMem hmem, hopen] at hclosed
    cases hclosed
  refine ⟨htracked, ?_, ?_, ?_, ?_⟩
  · intro key exchange' hsettled
    rcases List.mem_cons.mp hsettled with hnew | hold
    · cases hnew
      exact ⟨row, hsettles.settled, hsettles.closed⟩
    · obtain ⟨settled, hsettledMem, hclosed⟩ := haccounted.closed key exchange' hold
      exact ⟨settled, hsettles.others key settled hsettledMem (hfirst key exchange' hold),
        hclosed⟩
  · refine List.nodup_cons.mpr ⟨?_, haccounted.retries.once⟩
    intro hsettled
    obtain ⟨⟨key, exchange'⟩, hold, hkey⟩ := List.mem_map.mp hsettled
    exact hfirst key exchange' hold hkey
  · intro key delivery' hmem' hdlq hnumber
    have hclosed : delivery'.nonTerminal = false := by simp [Delivery.nonTerminal, hdlq]
    rcases hsettles.origin key delivery' hmem' hclosed with ⟨rfl, rfl⟩ | ⟨-, hold⟩
    · exact ⟨exchange, List.mem_cons_self, hearly hdlq hnumber⟩
    · obtain ⟨exchange', hsettled, hpermanent⟩ :=
        haccounted.retries.early key delivery' hold hdlq hnumber
      exact ⟨exchange', List.mem_cons_of_mem _ hsettled, hpermanent⟩
  · intro key exchange' hsettled haccepted hpermanent delivery' hmem' hnumber
    rcases List.mem_cons.mp hsettled with hnew | hold
    · cases hnew
      obtain rfl := after.deliveries.row_unique hmem' hsettles.settled
      exact hretried haccepted hpermanent hnumber
    · obtain ⟨settled, hsettledMem, -⟩ := haccounted.closed key exchange' hold
      obtain rfl := after.deliveries.row_unique hmem'
        (hsettles.others key settled hsettledMem (hfirst key exchange' hold))
      obtain ⟨nextId, next, hnext, hevent, hnextNumber⟩ :=
        haccounted.retries.retried key exchange' hold haccepted hpermanent delivery'
          hsettledMem hnumber
      -- The next attempt may be the delivery that was settled just now.
      by_cases hkey : nextId = deliveryId
      · subst hkey
        obtain rfl := line.outbox.deliveries.row_unique hnext hmem
        exact ⟨nextId, row, hsettles.settled, hrow.1.trans hevent,
          hrow.2.trans hnextNumber⟩
      · exact ⟨nextId, next, hsettles.others nextId next hnext hkey, hevent, hnextNumber⟩

theorem Accounted.attempt (haccounted : Accounted client start line) {exchange : Exchange}
    {delay : ℕ} (hclear : ¬ Misclassified client exchange)
    (hattempt : attempt client line exchange delay = some next) :
    Accounted client start next := by
  obtain ⟨awaited, hawaited, hattempt⟩ := Option.bind_eq_some_iff.mp hattempt
  obtain ⟨after, hsettle, hattempt⟩ := Option.bind_eq_some_iff.mp hattempt
  cases hattempt
  have htracked := settleDelivery_tracked haccounted.tracked hsettle
  obtain ⟨deliveryId, delivery, hawaiting, hmem, hopen, hcases⟩ :=
    settleDelivery_cases haccounted.tracked hsettle
  rw [hawaited] at hawaiting
  cases hawaiting
  rcases hcases with ⟨hsuccess, hrows⟩ | ⟨hfinal, hrows⟩ | ⟨retry, hevent, hnumber, hpending, hrows⟩
  · have hsettles := settles_settleRow hmem (send client exchange).statusCode none
      (rfl : (settledRow line.outbox delivery .succeeded _ _).nonTerminal = false)
    rw [← hrows] at hsettles
    refine haccounted.settle hmem hopen htracked hsettles ?_ ?_ ⟨rfl, rfl⟩
    · intro hdlq
      cases hdlq
    · intro haccepted
      exact absurd (isSuccess_send.mp hsuccess) haccepted
  · have hsettles := settles_settleRow hmem (send client exchange).statusCode
      (some (classify (send client exchange)))
      (rfl : (settledRow line.outbox delivery .dlq _ _).nonTerminal = false)
    rw [← hrows] at hsettles
    have hpermanent : delivery.attemptNumber < maxAttempts → Permanent client exchange := by
      intro hearly
      have hkind := hfinal.resolve_right (by omega)
      exact (isPermanentFailure_send.mp hkind).resolve_right hclear
    refine haccounted.settle hmem hopen htracked hsettles ?_ ?_ ⟨rfl, rfl⟩
    · exact fun _ hearly => hpermanent hearly
    · exact fun _ hnot hearly => absurd (hpermanent hearly) hnot
  · have hsettles := (settles_settleRow hmem (send client exchange).statusCode
      (some (classify (send client exchange)))
      (rfl : (settledRow line.outbox delivery .failed _ _).nonTerminal = false)).insert
        hpending
    rw [← hrows] at hsettles
    refine haccounted.settle hmem hopen htracked hsettles ?_ ?_ ⟨rfl, rfl⟩
    · intro hdlq
      cases hdlq
    · intro _ _ _
      refine ⟨line.outbox.deliveries.next, retry, ?_, hevent, hnumber⟩
      rw [hrows]
      exact (Table.mem_insert _).mpr (.inr rfl)

theorem lineStep_accounted (haccounted : Accounted client start line) {event : LineEvent}
    (hclear : FailsClearly client line event)
    (hstep : lineStep client line event = some next) : Accounted client start next := by
  cases event with
  | attempt exchange delay => exact haccounted.attempt hclear hstep
  | outbox event =>
      have hnot : ∀ response delay, event ≠ .system (.settleDelivery response delay) := by
        rintro response delay rfl
        cases hstep
      have hdispatch : (dispatcherStep line.outbox event).map
          (fun outbox => { line with outbox }) = some next := by
        rw [← hstep]
        cases event with
        | system event =>
            cases event with
            | settleDelivery response delay => exact absurd rfl (hnot response delay)
            | _ => rfl
        | _ => rfl
      obtain ⟨after, hafter, rfl⟩ := Option.map_eq_some_iff.mp hdispatch
      exact haccounted.dispatch hnot hafter

/-- In every run in which no attempt fails for a misclassified cause, only a permanent
failure ends a delivery before its eighth attempt, and every other failure is
followed by a next attempt. -/
theorem retriesTransient_of_run {outbox : Outbox} (hsubscribed : Subscribed start outbox)
    {events : List LineEvent}
    (hrun : Run (lineStep client) (FailsClearly client) { outbox, settled := [] } events
      next) : RetriesTransient client next := by
  have hfirst : Accounted client start { outbox, settled := [] } := by
    refine ⟨hsubscribed.tracked, ?_, List.nodup_nil, ?_, ?_⟩
    · intro deliveryId exchange hsettled
      cases hsettled
    · intro deliveryId delivery hmem
      rw [hsubscribed.deliveries] at hmem
      cases hmem
    · intro deliveryId exchange hsettled
      cases hsettled
  exact (hrun.invariant (Accounted client start)
    (fun haccounted hclear hstep => lineStep_accounted haccounted hclear hstep)
    hfirst).retries

/-! ## A name that does not resolve for a moment -/

/-- A request whose host does not resolve. -/
def unresolvedExchange : Exchange where
  hostname := .name "hooks.example.com"
  guardLookup := .gaierror
  postLookup := .gaierror
  dialed := []
  post := .error .connectionError
  finishedAfter := some 5

/-- A request that a public consumer answers. -/
def answeredExchange (statusCode : ℕ) : Exchange where
  hostname := .name "hooks.example.com"
  guardLookup := .answers [.inet (v4 93 184 216 34)]
  postLookup := .answers [.inet (v4 93 184 216 34)]
  dialed := [.v4 (v4 93 184 216 34)]
  post := .response statusCode (some 2)
  finishedAfter := some 35

theorem not_misclassified_answered {statusCode : ℕ} (hlow : 200 ≤ statusCode)
    (hhigh : statusCode < 600) :
    ¬ Misclassified productionClient (answeredExchange statusCode) := by
  rintro (⟨-, -, habsent | ⟨host, -, hfailed | ⟨results, -, hnone⟩⟩⟩ |
    ⟨statusCode', ⟨-, -, advertised, hpost⟩, hodd⟩)
  · cases habsent
  · cases hfailed
  · have hone : Lookup.addresses (.answers [.inet (v4 93 184 216 34)]) ≠ [] := by decide
    exact hone hnone
  · cases hpost
    omega

/-- An event becomes due and is taken into a cycle. -/
def dueEvent : List LineEvent :=
  [.outbox (.system (.insert 1 "ship.confirmed" 1 "a")), .outbox (.system (.commit 1)),
    .outbox (.system (.tick (seconds 2))), .outbox (.system .beginDelivery)]

def lineAfter (events : List LineEvent) : Line :=
  (execute (lineStep productionClient) (fun _ event => event ∈ events)
    { outbox := fresh, settled := [] } events).getD { outbox := fresh, settled := [] }

/-- The first attempt meets a resolver that fails. -/
def unresolvedRun : List LineEvent :=
  dueEvent ++ [.attempt unresolvedExchange 4]

theorem unresolved_name_is_dead :
    ¬ ∀ client start outbox events line, Subscribed start outbox →
      Run (lineStep client) (fun _ _ => True) { outbox, settled := [] } events line →
      RetriesTransient client line := by
  intro hclaim
  have hrun : Run (lineStep productionClient) (fun _ event => event ∈ unresolvedRun)
      { outbox := fresh, settled := [] } unresolvedRun (lineAfter unresolvedRun) :=
    Run.ofExecute rfl
  have hretries := hclaim _ _ _ _ _ fresh_subscribed (hrun.weaken fun _ _ _ => trivial)
  have hdead : ∃ entry ∈ (lineAfter unresolvedRun).outbox.deliveries.entries,
      entry.2.status = .dlq ∧ entry.2.attemptNumber = 1 := by decide
  obtain ⟨⟨deliveryId, delivery⟩, hmem, hdlq, hnumber⟩ := hdead
  have hfirst : delivery.attemptNumber < maxAttempts := by
    rw [hnumber]
    decide
  obtain ⟨exchange, hsettled, hpermanent⟩ :=
    hretries.early deliveryId delivery hmem hdlq hfirst
  have hexchange : ∀ entry ∈ (lineAfter unresolvedRun).settled,
      entry.2 = unresolvedExchange := by decide
  obtain rfl := hexchange _ hsettled
  rcases hpermanent with ⟨statusCode, ⟨-, hpassed, -⟩, -⟩ | ⟨-, -, -, address, hnone, -⟩
  · exact hpassed (refused_of_error (by exact rfl))
  · cases hnone

/-- A server error is retried, then the consumer rejects the event. -/
def rejectedRun : List LineEvent :=
  dueEvent ++ [.attempt (answeredExchange 503) 4, .outbox (.system (.tick (seconds 4))),
    .outbox (.system .beginDelivery), .attempt (answeredExchange 404) 4]

theorem retriesTransient_rejectedRun :
    RetriesTransient productionClient (lineAfter rejectedRun) := by
  have hrun : Run (lineStep productionClient) (fun _ event => event ∈ rejectedRun)
      { outbox := fresh, settled := [] } rejectedRun (lineAfter rejectedRun) :=
    Run.ofExecute rfl
  refine retriesTransient_of_run fresh_subscribed (hrun.weaken fun _ event hmem => ?_)
  cases event with
  | outbox event => trivial
  | attempt exchange delay =>
      have hexchange : exchange = answeredExchange 503 ∨ exchange = answeredExchange 404 := by
        simp [rejectedRun, dueEvent] at hmem
        tauto
      rcases hexchange with rfl | rfl
      · exact not_misclassified_answered (by decide) (by decide)
      · exact not_misclassified_answered (by decide) (by decide)

end SentryWms.Webhook
