import SentryWms.Core.Table
import SentryWms.Core.Transition

/-!
# The outbox and the webhook dispatcher

Transactions insert rows into `integration_events`; the row's id comes from the
sequence at the insert and its `visible_at` from the deferred trigger at the
commit. The dispatcher of one subscription runs `deliver_one` cycles: a first
transaction selects a delivery and marks it in flight, the request is sent, and
a second transaction settles it. Other transactions run between the two.
-/

namespace SentryWms.Webhook

open Relational

/-! ## Rows -/

/-- The columns of `integration_events` that the dispatcher selects on.
`visibleAt` is null until the inserting transaction commits. -/
structure OutboxEvent where
  eventType : String
  warehouseId : ℕ
  aggregateExternalId : String
  txn : ℕ
  visibleAt : Option ℕ

/-- `SubscriptionFilter`: an absent or empty list contributes no clause. -/
structure SubscriptionFilter where
  eventTypes : Option (List String) := none
  warehouseIds : Option (List ℕ) := none
  aggregateExternalIdAllowlist : Option (List String) := none
deriving DecidableEq

/-- `webhook_subscriptions.status`. -/
inductive SubscriptionStatus where
  | active
  | paused
  | revoked
deriving DecidableEq

/-- `webhook_subscriptions.pause_reason`. -/
inductive PauseReason where
  | manual
  | pendingCeiling
  | dlqCeiling
  | malformedFilter
deriving DecidableEq

/-- A row of `webhook_subscriptions`. A filter document that does not parse is
`none`. -/
structure Subscription where
  subscriptionFilter : Option SubscriptionFilter
  lastDeliveredEventId : ℕ
  status : SubscriptionStatus
  pauseReason : Option PauseReason
  pendingCeiling : ℕ
  dlqCeiling : ℕ
deriving DecidableEq

/-- `webhook_deliveries.status`. -/
inductive DeliveryStatus where
  | pending
  | inFlight
  | succeeded
  | failed
  | dlq
deriving DecidableEq

/-- A row of `webhook_deliveries`. -/
structure Delivery where
  eventId : ℕ
  attemptNumber : ℕ
  status : DeliveryStatus
  scheduledAt : ℕ
  attemptedAt : Option ℕ := none
  completedAt : Option ℕ := none
  httpStatus : Option ℕ := none
  errorKind : Option String := none

/-- The outbox, one subscription with its deliveries, the delivery whose request
the running cycle waits for, and the time in microseconds. -/
structure Outbox where
  events : Table OutboxEvent
  subscription : Subscription
  deliveries : Table Delivery
  awaiting : Option ℕ
  now : ℕ

/-! ## Transactions on the outbox -/

/-- Insert an event inside an open transaction. -/
def insertEvent (outbox : Outbox) (txn : ℕ) (eventType : String) (warehouseId : ℕ)
    (aggregateExternalId : String) : Outbox :=
  { outbox with
    events := outbox.events.insert
      { eventType, warehouseId, aggregateExternalId, txn, visibleAt := none } }

/-- `set_integration_event_visible_at`: at the commit every row of the
transaction is stamped with the time. -/
def commit (outbox : Outbox) (txn : ℕ) : Outbox :=
  { outbox with
    events := outbox.events.updateWhere
      (fun event => event.txn == txn && event.visibleAt.isNone)
      fun event => { event with visibleAt := some outbox.now } }

/-- A rollback removes the rows of the transaction; their ids are not reused. -/
def rollback (outbox : Outbox) (txn : ℕ) : Outbox :=
  { outbox with
    events := outbox.events.deleteWhere fun event =>
      event.txn == txn && event.visibleAt.isNone }

/-! ## Selecting a delivery -/

/-- Seconds as an interval of the clock. -/
def seconds (count : ℕ) : ℕ := count * 1000000

/-- `_VISIBLE_AT_BUFFER_S`. -/
def visibleAtBuffer : ℕ := seconds 2

/-- `visible_at IS NOT NULL AND visible_at <= NOW() - INTERVAL '2 seconds'`. -/
def matured (now : ℕ) (event : OutboxEvent) : Bool :=
  match event.visibleAt with
  | none => false
  | some visibleAt => visibleAt + visibleAtBuffer ≤ now

/-- One clause of `_build_filter_clauses`. -/
def clause {α : Type} [BEq α] (allowed : Option (List α)) (value : α) : Bool :=
  match allowed with
  | none => true
  | some [] => true
  | some (first :: rest) => (first :: rest).contains value

/-- `_build_filter_clauses`. -/
def SubscriptionFilter.admits (filter : SubscriptionFilter) (event : OutboxEvent) :
    Bool :=
  clause filter.eventTypes event.eventType &&
    clause filter.warehouseIds event.warehouseId &&
    clause filter.aggregateExternalIdAllowlist event.aggregateExternalId

def Subscription.admits (subscription : Subscription) (event : OutboxEvent) : Bool :=
  match subscription.subscriptionFilter with
  | none => false
  | some filter => filter.admits event

/-- The delivery has not reached a final status. -/
def Delivery.nonTerminal (delivery : Delivery) : Bool :=
  delivery.status == .pending || delivery.status == .inFlight

/-- The delivery ended in `succeeded` or `dlq`. -/
def Delivery.final (delivery : Delivery) : Bool :=
  delivery.status == .succeeded || delivery.status == .dlq

def selectNextPending (outbox : Outbox) : Option (ℕ × Delivery) :=
  (orderBy (fun entry => entry.2.scheduledAt)
    (outbox.deliveries.select fun delivery =>
      delivery.status == .pending && decide (delivery.scheduledAt ≤ outbox.now))).head?

def hasNonTerminalDelivery (outbox : Outbox) : Bool :=
  outbox.deliveries.entries.any fun entry => entry.2.nonTerminal

/-- The query of `_select_next_fresh_event`: the first matured and matching event
past the cursor. -/
def selectNextFreshEvent (outbox : Outbox) : Option (ℕ × OutboxEvent) :=
  outbox.events.entries.find? fun entry =>
    decide (outbox.subscription.lastDeliveredEventId < entry.1) &&
      matured outbox.now entry.2 && outbox.subscription.admits entry.2

def pause (outbox : Outbox) (reason : PauseReason) : Outbox :=
  { outbox with
    subscription :=
      if outbox.subscription.status = .active then
        { outbox.subscription with status := .paused, pauseReason := some reason }
      else outbox.subscription }

def markInFlight (outbox : Outbox) (deliveryId : ℕ) : Outbox :=
  { outbox with
    deliveries := outbox.deliveries.modify deliveryId fun delivery =>
      { delivery with status := .inFlight, attemptedAt := some outbox.now }
    awaiting := some deliveryId }

/-- The first transaction of `deliver_one`. It backs off, leaving everything as
it is, when there is nothing to deliver. -/
def beginDelivery (outbox : Outbox) : Outbox :=
  if outbox.subscription.status ≠ .active then outbox
  else
    match selectNextPending outbox with
    | some (deliveryId, _) => markInFlight outbox deliveryId
    | none =>
        if hasNonTerminalDelivery outbox then outbox
        else if outbox.subscription.subscriptionFilter.isNone then
          pause outbox .malformedFilter
        else
          match selectNextFreshEvent outbox with
          | none => outbox
          | some (eventId, _) =>
              markInFlight
                { outbox with
                  deliveries := outbox.deliveries.insert
                    { eventId, attemptNumber := 1, status := .pending,
                      scheduledAt := outbox.now } }
                outbox.deliveries.next

/-! ## Settling a delivery -/

/-- What the HTTP client reports: a status, or the kind of an exception. -/
structure HttpResponse where
  statusCode : Option ℕ
  errorKind : Option String
deriving DecidableEq

def retryScheduleSeconds : List ℕ := [1, 4, 15, 60, 300, 1800, 7200, 43200]

def maxAttempts : ℕ := 8

def isTerminalAttempt (attemptNumber : ℕ) : Bool :=
  maxAttempts ≤ attemptNumber

/-- The values `retry_delay` can return: the slot of the schedule with a jitter
of a tenth either way. -/
def retryDelay (nextAttemptNumber delay : ℕ) : Bool :=
  match retryScheduleSeconds[nextAttemptNumber - 1]? with
  | none => false
  | some base =>
      decide (2 ≤ nextAttemptNumber ∧ max 1 (base * 9 / 10) ≤ delay ∧
        delay ≤ max 1 (base * 11 / 10))

def isPermanentFailure (errorKind : String) (httpStatus : Option ℕ) : Bool :=
  if errorKind = "ssrf_rejected" then true
  else if errorKind = "4xx" then
    !(httpStatus == some 408 || httpStatus == some 429)
  else false

/-- `is_2xx`. -/
def isSuccess (response : HttpResponse) : Bool :=
  match response.statusCode with
  | none => false
  | some status => decide (200 ≤ status ∧ status < 300)

def classify (response : HttpResponse) : String :=
  match response.errorKind with
  | some kind => kind
  | none =>
      match response.statusCode with
      | none => "unknown"
      | some status =>
          if 400 ≤ status ∧ status < 500 then "4xx"
          else if 500 ≤ status ∧ status < 600 then "5xx"
          else "unknown"

/-- Write the result of an attempt to its delivery. -/
def complete (outbox : Outbox) (deliveryId : ℕ) (status : DeliveryStatus)
    (httpStatus : Option ℕ) (errorKind : Option String) : Outbox :=
  { outbox with
    deliveries := outbox.deliveries.modify deliveryId fun delivery =>
      { delivery with
        status, httpStatus, errorKind, completedAt := some outbox.now }
    awaiting := none }

def advanceCursor (outbox : Outbox) (eventId : ℕ) : Outbox :=
  { outbox with
    subscription :=
      if outbox.subscription.lastDeliveredEventId < eventId then
        { outbox.subscription with lastDeliveredEventId := eventId }
      else outbox.subscription }

def maybeAutoPause (outbox : Outbox) (afterTerminalDlq : Bool) : Outbox :=
  if afterTerminalDlq then
    if (outbox.deliveries.select fun delivery => delivery.status == .dlq).length <
        outbox.subscription.dlqCeiling then outbox
    else pause outbox .dlqCeiling
  else
    if (outbox.deliveries.select Delivery.nonTerminal).length <
        outbox.subscription.pendingCeiling then outbox
    else pause outbox .pendingCeiling

def scheduleRetry (outbox : Outbox) (eventId attemptNumber delay : ℕ) : Outbox :=
  { outbox with
    deliveries := outbox.deliveries.insert
      { eventId, attemptNumber, status := .pending,
        scheduledAt := outbox.now + seconds delay } }

/-- The failure branch of `deliver_one`: a permanent failure or the last attempt
goes to the dead-letter queue, any other failure is scheduled again. -/
def settleFailure (outbox : Outbox) (deliveryId : ℕ) (delivery : Delivery)
    (errorKind : String) (httpStatus : Option ℕ) (delay : ℕ) : Option Outbox :=
  if isPermanentFailure errorKind httpStatus ||
      isTerminalAttempt delivery.attemptNumber then
    some (maybeAutoPause
      (advanceCursor (complete outbox deliveryId .dlq httpStatus (some errorKind))
        delivery.eventId)
      true)
  else if retryDelay (delivery.attemptNumber + 1) delay then
    some (maybeAutoPause
      (scheduleRetry (complete outbox deliveryId .failed httpStatus (some errorKind))
        delivery.eventId (delivery.attemptNumber + 1) delay)
      false)
  else none

/-- The second transaction of `deliver_one`, given the response to the request
and the jittered delay of a retry. -/
def settleDelivery (outbox : Outbox) (response : HttpResponse) (delay : ℕ) :
    Option Outbox := do
  let deliveryId ← outbox.awaiting
  let delivery ← outbox.deliveries.get? deliveryId
  if (outbox.events.get? delivery.eventId).isNone then
    some (complete outbox deliveryId .failed none (some "unknown"))
  else if isSuccess response then
    some (advanceCursor
      (complete outbox deliveryId .succeeded response.statusCode none)
      delivery.eventId)
  else
    settleFailure outbox deliveryId delivery (classify response) response.statusCode
      delay

/-! ## The system -/

/-- One step of the outbox or of the dispatcher. -/
inductive Event where
  | insert (txn : ℕ) (eventType : String) (warehouseId : ℕ)
      (aggregateExternalId : String)
  | commit (txn : ℕ)
  | rollback (txn : ℕ)
  | tick (elapsed : ℕ)
  | beginDelivery
  | settleDelivery (response : HttpResponse) (delay : ℕ)
deriving DecidableEq

/-- The dispatcher has one worker for the subscription, so a cycle begins only
when none is running. -/
def step (outbox : Outbox) : Event → Option Outbox
  | .insert txn eventType warehouseId aggregateExternalId =>
      some (insertEvent outbox txn eventType warehouseId aggregateExternalId)
  | .commit txn => some (commit outbox txn)
  | .rollback txn => some (rollback outbox txn)
  | .tick elapsed => some { outbox with now := outbox.now + elapsed }
  | .beginDelivery =>
      if outbox.awaiting.isNone then some (beginDelivery outbox) else none
  | .settleDelivery response delay => settleDelivery outbox response delay

end SentryWms.Webhook
