import SentryWms.Webhook.Dispatch

/-!
# The cursor of a subscription

A subscription skips an event when its cursor passes the event's id before the
event was delivered. The cursor moves to the id of a settled delivery, and an
event is selected by its `visible_at`; nothing ties the two orders together. As
long as the dispatcher selects only while the lowest matching event past the
cursor has matured, the two orders agree and no committed event is skipped.
-/

namespace SentryWms.Webhook

open Relational Transition

/-- The event has a delivery that ended in `succeeded` or `dlq`. -/
def Settled (outbox : Outbox) (eventId : ℕ) : Prop :=
  ∃ entry ∈ outbox.deliveries.entries,
    entry.2.eventId = eventId ∧ entry.2.final = true

/-- Every committed and matching event between the starting cursor and the
current one has been settled. -/
def NoneSkipped (start : ℕ) (outbox : Outbox) : Prop :=
  ∀ entry ∈ outbox.events.entries, entry.2.visibleAt.isSome →
    outbox.subscription.admits entry.2 = true → start < entry.1 →
    entry.1 ≤ outbox.subscription.lastDeliveredEventId → Settled outbox entry.1

instance (start : ℕ) (outbox : Outbox) : Decidable (NoneSkipped start outbox) := by
  unfold NoneSkipped Settled
  infer_instance

/-- If any matching event past the cursor has matured, so has the lowest one. -/
def LowestMatured (outbox : Outbox) : Prop :=
  ∀ lower ∈ outbox.events.entries, ∀ higher ∈ outbox.events.entries,
    outbox.subscription.lastDeliveredEventId < lower.1 → lower.1 < higher.1 →
    outbox.subscription.admits lower.2 = true →
    outbox.subscription.admits higher.2 = true →
    matured outbox.now higher.2 = true →
    ∃ first ∈ outbox.events.entries,
      outbox.subscription.lastDeliveredEventId < first.1 ∧ first.1 ≤ lower.1 ∧
      outbox.subscription.admits first.2 = true ∧
      matured outbox.now first.2 = true

instance (outbox : Outbox) : Decidable (LowestMatured outbox) := by
  unfold LowestMatured
  infer_instance

/-- A cycle that looks for a fresh event does so in order. -/
def SelectsInOrder (outbox : Outbox) : Event → Prop
  | .beginDelivery =>
      hasNonTerminalDelivery outbox = true ∨ LowestMatured outbox
  | _ => True

instance (outbox : Outbox) (event : Event) :
    Decidable (SelectsInOrder outbox event) := by
  cases event <;> unfold SelectsInOrder <;> infer_instance

/-- The subscription starts at a cursor, without deliveries. -/
structure Subscribed (start : ℕ) (outbox : Outbox) : Prop where
  cursor : outbox.subscription.lastDeliveredEventId = start
  deliveries : outbox.deliveries.entries = []
  awaiting : outbox.awaiting = none

/-! ## The invariant -/

/-- Every matching event below a bound has been settled, whether its transaction
has committed or not. -/
def SettledBelow (start bound : ℕ) (outbox : Outbox) : Prop :=
  ∀ eventId event, (eventId, event) ∈ outbox.events.entries →
    outbox.subscription.admits event = true → start < eventId → eventId < bound →
    Settled outbox eventId

/-- Events are settled in the order of their ids: everything up to the cursor is
settled, and the one open delivery is the next in line. -/
structure Ordered (start : ℕ) (outbox : Outbox) : Prop where
  cursorIssued : outbox.subscription.lastDeliveredEventId = start ∨
    outbox.subscription.lastDeliveredEventId < outbox.events.next
  settledToCursor :
    SettledBelow start (outbox.subscription.lastDeliveredEventId + 1) outbox
  openAhead : ∀ deliveryId delivery,
    (deliveryId, delivery) ∈ outbox.deliveries.entries →
    delivery.nonTerminal = true →
    outbox.subscription.lastDeliveredEventId < delivery.eventId ∧
      delivery.eventId < outbox.events.next ∧
      SettledBelow start delivery.eventId outbox
  openUnique : ∀ left right,
    left ∈ outbox.deliveries.entries → right ∈ outbox.deliveries.entries →
    left.2.nonTerminal = true → right.2.nonTerminal = true → left.1 = right.1
  awaitedOpen : ∀ deliveryId, outbox.awaiting = some deliveryId →
    ∃ delivery, (deliveryId, delivery) ∈ outbox.deliveries.entries ∧
      delivery.nonTerminal = true

variable {start : ℕ} {outbox : Outbox}

theorem Ordered.noneSkipped (hordered : Ordered start outbox) :
    NoneSkipped start outbox := by
  intro entry hentry _ hadmits hstart hcursor
  exact hordered.settledToCursor entry.1 entry.2 hentry hadmits hstart
    (Nat.lt_succ_of_le hcursor)

theorem Subscribed.ordered (hsubscribed : Subscribed start outbox) :
    Ordered start outbox where
  cursorIssued := Or.inl hsubscribed.cursor
  settledToCursor := by
    intro eventId event _ _ hstart hbound
    rw [hsubscribed.cursor] at hbound
    omega
  openAhead := by
    intro deliveryId delivery hdelivery
    rw [hsubscribed.deliveries] at hdelivery
    cases hdelivery
  openUnique := by
    intro left right hleft
    rw [hsubscribed.deliveries] at hleft
    cases hleft
  awaitedOpen := by
    intro deliveryId hawaiting
    rw [hsubscribed.awaiting] at hawaiting
    cases hawaiting

variable {delivery : Delivery}

theorem final_not_nonTerminal (hfinal : delivery.final = true) :
    delivery.nonTerminal = false := by
  revert hfinal
  unfold Delivery.final Delivery.nonTerminal
  cases delivery.status <;> simp

variable {after : Outbox}

theorem Settled.mono {eventId : ℕ}
    (hkept : ∀ entry ∈ outbox.deliveries.entries, entry.2.final = true → entry ∈ after.deliveries.entries)
    (hsettled : Settled outbox eventId) : Settled after eventId := by
  obtain ⟨entry, hmem, hevent, hfinal⟩ := hsettled
  exact ⟨entry, hkept entry hmem hfinal, hevent, hfinal⟩

theorem Ordered.congr (hordered : Ordered start outbox)
    (hevents : after.events = outbox.events)
    (hdeliveries : after.deliveries = outbox.deliveries)
    (hawaiting : after.awaiting = outbox.awaiting)
    (hfilter : after.subscription.subscriptionFilter = outbox.subscription.subscriptionFilter)
    (hcursor : after.subscription.lastDeliveredEventId = outbox.subscription.lastDeliveredEventId) :
    Ordered start after := by
  have hadmits : after.subscription.admits = outbox.subscription.admits := by
    funext event
    simp only [Subscription.admits, hfilter]
  constructor
  · rw [hcursor, hevents]
    exact hordered.cursorIssued
  · simp only [SettledBelow, Settled, hevents, hdeliveries, hcursor, hadmits]
    exact hordered.settledToCursor
  · simp only [SettledBelow, Settled, hevents, hdeliveries, hcursor, hadmits]
    exact hordered.openAhead
  · rw [hdeliveries]
    exact hordered.openUnique
  · rw [hdeliveries, hawaiting]
    exact hordered.awaitedOpen

theorem pause_ordered (hordered : Ordered start outbox) (reason : PauseReason) :
    Ordered start (pause outbox reason) := by
  unfold pause
  apply Ordered.congr hordered
  · rfl
  · rfl
  · rfl
  · dsimp only
    split <;> rfl
  · dsimp only
    split <;> rfl

theorem maybeAutoPause_deliveries (outbox : Outbox) (afterTerminalDlq : Bool) :
    (maybeAutoPause outbox afterTerminalDlq).deliveries = outbox.deliveries := by
  unfold maybeAutoPause
  split <;> split <;> rfl

theorem maybeAutoPause_awaiting (outbox : Outbox) (afterTerminalDlq : Bool) :
    (maybeAutoPause outbox afterTerminalDlq).awaiting = outbox.awaiting := by
  unfold maybeAutoPause
  split <;> split <;> rfl

theorem maybeAutoPause_events (outbox : Outbox) (afterTerminalDlq : Bool) :
    (maybeAutoPause outbox afterTerminalDlq).events = outbox.events := by
  unfold maybeAutoPause
  split <;> split <;> rfl

theorem maybeAutoPause_ordered (hordered : Ordered start outbox) (after : Bool) :
    Ordered start (maybeAutoPause outbox after) := by
  unfold maybeAutoPause
  split
  · split
    · exact hordered
    · exact pause_ordered hordered _
  · split
    · exact hordered
    · exact pause_ordered hordered _

/-! ## Transactions -/

theorem Ordered.ofEvents (hordered : Ordered start outbox)
    {events : Table OutboxEvent} (hnext : outbox.events.next ≤ events.next)
    (hback : ∀ eventId event, (eventId, event) ∈ events.entries →
      outbox.events.next ≤ eventId ∨
        ∃ before, (eventId, before) ∈ outbox.events.entries ∧
          outbox.subscription.admits before = outbox.subscription.admits event) :
    Ordered start { outbox with events } := by
  have hbelow : ∀ bound, bound ≤ outbox.events.next ∨ bound ≤ start + 1 →
      SettledBelow start bound outbox →
      SettledBelow start bound { outbox with events } := by
    intro bound hbound hsettled eventId event hevent hadmits hstart hlt
    rcases hback eventId event hevent with hnew | ⟨before, hbefore, hsame⟩
    · omega
    · exact hsettled eventId before hbefore (hsame.trans hadmits) hstart hlt
  constructor
  · rcases hordered.cursorIssued with hcursor | hcursor
    · exact Or.inl hcursor
    · exact Or.inr (Nat.lt_of_lt_of_le hcursor hnext)
  · apply hbelow _ _ hordered.settledToCursor
    rcases hordered.cursorIssued with hcursor | hcursor
    · exact Or.inr (Nat.le_of_eq (congrArg (· + 1) hcursor))
    · exact Or.inl hcursor
  · intro deliveryId delivery hdelivery hopen
    obtain ⟨hahead, hissued, hsettled⟩ :=
      hordered.openAhead deliveryId delivery hdelivery hopen
    exact ⟨hahead, Nat.lt_of_lt_of_le hissued hnext,
      hbelow _ (Or.inl (Nat.le_of_lt hissued)) hsettled⟩
  · exact hordered.openUnique
  · exact hordered.awaitedOpen

theorem insertEvent_ordered (hordered : Ordered start outbox) (txn : ℕ)
    (eventType : String) (warehouseId : ℕ) (aggregateExternalId : String) :
    Ordered start
      (insertEvent outbox txn eventType warehouseId aggregateExternalId) := by
  refine hordered.ofEvents (Nat.le_succ _) fun eventId event hevent => ?_
  rcases (Table.mem_insert _).mp hevent with hold | hnew
  · exact Or.inr ⟨event, hold, rfl⟩
  · exact Or.inl (Nat.le_of_eq (congrArg Prod.fst hnew).symm)

theorem commit_ordered (hordered : Ordered start outbox) (txn : ℕ) :
    Ordered start (commit outbox txn) := by
  refine hordered.ofEvents (Nat.le_refl _) fun eventId event hevent => ?_
  obtain ⟨before, hbefore, hstamped⟩ := (Table.mem_mapRows _).mp hevent
  refine Or.inr ⟨before, hbefore, ?_⟩
  rw [← hstamped]
  split <;> rfl

theorem rollback_ordered (hordered : Ordered start outbox) (txn : ℕ) :
    Ordered start (rollback outbox txn) := by
  refine hordered.ofEvents (Nat.le_refl _) fun eventId event hevent => ?_
  exact Or.inr ⟨event, ((Table.mem_deleteWhere _).mp hevent).1, rfl⟩

/-! ## Deliveries -/

/-- No delivery is pending or in flight. -/
def AllClosed (outbox : Outbox) : Prop :=
  ∀ entry ∈ outbox.deliveries.entries, entry.2.nonTerminal = false

theorem allClosed_of_not_hasNonTerminal
    (hnone : hasNonTerminalDelivery outbox = false) : AllClosed outbox := by
  intro entry hentry
  have hall := List.any_eq_false.mp hnone entry hentry
  simpa using hall

theorem Ordered.ofClosed (hclosed : AllClosed outbox)
    (hawaiting : outbox.awaiting = none)
    (hcursor : outbox.subscription.lastDeliveredEventId = start ∨
      outbox.subscription.lastDeliveredEventId < outbox.events.next)
    (hsettled :
      SettledBelow start (outbox.subscription.lastDeliveredEventId + 1) outbox) :
    Ordered start outbox where
  cursorIssued := hcursor
  settledToCursor := hsettled
  openAhead := by
    intro deliveryId delivery hdelivery hopen
    rw [hclosed _ hdelivery] at hopen
    cases hopen
  openUnique := by
    intro left right hleft _ hopen
    rw [hclosed _ hleft] at hopen
    cases hopen
  awaitedOpen := by
    intro deliveryId hawaited
    rw [hawaiting] at hawaited
    cases hawaited

theorem Ordered.openDelivery (hordered : Ordered start outbox) (hclosed : AllClosed outbox)
    (hawaiting : outbox.awaiting = none)
    (hahead : outbox.subscription.lastDeliveredEventId < delivery.eventId)
    (hissued : delivery.eventId < outbox.events.next)
    (hbelow : SettledBelow start delivery.eventId outbox) :
    Ordered start
      { outbox with deliveries := outbox.deliveries.insert delivery } := by
  have hkept : ∀ bound, SettledBelow start bound outbox → SettledBelow start bound
      { outbox with deliveries := outbox.deliveries.insert delivery } := by
    intro bound hsettled eventId event hevent hadmits hstart hlt
    exact (hsettled eventId event hevent hadmits hstart hlt).mono
      fun entry hentry _ => (Table.mem_insert _).mpr (Or.inl hentry)
  have hnew : ∀ entry ∈ (outbox.deliveries.insert delivery).entries,
      entry.2.nonTerminal = true → entry = (outbox.deliveries.next, delivery) := by
    intro entry hentry hopen
    rcases (Table.mem_insert _).mp hentry with hold | hnew
    · rw [hclosed _ hold] at hopen
      cases hopen
    · exact hnew
  constructor
  · exact hordered.cursorIssued
  · exact hkept _ hordered.settledToCursor
  · intro deliveryId delivery' hmem hopen
    obtain ⟨-, rfl⟩ := Prod.mk.inj (hnew _ hmem hopen)
    exact ⟨hahead, hissued, hkept _ hbelow⟩
  · intro left right hleft hright hopenLeft hopenRight
    rw [hnew _ hleft hopenLeft, hnew _ hright hopenRight]
  · intro deliveryId hawaited
    rw [hawaiting] at hawaited
    cases hawaited

variable {deliveryId : ℕ}

theorem ne_of_open_of_final {entry : ℕ × Delivery}
    (hmem : (deliveryId, delivery) ∈ outbox.deliveries.entries)
    (hopen : delivery.nonTerminal = true) (hentry : entry ∈ outbox.deliveries.entries)
    (hfinal : entry.2.final = true) :
    entry.1 ≠ deliveryId := by
  intro heq
  have hrow : entry.2 = delivery :=
    outbox.deliveries.row_unique (heq ▸ hentry) hmem
  rw [← hrow, final_not_nonTerminal hfinal] at hopen
  cases hopen

theorem settledBelow_modify {bound : ℕ}
    (hmem : (deliveryId, delivery) ∈ outbox.deliveries.entries)
    (hopen : delivery.nonTerminal = true) (change : Delivery → Delivery) (awaiting : Option ℕ)
    (hsettled : SettledBelow start bound outbox) :
    SettledBelow start bound
      { outbox with
        deliveries := outbox.deliveries.modify deliveryId change, awaiting } := by
  intro eventId event hevent hadmits hstart hlt
  apply (hsettled eventId event hevent hadmits hstart hlt).mono
  intro entry hentry hfinal
  have hne := ne_of_open_of_final hmem hopen hentry hfinal
  exact (Table.mem_modify _).mpr ⟨entry.2, hentry, if_neg hne⟩

theorem markInFlight_ordered (hordered : Ordered start outbox)
    (hmem : (deliveryId, delivery) ∈ outbox.deliveries.entries)
    (hopen : delivery.nonTerminal = true) :
    Ordered start (markInFlight outbox deliveryId) := by
  have hback : ∀ entry ∈ (markInFlight outbox deliveryId).deliveries.entries,
      entry.2.nonTerminal = true → ∃ before,
        (entry.1, before) ∈ outbox.deliveries.entries ∧
          before.nonTerminal = true ∧ before.eventId = entry.2.eventId := by
    intro entry hentry hopenEntry
    obtain ⟨before, hbefore, hrow⟩ := (Table.mem_modify _).mp hentry
    by_cases hkey : entry.1 = deliveryId
    · have hsame : before = delivery :=
        outbox.deliveries.row_unique (hkey ▸ hbefore) hmem
      rw [if_pos hkey] at hrow
      exact ⟨before, hbefore, hsame ▸ hopen, by rw [← hrow]⟩
    · rw [if_neg hkey] at hrow
      exact ⟨before, hbefore, hrow ▸ hopenEntry, by rw [hrow]⟩
  constructor
  · exact hordered.cursorIssued
  · exact settledBelow_modify hmem hopen _ _ hordered.settledToCursor
  · intro deliveryId' delivery' hmem' hopen'
    obtain ⟨before, hbefore, hopenBefore, hevent⟩ := hback _ hmem' hopen'
    obtain ⟨hahead, hissued, hsettled⟩ :=
      hordered.openAhead _ before hbefore hopenBefore
    rw [hevent] at hahead hissued hsettled
    exact ⟨hahead, hissued, settledBelow_modify hmem hopen _ _ hsettled⟩
  · intro left right hleft hright hopenLeft hopenRight
    obtain ⟨beforeLeft, hbeforeLeft, hopenLeft', -⟩ := hback _ hleft hopenLeft
    obtain ⟨beforeRight, hbeforeRight, hopenRight', -⟩ := hback _ hright hopenRight
    exact hordered.openUnique (left.1, beforeLeft) (right.1, beforeRight)
      hbeforeLeft hbeforeRight hopenLeft' hopenRight'
  · intro deliveryId' hawaited
    obtain rfl : deliveryId = deliveryId' := Option.some.inj hawaited
    exact ⟨_, (Table.mem_modify _).mpr ⟨delivery, hmem, if_pos rfl⟩, rfl⟩

/-! ## Cycles -/

theorem selectNextFreshEvent_spec {eventId : ℕ} {event : OutboxEvent}
    (hfresh : selectNextFreshEvent outbox = some (eventId, event)) :
    (eventId, event) ∈ outbox.events.entries ∧
      outbox.subscription.lastDeliveredEventId < eventId ∧
      matured outbox.now event = true ∧
      outbox.subscription.admits event = true := by
  have hmem := List.mem_of_find?_eq_some hfresh
  have hcond := List.find?_some hfresh
  simp only [Bool.and_eq_true, decide_eq_true_eq] at hcond
  exact ⟨hmem, hcond.1.1, hcond.1.2, hcond.2⟩

theorem selectNextFreshEvent_least {entry : ℕ × OutboxEvent}
    (hfresh : selectNextFreshEvent outbox = some entry)
    {first : ℕ × OutboxEvent} (hmem : first ∈ outbox.events.entries)
    (hcursor : outbox.subscription.lastDeliveredEventId < first.1)
    (hmatured : matured outbox.now first.2 = true)
    (hadmits : outbox.subscription.admits first.2 = true) :
    entry.1 ≤ first.1 := by
  unfold selectNextFreshEvent at hfresh
  rw [List.find?_eq_some_iff_append] at hfresh
  obtain ⟨hcond, before, after, hsplit, hbefore⟩ := hfresh
  have hsorted := outbox.events.sorted
  rw [hsplit] at hmem hsorted
  rw [List.map_append, List.pairwise_append, List.map_cons,
    List.pairwise_cons] at hsorted
  rcases List.mem_append.mp hmem with hfirst | hfirst
  · have hnot := hbefore first hfirst
    simp [hcursor, hmatured, hadmits] at hnot
  · rcases List.mem_cons.mp hfirst with heq | htail
    · exact Nat.le_of_eq (congrArg Prod.fst heq).symm
    · exact Nat.le_of_lt (hsorted.2.1.1 first.1 (List.mem_map_of_mem htail))

theorem settledBelow_of_fresh (hordered : Ordered start outbox)
    (hlowest : LowestMatured outbox) {entry : ℕ × OutboxEvent}
    (hfresh : selectNextFreshEvent outbox = some entry) :
    SettledBelow start entry.1 outbox := by
  intro lower event hlower hadmits hstart hlt
  by_cases hcursor : lower ≤ outbox.subscription.lastDeliveredEventId
  · exact hordered.settledToCursor lower event hlower hadmits hstart
      (Nat.lt_succ_of_le hcursor)
  · obtain ⟨hmem, -, hmatured, hadmitsFresh⟩ := selectNextFreshEvent_spec hfresh
    obtain ⟨first, hfirst, hpast, hle, hadmitsFirst, hmaturedFirst⟩ :=
      hlowest (lower, event) hlower entry hmem (Nat.lt_of_not_le hcursor) hlt
        hadmits hadmitsFresh hmatured
    have hleast := selectNextFreshEvent_least hfresh hfirst hpast hmaturedFirst
      hadmitsFirst
    exact absurd (Nat.le_trans hleast hle) (Nat.not_le_of_lt hlt)

theorem selectNextPending_spec {entry : ℕ × Delivery}
    (hpending : selectNextPending outbox = some entry) :
    entry ∈ outbox.deliveries.entries ∧ entry.2.nonTerminal = true := by
  have hmem := (mem_orderBy).mp (List.mem_of_head? hpending)
  obtain ⟨hentry, hcond⟩ := (Table.mem_select _).mp hmem
  refine ⟨hentry, ?_⟩
  rw [Bool.and_eq_true, beq_iff_eq] at hcond
  simp [Delivery.nonTerminal, hcond.1]

theorem beginDelivery_ordered (hordered : Ordered start outbox)
    (hawaiting : outbox.awaiting = none)
    (hinOrder : SelectsInOrder outbox .beginDelivery) :
    Ordered start (beginDelivery outbox) := by
  unfold beginDelivery
  split
  · exact hordered
  split
  next deliveryId delivery hpending =>
    obtain ⟨hmem, hopen⟩ := selectNextPending_spec hpending
    exact markInFlight_ordered hordered hmem hopen
  split
  · exact hordered
  next hnone =>
    have hclosed := allClosed_of_not_hasNonTerminal (Bool.eq_false_iff.mpr hnone)
    split
    · exact pause_ordered hordered _
    split
    · exact hordered
    next eventId event hfresh =>
      obtain ⟨hmem, hahead, -, -⟩ := selectNextFreshEvent_spec hfresh
      have hissued := outbox.events.fresh eventId (List.mem_map_of_mem hmem)
      have hbelow := settledBelow_of_fresh hordered (hinOrder.resolve_left hnone)
        hfresh
      exact markInFlight_ordered
        (hordered.openDelivery hclosed hawaiting hahead hissued hbelow)
        ((Table.mem_insert _).mpr (Or.inr rfl)) rfl

variable {status : DeliveryStatus}

theorem complete_allClosed (hordered : Ordered start outbox)
    (hmem : (deliveryId, delivery) ∈ outbox.deliveries.entries)
    (hopen : delivery.nonTerminal = true) (hpending : status ≠ .pending)
    (hinFlight : status ≠ .inFlight) (httpStatus : Option ℕ) (errorKind : Option String) :
    AllClosed (complete outbox deliveryId status httpStatus errorKind) := by
  intro entry hentry
  obtain ⟨before, hbefore, hrow⟩ := (Table.mem_modify _).mp hentry
  by_cases hkey : entry.1 = deliveryId
  · rw [if_pos hkey] at hrow
    rw [← hrow]
    simp [Delivery.nonTerminal, hpending, hinFlight]
  · rw [if_neg hkey] at hrow
    rw [← hrow, ← Bool.not_eq_true]
    intro hopenBefore
    exact hkey (hordered.openUnique (entry.1, before) (deliveryId, delivery)
      hbefore hmem hopenBefore hopen)

theorem complete_settled (hmem : (deliveryId, delivery) ∈ outbox.deliveries.entries)
    (hfinal : status = .succeeded ∨ status = .dlq) (httpStatus : Option ℕ)
    (errorKind : Option String) :
    Settled (complete outbox deliveryId status httpStatus errorKind)
      delivery.eventId := by
  refine ⟨(deliveryId, _),
    (Table.mem_modify _).mpr ⟨delivery, hmem, if_pos rfl⟩, rfl, ?_⟩
  rcases hfinal with rfl | rfl <;> rfl

theorem complete_ordered (hordered : Ordered start outbox)
    (hmem : (deliveryId, delivery) ∈ outbox.deliveries.entries)
    (hopen : delivery.nonTerminal = true) (hpending : status ≠ .pending)
    (hinFlight : status ≠ .inFlight) (httpStatus : Option ℕ) (errorKind : Option String) :
    Ordered start (complete outbox deliveryId status httpStatus errorKind) :=
  Ordered.ofClosed
    (complete_allClosed hordered hmem hopen hpending hinFlight _ _) rfl
    hordered.cursorIssued
    (settledBelow_modify hmem hopen _ _ hordered.settledToCursor)

theorem complete_advance_ordered (hordered : Ordered start outbox)
    (hmem : (deliveryId, delivery) ∈ outbox.deliveries.entries)
    (hopen : delivery.nonTerminal = true) (hfinal : status = .succeeded ∨ status = .dlq)
    (httpStatus : Option ℕ) (errorKind : Option String) :
    Ordered start
      (advanceCursor (complete outbox deliveryId status httpStatus errorKind)
        delivery.eventId) := by
  obtain ⟨hahead, hissued, hbelow⟩ := hordered.openAhead _ _ hmem hopen
  have hpending : status ≠ .pending := by rcases hfinal with rfl | rfl <;> simp
  have hinFlight : status ≠ .inFlight := by rcases hfinal with rfl | rfl <;> simp
  have hclosed := complete_allClosed hordered hmem hopen hpending hinFlight
    httpStatus errorKind
  have hadvance : advanceCursor
      (complete outbox deliveryId status httpStatus errorKind) delivery.eventId =
      { complete outbox deliveryId status httpStatus errorKind with
        subscription :=
          { outbox.subscription with
            lastDeliveredEventId := delivery.eventId } } := by
    unfold advanceCursor
    rw [if_pos]
    · rfl
    · exact hahead
  rw [hadvance]
  refine Ordered.ofClosed hclosed rfl (Or.inr hissued) ?_
  intro eventId event hevent hadmits hstart hlt
  rcases Nat.lt_or_eq_of_le (Nat.le_of_lt_succ hlt) with hlower | rfl
  · exact settledBelow_modify hmem hopen _ none hbelow eventId event hevent hadmits
      hstart hlower
  · exact complete_settled hmem hfinal httpStatus errorKind

theorem settleFailure_ordered (hordered : Ordered start outbox)
    (hmem : (deliveryId, delivery) ∈ outbox.deliveries.entries)
    (hopen : delivery.nonTerminal = true) {errorKind : String} {httpStatus : Option ℕ}
    {delay : ℕ}
    (hsettle : settleFailure outbox deliveryId delivery errorKind httpStatus delay = some after) :
    Ordered start after := by
  unfold settleFailure at hsettle
  split at hsettle
  · obtain rfl := Option.some.inj hsettle
    exact maybeAutoPause_ordered
      (complete_advance_ordered hordered hmem hopen (Or.inr rfl) _ _) _
  split at hsettle
  · obtain rfl := Option.some.inj hsettle
    apply maybeAutoPause_ordered
    obtain ⟨hahead, hissued, hbelow⟩ := hordered.openAhead _ _ hmem hopen
    have hfailed : Ordered start
        (complete outbox deliveryId .failed httpStatus (some errorKind)) :=
      complete_ordered hordered hmem hopen (by simp) (by simp) _ _
    exact hfailed.openDelivery
      (complete_allClosed hordered hmem hopen (by simp) (by simp) _ _) rfl hahead
      hissued (settledBelow_modify hmem hopen _ _ hbelow)
  · cases hsettle

theorem settleDelivery_ordered (hordered : Ordered start outbox) {response : HttpResponse}
    {delay : ℕ} (hsettle : settleDelivery outbox response delay = some after) :
    Ordered start after := by
  unfold settleDelivery at hsettle
  obtain ⟨deliveryId, hawaiting, hsettle⟩ := Option.bind_eq_some_iff.mp hsettle
  obtain ⟨delivery, hget, hsettle⟩ := Option.bind_eq_some_iff.mp hsettle
  obtain ⟨delivery', hmem, hopen⟩ := hordered.awaitedOpen deliveryId hawaiting
  obtain rfl : delivery' = delivery :=
    outbox.deliveries.row_unique hmem ((Table.get?_eq_some _).mp hget)
  split at hsettle
  · obtain rfl := Option.some.inj hsettle
    exact complete_ordered hordered hmem hopen (by simp) (by simp) _ _
  split at hsettle
  · obtain rfl := Option.some.inj hsettle
    exact complete_advance_ordered hordered hmem hopen (Or.inl rfl) _ _
  · exact settleFailure_ordered hordered hmem hopen hsettle

/-! ## Runs -/

theorem step_ordered (hordered : Ordered start outbox) {event : Event}
    (hinOrder : SelectsInOrder outbox event)
    (hstep : step outbox event = some after) : Ordered start after := by
  cases event with
  | insert txn eventType warehouseId aggregateExternalId =>
      obtain rfl := Option.some.inj hstep
      exact insertEvent_ordered hordered txn eventType warehouseId
        aggregateExternalId
  | commit txn =>
      obtain rfl := Option.some.inj hstep
      exact commit_ordered hordered txn
  | rollback txn =>
      obtain rfl := Option.some.inj hstep
      exact rollback_ordered hordered txn
  | tick elapsed =>
      obtain rfl := Option.some.inj hstep
      exact hordered.congr rfl rfl rfl rfl rfl
  | beginDelivery =>
      simp only [step] at hstep
      split at hstep
      next hawaiting =>
        obtain rfl := Option.some.inj hstep
        exact beginDelivery_ordered hordered (Option.isNone_iff_eq_none.mp hawaiting)
          hinOrder
      next => cases hstep
  | settleDelivery response delay => exact settleDelivery_ordered hordered hstep

/-- A subscription skips no committed event in any run whose fresh selections are
in order. -/
theorem noneSkipped_of_selectsInOrder {first last : Outbox} {events : List Event}
    (hsubscribed : Subscribed start first)
    (hrun : Run step SelectsInOrder first events last) : NoneSkipped start last :=
  (hrun.invariant _ (fun hordered hinOrder hstep =>
    step_ordered hordered hinOrder hstep) hsubscribed.ordered).noneSkipped

/-! ## Runs on a small outbox -/

def fresh : Outbox where
  events := .empty
  subscription :=
    { subscriptionFilter := some {}, lastDeliveredEventId := 0, status := .active,
      pauseReason := none, pendingCeiling := 10000, dlqCeiling := 1000 }
  deliveries := .empty
  awaiting := none
  now := 0

theorem fresh_subscribed : Subscribed 0 fresh := ⟨rfl, rfl, rfl⟩

/-- Two transactions that commit in the order of their ids; a first delivery
fails and is retried before the second event goes out. -/
def inOrderRun : List Event :=
  [.insert 1 "ship.confirmed" 1 "a", .insert 2 "ship.confirmed" 1 "b", .commit 1,
    .commit 2, .tick (seconds 2), .beginDelivery,
    .settleDelivery ⟨some 503, none⟩ 4, .tick (seconds 4), .beginDelivery,
    .settleDelivery ⟨some 200, none⟩ 0, .beginDelivery,
    .settleDelivery ⟨some 200, none⟩ 0]

def inOrderEnd : Outbox :=
  (execute step SelectsInOrder fresh inOrderRun).getD fresh

theorem noneSkipped_inOrderEnd :
    inOrderEnd.subscription.lastDeliveredEventId = 2 ∧ NoneSkipped 0 inOrderEnd := by
  have hexecute : execute step SelectsInOrder fresh inOrderRun = some inOrderEnd :=
    rfl
  exact ⟨rfl, noneSkipped_of_selectsInOrder fresh_subscribed
    (Run.ofExecute hexecute)⟩

/-- The first transaction takes its event id first and commits last. -/
def lateCommitRun : List Event :=
  [.insert 1 "ship.confirmed" 1 "a", .insert 2 "ship.confirmed" 1 "b", .commit 2,
    .tick (seconds 2), .beginDelivery, .settleDelivery ⟨some 200, none⟩ 0,
    .commit 1]

/-- Without the condition a subscription can skip a committed event: the cursor
has passed the event of the transaction that committed last. -/
theorem skips_late_commit :
    ∃ last, Subscribed 0 fresh ∧
      Run step (fun _ _ => True) fresh lateCommitRun last ∧
      ¬ NoneSkipped 0 last := by
  refine ⟨(execute step (fun _ _ => True) fresh lateCommitRun).getD fresh,
    fresh_subscribed, Run.ofExecute rfl, ?_⟩
  decide

end SentryWms.Webhook
