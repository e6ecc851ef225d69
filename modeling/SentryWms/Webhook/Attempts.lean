import SentryWms.Webhook.Cursor

/-!
# Attempts, restarts and the cursor

A dispatcher process may die between two commits of a cycle. The next one puts
what was in flight back to pending and goes on. Whatever the responses and
wherever the restarts fall, a subscription has one open delivery at most, the
attempts of an event are numbered from one, and the cursor stands on the last
event that was settled.
-/

namespace SentryWms.Webhook

open Relational Transition

/-! ## Restarts -/

def resetOrphanedInFlight (outbox : Outbox) : Outbox :=
  { outbox with
    deliveries := outbox.deliveries.updateWhere
      (fun delivery => delivery.status == .inFlight)
      fun delivery =>
        { delivery with status := .pending, scheduledAt := outbox.now } }

/-- A step of the system, a cycle that dies after its first commit, or the boot of
a new process. -/
inductive DispatcherEvent where
  | system (event : Event)
  | crash
  | restart
deriving DecidableEq

/-- Nobody waits for a response any more after a crash or a restart. -/
def dispatcherStep (outbox : Outbox) : DispatcherEvent → Option Outbox
  | .system event => step outbox event
  | .crash => some { outbox with awaiting := none }
  | .restart => some (resetOrphanedInFlight { outbox with awaiting := none })

def DispatchesInOrder (outbox : Outbox) : DispatcherEvent → Prop
  | .system event => SelectsInOrder outbox event
  | .crash | .restart => True

instance (outbox : Outbox) (event : DispatcherEvent) :
    Decidable (DispatchesInOrder outbox event) := by
  cases event <;> unfold DispatchesInOrder <;> infer_instance

/-! ## Attempts -/

def attempts (deliveries : Table Delivery) (eventId : ℕ) : List Delivery :=
  (deliveries.select fun delivery => delivery.eventId == eventId).map Prod.snd

/-- Attempts are numbered from one, eight at most, and only the last one may be
anything but failed. -/
structure Numbered (deliveries : List Delivery) : Prop where
  numbers : deliveries.map Delivery.attemptNumber = List.range' 1 deliveries.length
  bounded : deliveries.length ≤ maxAttempts
  failed : ∀ delivery ∈ deliveries.dropLast, delivery.status = .failed

/-- What holds of the deliveries of one subscription. -/
structure DeliveredInOrder (start : ℕ) (outbox : Outbox) : Prop where
  oneOpen : ∀ left right, left ∈ outbox.deliveries.entries →
    right ∈ outbox.deliveries.entries → left.2.nonTerminal = true →
    right.2.nonTerminal = true → left = right
  numbered : ∀ eventId, Numbered (attempts outbox.deliveries eventId)
  sentInOrder : ∀ deliveryId delivery,
    (deliveryId, delivery) ∈ outbox.deliveries.entries →
    delivery.status = .inFlight → SettledBelow start delivery.eventId outbox
  cursor : (outbox.subscription.lastDeliveredEventId = start ∧
      ∀ eventId, ¬ Settled outbox eventId) ∨
    IsGreatest {eventId | Settled outbox eventId}
      outbox.subscription.lastDeliveredEventId

namespace Numbered

variable {deliveries : List Delivery} {delivery : Delivery}

theorem nil : Numbered [] where
  numbers := rfl
  bounded := Nat.zero_le _
  failed _ hmem := by cases hmem

theorem map {ι : Type} {entries : List ι} {before after : ι → Delivery}
    (hnumbered : Numbered (entries.map before))
    (hnumber : ∀ entry ∈ entries,
      (after entry).attemptNumber = (before entry).attemptNumber)
    (hfailed : ∀ entry ∈ entries, (before entry).status = .failed →
      (after entry).status = .failed) :
    Numbered (entries.map after) where
  numbers := by
    have hnumbers := hnumbered.numbers
    rw [List.map_map, List.length_map] at hnumbers ⊢
    rw [← hnumbers]
    exact List.map_congr_left hnumber
  bounded := by
    have hbounded := hnumbered.bounded
    rw [List.length_map] at hbounded ⊢
    exact hbounded
  failed := by
    intro found hfound
    rw [← List.map_dropLast] at hfound
    obtain ⟨entry, hentry, rfl⟩ := List.mem_map.mp hfound
    apply hfailed entry (List.mem_of_mem_dropLast hentry)
    apply hnumbered.failed
    rw [← List.map_dropLast]
    exact List.mem_map_of_mem hentry

theorem number_of_not_failed (hnumbered : Numbered deliveries)
    (hmem : delivery ∈ deliveries) (hstatus : delivery.status ≠ .failed) :
    delivery.attemptNumber = deliveries.length := by
  have hne : deliveries ≠ [] := List.ne_nil_of_mem hmem
  have hsplit := List.dropLast_append_getLast hne
  have hlast : delivery = deliveries.getLast hne := by
    rw [← hsplit, List.mem_append, List.mem_singleton] at hmem
    exact hmem.resolve_left fun hdrop => hstatus (hnumbered.failed delivery hdrop)
  have hnumbers := congrArg List.getLast? hnumbered.numbers
  rw [List.getLast?_map, List.getLast?_eq_getLast_of_ne_nil hne, ← hlast,
    Option.map_some, List.getLast?_range'] at hnumbers
  have hlength := List.length_pos_of_mem hmem
  rw [if_neg (Nat.ne_of_gt hlength)] at hnumbers
  have hnumber := Option.some.inj hnumbers
  omega

theorem concat (hnumbered : Numbered deliveries)
    (hfailed : ∀ delivery ∈ deliveries, delivery.status = .failed)
    (hnumber : delivery.attemptNumber = deliveries.length + 1)
    (hbounded : deliveries.length < maxAttempts) :
    Numbered (deliveries ++ [delivery]) where
  numbers := by
    rw [List.map_append, hnumbered.numbers, List.length_append, List.length_singleton,
      List.range'_concat, List.map_singleton, hnumber]
    congr 2
    omega
  bounded := by
    rw [List.length_append, List.length_singleton]
    exact hbounded
  failed := by
    rw [List.dropLast_concat]
    exact hfailed

end Numbered

/-! ## The invariant -/

/-- What every step keeps, in whatever order fresh events are selected: a closed
delivery is behind the cursor, or it failed and its event is open again. -/
structure Tracked (start : ℕ) (outbox : Outbox) : Prop where
  committed : ∀ {deliveryId delivery},
    (deliveryId, delivery) ∈ outbox.deliveries.entries →
    ∃ event, (delivery.eventId, event) ∈ outbox.events.entries ∧
      event.visibleAt.isSome = true
  oneOpen : ∀ {left right}, left ∈ outbox.deliveries.entries →
    right ∈ outbox.deliveries.entries → left.2.nonTerminal = true →
    right.2.nonTerminal = true → left = right
  openAhead : ∀ {deliveryId delivery},
    (deliveryId, delivery) ∈ outbox.deliveries.entries →
    delivery.nonTerminal = true →
    outbox.subscription.lastDeliveredEventId < delivery.eventId
  closedBehind : ∀ {deliveryId delivery},
    (deliveryId, delivery) ∈ outbox.deliveries.entries →
    delivery.nonTerminal = false →
    delivery.eventId ≤ outbox.subscription.lastDeliveredEventId ∨
      (delivery.status = .failed ∧ ∃ entry ∈ outbox.deliveries.entries,
        entry.2.nonTerminal = true ∧ entry.2.eventId = delivery.eventId)
  afterStart : start ≤ outbox.subscription.lastDeliveredEventId ∧
    ∀ {deliveryId delivery}, (deliveryId, delivery) ∈ outbox.deliveries.entries →
      start < delivery.eventId
  cursorSettled : outbox.subscription.lastDeliveredEventId = start ∨
    Settled outbox outbox.subscription.lastDeliveredEventId
  numbered : ∀ eventId, Numbered (attempts outbox.deliveries eventId)
  awaitedOpen : ∀ {deliveryId}, outbox.awaiting = some deliveryId →
    ∃ delivery, (deliveryId, delivery) ∈ outbox.deliveries.entries ∧
      delivery.nonTerminal = true

section Invariant

variable {start : ℕ} {outbox : Outbox}

variable {delivery : Delivery}

theorem mem_attempts {deliveries : Table Delivery} {eventId : ℕ} :
    delivery ∈ attempts deliveries eventId ↔
      ∃ deliveryId, (deliveryId, delivery) ∈ deliveries.entries ∧
        delivery.eventId = eventId := by
  simp [attempts, Table.mem_select]

theorem nonTerminal_eq_false :
    delivery.nonTerminal = false ↔
      delivery.status = .failed ∨ delivery.final = true := by
  unfold Delivery.nonTerminal Delivery.final
  cases delivery.status <;> simp

theorem Subscribed.tracked (hsubscribed : Subscribed start outbox) :
    Tracked start outbox where
  committed hmem := by
    rw [hsubscribed.deliveries] at hmem
    cases hmem
  oneOpen hmem := by
    rw [hsubscribed.deliveries] at hmem
    cases hmem
  openAhead hmem := by
    rw [hsubscribed.deliveries] at hmem
    cases hmem
  closedBehind hmem := by
    rw [hsubscribed.deliveries] at hmem
    cases hmem
  afterStart := by
    refine ⟨le_of_eq hsubscribed.cursor.symm, fun hmem => ?_⟩
    rw [hsubscribed.deliveries] at hmem
    cases hmem
  cursorSettled := .inl hsubscribed.cursor
  numbered eventId := by
    have hnone : attempts outbox.deliveries eventId = [] := by
      rw [attempts, Table.select, hsubscribed.deliveries]
      rfl
    rw [hnone]
    exact Numbered.nil
  awaitedOpen hawaiting := by
    rw [hsubscribed.awaiting] at hawaiting
    cases hawaiting

theorem Tracked.settled_le (htracked : Tracked start outbox) {eventId : ℕ}
    (hsettled : Settled outbox eventId) :
    eventId ≤ outbox.subscription.lastDeliveredEventId := by
  obtain ⟨⟨deliveryId, delivery⟩, hmem, rfl, hfinal⟩ := hsettled
  rcases htracked.closedBehind hmem (final_not_nonTerminal hfinal) with hle | ⟨hfailed, -⟩
  · exact hle
  · rw [Delivery.final, hfailed] at hfinal
    cases hfinal

theorem Tracked.cursor (htracked : Tracked start outbox) :
    (outbox.subscription.lastDeliveredEventId = start ∧
        ∀ eventId, ¬ Settled outbox eventId) ∨
      IsGreatest {eventId | Settled outbox eventId}
        outbox.subscription.lastDeliveredEventId := by
  rcases htracked.cursorSettled with hstart | hsettled
  · refine .inl ⟨hstart, fun eventId hsettled => ?_⟩
    have hle := htracked.settled_le hsettled
    obtain ⟨entry, hmem, rfl, -⟩ := hsettled
    have hafter := htracked.afterStart.2 hmem
    omega
  · exact .inr ⟨hsettled, fun eventId => htracked.settled_le⟩

variable {after : Outbox}

theorem Tracked.congr (htracked : Tracked start outbox)
    (hevents : ∀ eventId event, (eventId, event) ∈ outbox.events.entries → event.visibleAt.isSome = true → ∃ event', (eventId, event') ∈ after.events.entries ∧ event'.visibleAt.isSome = true)
    (hdeliveries : after.deliveries = outbox.deliveries)
    (hawaiting : after.awaiting = none ∨ after.awaiting = outbox.awaiting)
    (hcursor : after.subscription.lastDeliveredEventId = outbox.subscription.lastDeliveredEventId) : Tracked start after := by
  constructor
  · intro deliveryId delivery hmem
    rw [hdeliveries] at hmem
    obtain ⟨event, hevent, hvisible⟩ := htracked.committed hmem
    exact hevents _ event hevent hvisible
  · rw [hdeliveries]
    exact htracked.oneOpen
  · rw [hdeliveries, hcursor]
    exact htracked.openAhead
  · rw [hdeliveries, hcursor]
    exact htracked.closedBehind
  · rw [hdeliveries, hcursor]
    exact htracked.afterStart
  · simp only [Settled, hdeliveries, hcursor]
    exact htracked.cursorSettled
  · rw [hdeliveries]
    exact htracked.numbered
  · rw [hdeliveries]
    rcases hawaiting with hnone | hsame
    · intro deliveryId hawaited
      rw [hnone] at hawaited
      cases hawaited
    · rw [hsame]
      exact htracked.awaitedOpen

/-- What a cycle does to the deliveries there are: the closed ones stay as they are,
and the open one keeps its event and its number. -/
structure KeepsClosed (deliveries : Table Delivery)
    (change : ℕ → Delivery → Delivery) : Prop where
  eventId : ∀ key delivery, (change key delivery).eventId = delivery.eventId
  attemptNumber : ∀ key delivery,
    (change key delivery).attemptNumber = delivery.attemptNumber
  closed : ∀ {key delivery}, (key, delivery) ∈ deliveries.entries →
    delivery.nonTerminal = false → change key delivery = delivery

variable {deliveryId : ℕ}

theorem KeepsClosed.modify {deliveries : Table Delivery} {change : Delivery → Delivery}
    (hmem : (deliveryId, delivery) ∈ deliveries.entries) (hopen : delivery.nonTerminal = true)
    (heventId : ∀ delivery, (change delivery).eventId = delivery.eventId)
    (hnumber : ∀ delivery, (change delivery).attemptNumber = delivery.attemptNumber) :
    KeepsClosed deliveries
      fun key row => if key = deliveryId then change row else row where
  eventId key row := by
    split
    · exact heventId row
    · rfl
  attemptNumber key row := by
    split
    · exact hnumber row
    · rfl
  closed hrow hclosed := by
    rw [if_neg]
    rintro rfl
    rw [deliveries.row_unique hrow hmem, hopen] at hclosed
    cases hclosed

section Updates

variable {change : ℕ → Delivery → Delivery}

theorem attempts_mapRows (hkeeps : KeepsClosed outbox.deliveries change)
    (eventId : ℕ) :
    attempts (outbox.deliveries.mapRows change) eventId =
      (outbox.deliveries.select fun delivery => delivery.eventId == eventId).map
        fun entry => change entry.1 entry.2 := by
  rw [attempts, Table.select_mapRows _ (fun key row => by rw [hkeeps.eventId]),
    List.map_map]
  rfl

theorem Tracked.numbered_mapRows (htracked : Tracked start outbox)
    (hkeeps : KeepsClosed outbox.deliveries change) (eventId : ℕ) :
    Numbered (attempts (outbox.deliveries.mapRows change) eventId) := by
  rw [attempts_mapRows hkeeps]
  apply (htracked.numbered eventId).map
  · intro entry _
    exact hkeeps.attemptNumber entry.1 entry.2
  · intro entry hentry hfailed
    have hmem := ((Table.mem_select _).mp hentry).1
    rw [hkeeps.closed hmem (nonTerminal_eq_false.mpr (.inl hfailed))]
    exact hfailed

theorem KeepsClosed.settled (hkeeps : KeepsClosed outbox.deliveries change)
    {after : Outbox} (hdeliveries : after.deliveries = outbox.deliveries.mapRows change)
    {eventId : ℕ} (hsettled : Settled outbox eventId) : Settled after eventId := by
  apply hsettled.mono
  intro entry hentry hfinal
  rw [hdeliveries]
  have hkept := hkeeps.closed hentry (final_not_nonTerminal hfinal)
  exact (Table.mem_mapRows _).mpr ⟨entry.2, hentry, hkept⟩

theorem Tracked.mapOpen (htracked : Tracked start outbox)
    (hkeeps : KeepsClosed outbox.deliveries change)
    (hopen : ∀ key delivery, (key, delivery) ∈ outbox.deliveries.entries →
      (change key delivery).nonTerminal = delivery.nonTerminal)
    {awaiting : Option ℕ}
    (hawaiting : ∀ deliveryId, awaiting = some deliveryId → ∃ delivery,
      (deliveryId, delivery) ∈ outbox.deliveries.entries ∧
        delivery.nonTerminal = true) :
    Tracked start
      { outbox with deliveries := outbox.deliveries.mapRows change, awaiting } where
  committed hmem := by
    obtain ⟨before, hbefore, rfl⟩ := (Table.mem_mapRows _).mp hmem
    rw [hkeeps.eventId]
    exact htracked.committed hbefore
  oneOpen := by
    rintro ⟨leftId, left⟩ ⟨rightId, right⟩ hleft hright hopenLeft hopenRight
    obtain ⟨beforeLeft, hbeforeLeft, rfl⟩ := (Table.mem_mapRows _).mp hleft
    obtain ⟨beforeRight, hbeforeRight, rfl⟩ := (Table.mem_mapRows _).mp hright
    have hsame := htracked.oneOpen hbeforeLeft hbeforeRight
      ((hopen _ _ hbeforeLeft).symm.trans hopenLeft)
      ((hopen _ _ hbeforeRight).symm.trans hopenRight)
    obtain ⟨rfl, rfl⟩ := Prod.mk.inj hsame
    rfl
  openAhead hmem hopenRow := by
    obtain ⟨before, hbefore, rfl⟩ := (Table.mem_mapRows _).mp hmem
    rw [hkeeps.eventId]
    exact htracked.openAhead hbefore ((hopen _ _ hbefore).symm.trans hopenRow)
  closedBehind hmem hclosedRow := by
    obtain ⟨before, hbefore, rfl⟩ := (Table.mem_mapRows _).mp hmem
    have hclosed := (hopen _ _ hbefore).symm.trans hclosedRow
    rw [hkeeps.closed hbefore hclosed]
    apply (htracked.closedBehind hbefore hclosed).imp_right
    rintro ⟨hfailed, entry, hentry, hopenEntry, hevent⟩
    exact ⟨hfailed, _, (Table.mem_mapRows _).mpr ⟨entry.2, hentry, rfl⟩,
      (hopen _ _ hentry).trans hopenEntry, (hkeeps.eventId _ _).trans hevent⟩
  afterStart := by
    refine ⟨htracked.afterStart.1, fun hmem => ?_⟩
    obtain ⟨before, hbefore, rfl⟩ := (Table.mem_mapRows _).mp hmem
    rw [hkeeps.eventId]
    exact htracked.afterStart.2 hbefore
  cursorSettled := htracked.cursorSettled.imp_right (hkeeps.settled rfl)
  numbered eventId := htracked.numbered_mapRows hkeeps eventId
  awaitedOpen hawaited := by
    obtain ⟨delivery, hmem, hopenRow⟩ := hawaiting _ hawaited
    exact ⟨_, (Table.mem_mapRows _).mpr ⟨delivery, hmem, rfl⟩,
      (hopen _ _ hmem).trans hopenRow⟩

theorem Tracked.finish (htracked : Tracked start outbox)
    (hkeeps : KeepsClosed outbox.deliveries change) {deliveryId : ℕ}
    {delivery : Delivery} (hmem : (deliveryId, delivery) ∈ outbox.deliveries.entries)
    (hopen : delivery.nonTerminal = true)
    (hfinal : (change deliveryId delivery).final = true) {subscription : Subscription}
    (hcursor : subscription.lastDeliveredEventId = delivery.eventId) :
    Tracked start
      { outbox with
        deliveries := outbox.deliveries.mapRows change, subscription,
        awaiting := none } := by
  have hahead := htracked.openAhead hmem hopen
  have hclosed : ∀ {key row}, (key, row) ∈ (outbox.deliveries.mapRows change).entries →
      row.nonTerminal = false := by
    intro key row hrow
    obtain ⟨before, hbefore, rfl⟩ := (Table.mem_mapRows _).mp hrow
    by_cases hopenBefore : before.nonTerminal = true
    · obtain ⟨rfl, rfl⟩ := Prod.mk.inj (htracked.oneOpen hbefore hmem hopenBefore hopen)
      exact final_not_nonTerminal hfinal
    · rw [Bool.not_eq_true] at hopenBefore
      rw [hkeeps.closed hbefore hopenBefore]
      exact hopenBefore
  constructor
  · intro key row hrow
    obtain ⟨before, hbefore, rfl⟩ := (Table.mem_mapRows _).mp hrow
    rw [hkeeps.eventId]
    exact htracked.committed hbefore
  · intro left right hleft _ hopenLeft
    rw [hclosed hleft] at hopenLeft
    cases hopenLeft
  · intro key row hrow hopenRow
    rw [hclosed hrow] at hopenRow
    cases hopenRow
  · intro key row hrow _
    left
    obtain ⟨before, hbefore, rfl⟩ := (Table.mem_mapRows _).mp hrow
    rw [hkeeps.eventId, hcursor]
    by_cases hopenBefore : before.nonTerminal = true
    · obtain ⟨-, rfl⟩ := Prod.mk.inj (htracked.oneOpen hbefore hmem hopenBefore hopen)
      exact le_refl _
    · rw [Bool.not_eq_true] at hopenBefore
      rcases htracked.closedBehind hbefore hopenBefore with
        hbehind | ⟨-, entry, hentry, hopenEntry, hevent⟩
      · omega
      · rw [htracked.oneOpen hentry hmem hopenEntry hopen] at hevent
        exact le_of_eq hevent.symm
  · refine ⟨?_, fun hrow => ?_⟩
    · have hstart := htracked.afterStart.1
      rw [hcursor]
      omega
    · obtain ⟨before, hbefore, rfl⟩ := (Table.mem_mapRows _).mp hrow
      rw [hkeeps.eventId]
      exact htracked.afterStart.2 hbefore
  · right
    rw [hcursor]
    exact ⟨(deliveryId, change deliveryId delivery),
      (Table.mem_mapRows _).mpr ⟨delivery, hmem, rfl⟩, hkeeps.eventId _ _, hfinal⟩
  · exact htracked.numbered_mapRows hkeeps
  · intro awaited hawaited
    cases hawaited

end Updates

theorem attempts_insert (delivery : Delivery) (eventId : ℕ)
    (deliveries : Table Delivery) :
    attempts (deliveries.insert delivery) eventId =
      attempts deliveries eventId ++
        if delivery.eventId = eventId then [delivery] else [] := by
  rw [attempts, Table.select_insert, List.map_append, ← attempts]
  congr 1
  by_cases hevent : delivery.eventId = eventId
  · simp [hevent]
  · simp [hevent]

theorem Tracked.openFresh (htracked : Tracked start outbox) (hclosed : AllClosed outbox)
    {event : OutboxEvent} (hevent : (delivery.eventId, event) ∈ outbox.events.entries)
    (hvisible : event.visibleAt.isSome = true)
    (hahead : outbox.subscription.lastDeliveredEventId < delivery.eventId)
    (hnumber : delivery.attemptNumber = 1) (hopen : delivery.nonTerminal = true)
    (hawaiting : outbox.awaiting = none) :
    Tracked start { outbox with deliveries := outbox.deliveries.insert delivery } := by
  have hbehind : ∀ {key row}, (key, row) ∈ outbox.deliveries.entries →
      row.eventId ≤ outbox.subscription.lastDeliveredEventId := by
    intro key row hrow
    rcases htracked.closedBehind hrow (hclosed _ hrow) with hle | ⟨-, entry, hentry, hopen', -⟩
    · exact hle
    · rw [hclosed _ hentry] at hopen'
      cases hopen'
  have hnew : ∀ {entry : ℕ × Delivery},
      entry ∈ (outbox.deliveries.insert delivery).entries →
      entry.2.nonTerminal = true → entry = (outbox.deliveries.next, delivery) := by
    intro entry hentry hopen'
    rcases (Table.mem_insert _).mp hentry with hold | hnew
    · rw [hclosed _ hold] at hopen'
      cases hopen'
    · exact hnew
  constructor
  · intro key row hrow
    rcases (Table.mem_insert _).mp hrow with hold | hnew
    · exact htracked.committed hold
    · obtain ⟨-, rfl⟩ := Prod.mk.inj hnew
      exact ⟨event, hevent, hvisible⟩
  · intro left right hleft hright hopenLeft hopenRight
    rw [hnew hleft hopenLeft, hnew hright hopenRight]
  · intro key row hrow hopenRow
    obtain ⟨-, rfl⟩ := Prod.mk.inj (hnew hrow hopenRow)
    exact hahead
  · intro key row hrow hclosedRow
    rcases (Table.mem_insert _).mp hrow with hold | hnew
    · exact .inl (hbehind hold)
    · obtain ⟨-, rfl⟩ := Prod.mk.inj hnew
      rw [hopen] at hclosedRow
      cases hclosedRow
  · refine ⟨htracked.afterStart.1, fun hrow => ?_⟩
    rcases (Table.mem_insert _).mp hrow with hold | hnew
    · exact htracked.afterStart.2 hold
    · obtain ⟨-, rfl⟩ := Prod.mk.inj hnew
      exact lt_of_le_of_lt htracked.afterStart.1 hahead
  · exact htracked.cursorSettled.imp_right fun hsettled => hsettled.mono
      fun entry hentry _ => (Table.mem_insert _).mpr (.inl hentry)
  · intro eventId
    rw [attempts_insert]
    by_cases hsame : delivery.eventId = eventId
    · have hnone : attempts outbox.deliveries eventId = [] := by
        rw [List.eq_nil_iff_forall_not_mem]
        intro row hrow
        obtain ⟨key, hmem, heventId⟩ := mem_attempts.mp hrow
        have hle := hbehind hmem
        omega
      rw [if_pos hsame, hnone]
      exact Numbered.nil.concat (List.forall_mem_nil _) hnumber (by decide)
    · rw [if_neg hsame, List.append_nil]
      exact htracked.numbered eventId
  · intro awaited hawaited
    rw [hawaiting] at hawaited
    cases hawaited

theorem Tracked.retry (htracked : Tracked start outbox) {change : ℕ → Delivery → Delivery}
    (hkeeps : KeepsClosed outbox.deliveries change) {next : Delivery}
    (hmem : (deliveryId, delivery) ∈ outbox.deliveries.entries)
    (hopen : delivery.nonTerminal = true)
    (hfailed : (change deliveryId delivery).status = .failed)
    (hevent : next.eventId = delivery.eventId)
    (hnumber : next.attemptNumber = delivery.attemptNumber + 1)
    (hbounded : delivery.attemptNumber < maxAttempts) (hnextOpen : next.nonTerminal = true) :
    Tracked start
      { outbox with
        deliveries := (outbox.deliveries.mapRows change).insert next,
        awaiting := none } := by
  have hnextMem : (outbox.deliveries.next, next) ∈
      ((outbox.deliveries.mapRows change).insert next).entries :=
    (Table.mem_insert _).mpr (.inr rfl)
  have hmapped : ∀ {key row}, (key, row) ∈ (outbox.deliveries.mapRows change).entries →
      row.nonTerminal = false ∧
        (row.eventId ≤ outbox.subscription.lastDeliveredEventId ∨
          row.status = .failed ∧ row.eventId = delivery.eventId) := by
    intro key row hrow
    obtain ⟨before, hbefore, rfl⟩ := (Table.mem_mapRows _).mp hrow
    by_cases hopenBefore : before.nonTerminal = true
    · obtain ⟨rfl, rfl⟩ := Prod.mk.inj (htracked.oneOpen hbefore hmem hopenBefore hopen)
      exact ⟨nonTerminal_eq_false.mpr (.inl hfailed),
        .inr ⟨hfailed, hkeeps.eventId _ _⟩⟩
    · rw [Bool.not_eq_true] at hopenBefore
      rw [hkeeps.closed hbefore hopenBefore]
      refine ⟨hopenBefore, (htracked.closedBehind hbefore hopenBefore).imp_right ?_⟩
      rintro ⟨hfailedBefore, entry, hentry, hopenEntry, heventEntry⟩
      rw [htracked.oneOpen hentry hmem hopenEntry hopen] at heventEntry
      exact ⟨hfailedBefore, heventEntry.symm⟩
  have hnew : ∀ {entry : ℕ × Delivery},
      entry ∈ ((outbox.deliveries.mapRows change).insert next).entries →
      entry.2.nonTerminal = true → entry = (outbox.deliveries.next, next) := by
    intro entry hentry hopenEntry
    rcases (Table.mem_insert _).mp hentry with hold | hnew
    · rw [(hmapped hold).1] at hopenEntry
      cases hopenEntry
    · exact hnew
  have hahead := htracked.openAhead hmem hopen
  constructor
  · intro key row hrow
    rcases (Table.mem_insert _).mp hrow with hold | hnew
    · obtain ⟨before, hbefore, rfl⟩ := (Table.mem_mapRows _).mp hold
      rw [hkeeps.eventId]
      exact htracked.committed hbefore
    · obtain ⟨-, rfl⟩ := Prod.mk.inj hnew
      rw [hevent]
      exact htracked.committed hmem
  · intro left right hleft hright hopenLeft hopenRight
    rw [hnew hleft hopenLeft, hnew hright hopenRight]
  · intro key row hrow hopenRow
    obtain ⟨-, rfl⟩ := Prod.mk.inj (hnew hrow hopenRow)
    rw [hevent]
    exact hahead
  · intro key row hrow hclosedRow
    rcases (Table.mem_insert _).mp hrow with hold | hnew
    · refine (hmapped hold).2.imp_right ?_
      rintro ⟨hfailedRow, heventRow⟩
      exact ⟨hfailedRow, _, hnextMem, hnextOpen, hevent.trans heventRow.symm⟩
    · obtain ⟨-, rfl⟩ := Prod.mk.inj hnew
      rw [hnextOpen] at hclosedRow
      cases hclosedRow
  · refine ⟨htracked.afterStart.1, fun hrow => ?_⟩
    rcases (Table.mem_insert _).mp hrow with hold | hnew
    · obtain ⟨before, hbefore, rfl⟩ := (Table.mem_mapRows _).mp hold
      rw [hkeeps.eventId]
      exact htracked.afterStart.2 hbefore
    · obtain ⟨-, rfl⟩ := Prod.mk.inj hnew
      rw [hevent]
      exact htracked.afterStart.2 hmem
  · refine htracked.cursorSettled.imp_right fun hsettled => ?_
    have hmappedSettled : Settled
        { outbox with deliveries := outbox.deliveries.mapRows change }
        outbox.subscription.lastDeliveredEventId := hkeeps.settled rfl hsettled
    exact hmappedSettled.mono fun entry hentry _ =>
      (Table.mem_insert _).mpr (.inl hentry)
  · intro eventId
    have hnumbered := htracked.numbered_mapRows hkeeps eventId
    rw [attempts_insert]
    by_cases hsame : next.eventId = eventId
    · rw [if_pos hsame]
      have hlength : (attempts (outbox.deliveries.mapRows change) eventId).length =
          delivery.attemptNumber := by
        have hattempt : delivery ∈ attempts outbox.deliveries eventId :=
          mem_attempts.mpr ⟨deliveryId, hmem, hevent.symm.trans hsame⟩
        have hlast := (htracked.numbered eventId).number_of_not_failed hattempt (by
          intro hstatus
          rw [nonTerminal_eq_false.mpr (.inl hstatus)] at hopen
          cases hopen)
        rw [hlast, attempts_mapRows hkeeps, attempts, List.length_map, List.length_map]
      apply hnumbered.concat
      · intro row hrow
        obtain ⟨key, hrowMem, heventRow⟩ := mem_attempts.mp hrow
        rcases (hmapped hrowMem).2 with hle | ⟨hfailedRow, -⟩
        · omega
        · exact hfailedRow
      · rw [hlength, hnumber]
      · rw [hlength]
        exact hbounded
    · rw [if_neg hsame, List.append_nil]
      exact hnumbered
  · intro awaited hawaited
    cases hawaited

/-! ## Every step keeps the invariant -/

theorem pause_tracked (htracked : Tracked start outbox) (reason : PauseReason) :
    Tracked start (pause outbox reason) := by
  refine htracked.congr (fun _ event hevent hvisible => ⟨event, hevent, hvisible⟩) rfl
    (.inr rfl) ?_
  rw [pause]
  dsimp only
  split <;> rfl

theorem maybeAutoPause_tracked (htracked : Tracked start outbox) (afterDlq : Bool) :
    Tracked start (maybeAutoPause outbox afterDlq) := by
  rw [maybeAutoPause]
  split
  · split
    · exact htracked
    · exact pause_tracked htracked _
  · split
    · exact htracked
    · exact pause_tracked htracked _

theorem markInFlight_tracked (htracked : Tracked start outbox)
    (hmem : (deliveryId, delivery) ∈ outbox.deliveries.entries)
    (hopen : delivery.nonTerminal = true) :
    Tracked start (markInFlight outbox deliveryId) := by
  have hkeeps : KeepsClosed outbox.deliveries fun key row =>
      if key = deliveryId then
        { row with status := .inFlight, attemptedAt := some outbox.now }
      else row :=
    KeepsClosed.modify hmem hopen (fun _ => rfl) fun _ => rfl
  apply htracked.mapOpen hkeeps
  · intro key row hrow
    split
    next hkey =>
      subst hkey
      rw [outbox.deliveries.row_unique hrow hmem, hopen]
      rfl
    next => rfl
  · intro awaited hawaited
    obtain rfl := Option.some.inj hawaited
    exact ⟨delivery, hmem, hopen⟩

theorem beginDelivery_tracked (htracked : Tracked start outbox)
    (hawaiting : outbox.awaiting = none) : Tracked start (beginDelivery outbox) := by
  rw [beginDelivery]
  split
  · exact htracked
  split
  next deliveryId delivery hpending =>
    obtain ⟨hmem, hopen⟩ := selectNextPending_spec hpending
    exact markInFlight_tracked htracked hmem hopen
  split
  · exact htracked
  next hnone =>
    have hclosed := allClosed_of_not_hasNonTerminal (Bool.eq_false_iff.mpr hnone)
    split
    · exact pause_tracked htracked _
    split
    · exact htracked
    next eventId event hfresh =>
      obtain ⟨hmem, hahead, hmatured, -⟩ := selectNextFreshEvent_spec hfresh
      have hvisible : event.visibleAt.isSome = true := by
        rw [matured] at hmatured
        split at hmatured
        · cases hmatured
        next visibleAt hvisibleAt => rw [hvisibleAt, Option.isSome_some]
      exact markInFlight_tracked
        (htracked.openFresh hclosed hmem hvisible hahead rfl rfl hawaiting)
        ((Table.mem_insert _).mpr (.inr rfl)) rfl

/-- The columns that a result writes. -/
theorem complete_keepsClosed (hmem : (deliveryId, delivery) ∈ outbox.deliveries.entries)
    (hopen : delivery.nonTerminal = true) (status : DeliveryStatus) (httpStatus : Option ℕ)
    (errorKind : Option String) :
    KeepsClosed outbox.deliveries fun key row =>
      if key = deliveryId then
        { row with status, httpStatus, errorKind, completedAt := some outbox.now }
      else row :=
  KeepsClosed.modify hmem hopen (fun _ => rfl) fun _ => rfl

theorem advance_tracked (htracked : Tracked start outbox)
    (hmem : (deliveryId, delivery) ∈ outbox.deliveries.entries)
    (hopen : delivery.nonTerminal = true) {status : DeliveryStatus}
    (hfinal : status = .succeeded ∨ status = .dlq) (httpStatus : Option ℕ)
    (errorKind : Option String) :
    Tracked start
      (advanceCursor (complete outbox deliveryId status httpStatus errorKind)
        delivery.eventId) := by
  have hahead := htracked.openAhead hmem hopen
  apply htracked.finish (complete_keepsClosed hmem hopen status httpStatus errorKind)
    hmem hopen
  · rw [if_pos rfl]
    rcases hfinal with rfl | rfl <;> rfl
  · rw [if_pos (by exact hahead)]

theorem settleDelivery_tracked (htracked : Tracked start outbox) {response : HttpResponse}
    {delay : ℕ} (hsettle : settleDelivery outbox response delay = some after) :
    Tracked start after := by
  obtain ⟨deliveryId, hawaiting, hsettle⟩ := Option.bind_eq_some_iff.mp hsettle
  obtain ⟨delivery, hget, hsettle⟩ := Option.bind_eq_some_iff.mp hsettle
  obtain ⟨delivery', hmem, hopen⟩ := htracked.awaitedOpen hawaiting
  obtain rfl : delivery' = delivery :=
    outbox.deliveries.row_unique hmem ((Table.get?_eq_some _).mp hget)
  obtain ⟨event, hevent, -⟩ := htracked.committed hmem
  -- A delivered event has been committed, so its row is there.
  rw [(Table.get?_eq_some _).mpr hevent, Option.isNone_some, if_neg Bool.false_ne_true]
    at hsettle
  split at hsettle
  · obtain rfl := Option.some.inj hsettle
    exact advance_tracked htracked hmem hopen (.inl rfl) _ _
  rw [settleFailure] at hsettle
  split at hsettle
  · obtain rfl := Option.some.inj hsettle
    exact maybeAutoPause_tracked
      (advance_tracked htracked hmem hopen (.inr rfl) _ _) _
  next hretry =>
    split at hsettle
    · obtain rfl := Option.some.inj hsettle
      have hbounded : delivery'.attemptNumber < maxAttempts := by
        simp only [isTerminalAttempt, Bool.or_eq_true, decide_eq_true_eq, not_or,
          not_le] at hretry
        exact hretry.2
      apply maybeAutoPause_tracked
      exact htracked.retry (complete_keepsClosed hmem hopen .failed _ _) hmem hopen
        (by rw [if_pos rfl]) rfl rfl hbounded rfl
    · cases hsettle

theorem restart_keepsClosed : KeepsClosed outbox.deliveries fun _ delivery =>
    if delivery.status == .inFlight then
      { delivery with status := .pending, scheduledAt := outbox.now }
    else delivery where
  eventId _ delivery := by split <;> rfl
  attemptNumber _ delivery := by split <;> rfl
  closed _ hclosed := by
    rw [if_neg]
    rw [beq_iff_eq]
    intro hstatus
    rw [Delivery.nonTerminal, hstatus] at hclosed
    cases hclosed

theorem restart_nonTerminal (delivery : Delivery) :
    (if delivery.status == .inFlight then
      { delivery with status := .pending, scheduledAt := outbox.now }
    else delivery).nonTerminal = delivery.nonTerminal := by
  split
  next hstatus =>
    rw [beq_iff_eq] at hstatus
    simp [Delivery.nonTerminal, hstatus]
  next => rfl

variable {event : DispatcherEvent}

theorem dispatcherStep_tracked (htracked : Tracked start outbox)
    (hstep : dispatcherStep outbox event = some after) : Tracked start after := by
  cases event with
  | crash =>
      obtain rfl := Option.some.inj hstep
      exact htracked.congr (fun _ event hevent hvisible => ⟨event, hevent, hvisible⟩)
        rfl (.inl rfl) rfl
  | restart =>
      obtain rfl := Option.some.inj hstep
      exact htracked.mapOpen restart_keepsClosed
        (fun _ delivery _ => restart_nonTerminal delivery) fun _ hawaited => by
          cases hawaited
  | system event =>
      cases event with
      | insert txn eventType warehouseId aggregateExternalId =>
          obtain rfl := Option.some.inj hstep
          exact htracked.congr (fun _ event hevent hvisible =>
            ⟨event, (Table.mem_insert _).mpr (.inl hevent), hvisible⟩) rfl (.inr rfl) rfl
      | commit txn =>
          obtain rfl := Option.some.inj hstep
          refine htracked.congr (fun eventId event hevent hvisible => ?_) rfl (.inr rfl)
            rfl
          refine ⟨_, (Table.mem_mapRows _).mpr ⟨event, hevent, rfl⟩, ?_⟩
          split
          · rfl
          · exact hvisible
      | rollback txn =>
          obtain rfl := Option.some.inj hstep
          refine htracked.congr (fun eventId event hevent hvisible => ?_) rfl (.inr rfl)
            rfl
          refine ⟨event, (Table.mem_deleteWhere _).mpr ⟨hevent, ?_⟩, hvisible⟩
          have hcommitted : event.visibleAt.isNone = false := by
            rw [← Option.not_isSome, hvisible]
            rfl
          rw [hcommitted, Bool.and_false]
      | tick elapsed =>
          obtain rfl := Option.some.inj hstep
          exact htracked.congr
            (fun _ event hevent hvisible => ⟨event, hevent, hvisible⟩) rfl (.inr rfl) rfl
      | beginDelivery =>
          rw [dispatcherStep, step] at hstep
          split at hstep
          next hawaiting =>
            obtain rfl := Option.some.inj hstep
            exact beginDelivery_tracked htracked
              (Option.isNone_iff_eq_none.mp hawaiting)
          next => cases hstep
      | settleDelivery response delay => exact settleDelivery_tracked htracked hstep

/-! ## The order of sending -/

theorem Ordered.mapOpen (hordered : Ordered start outbox)
    {change : ℕ → Delivery → Delivery} (hkeeps : KeepsClosed outbox.deliveries change)
    (hopen : ∀ key delivery, (change key delivery).nonTerminal = delivery.nonTerminal) :
    Ordered start
      { outbox with
        deliveries := outbox.deliveries.mapRows change, awaiting := none } := by
  have hkept : ∀ bound, SettledBelow start bound outbox → SettledBelow start bound
      { outbox with
        deliveries := outbox.deliveries.mapRows change, awaiting := none } := by
    intro bound hsettled eventId event hevent hadmits hstart hlt
    exact hkeeps.settled rfl (hsettled eventId event hevent hadmits hstart hlt)
  constructor
  · exact hordered.cursorIssued
  · exact hkept _ hordered.settledToCursor
  · intro deliveryId delivery hmem hopenRow
    obtain ⟨before, hbefore, rfl⟩ := (Table.mem_mapRows _).mp hmem
    obtain ⟨hahead, hissued, hsettled⟩ := hordered.openAhead deliveryId before hbefore
      ((hopen _ _).symm.trans hopenRow)
    rw [hkeeps.eventId]
    exact ⟨hahead, hissued, hkept _ hsettled⟩
  · rintro ⟨leftId, left⟩ ⟨rightId, right⟩ hleft hright hopenLeft hopenRight
    obtain ⟨beforeLeft, hbeforeLeft, rfl⟩ := (Table.mem_mapRows _).mp hleft
    obtain ⟨beforeRight, hbeforeRight, rfl⟩ := (Table.mem_mapRows _).mp hright
    exact hordered.openUnique (leftId, beforeLeft) (rightId, beforeRight) hbeforeLeft
      hbeforeRight ((hopen _ _).symm.trans hopenLeft) ((hopen _ _).symm.trans hopenRight)
  · intro deliveryId hawaited
    cases hawaited

theorem dispatcherStep_ordered (hordered : Ordered start outbox)
    (hinOrder : DispatchesInOrder outbox event)
    (hstep : dispatcherStep outbox event = some after) :
    Ordered start after := by
  cases event with
  | system event => exact step_ordered hordered hinOrder hstep
  | crash =>
      obtain rfl := Option.some.inj hstep
      refine ⟨hordered.cursorIssued, hordered.settledToCursor, hordered.openAhead,
        hordered.openUnique, fun deliveryId hawaited => ?_⟩
      cases hawaited
  | restart =>
      obtain rfl := Option.some.inj hstep
      exact hordered.mapOpen restart_keepsClosed fun _ => restart_nonTerminal

theorem deliveredInOrder (htracked : Tracked start outbox)
    (hordered : Ordered start outbox) : DeliveredInOrder start outbox where
  oneOpen _ _ := htracked.oneOpen
  numbered := htracked.numbered
  sentInOrder deliveryId delivery hmem hstatus := by
    have hopen : delivery.nonTerminal = true := by
      rw [Delivery.nonTerminal, hstatus]
      rfl
    exact (hordered.openAhead deliveryId delivery hmem hopen).2.2
  cursor := htracked.cursor

/-! ## The cursor -/

theorem pause_cursor (outbox : Outbox) (reason : PauseReason) :
    (pause outbox reason).subscription.lastDeliveredEventId =
      outbox.subscription.lastDeliveredEventId := by
  rw [pause]
  dsimp only
  split <;> rfl

theorem maybeAutoPause_cursor (outbox : Outbox) (afterDlq : Bool) :
    (maybeAutoPause outbox afterDlq).subscription.lastDeliveredEventId =
      outbox.subscription.lastDeliveredEventId := by
  rw [maybeAutoPause]
  split
  · split
    · rfl
    · exact pause_cursor outbox _
  · split
    · rfl
    · exact pause_cursor outbox _

theorem le_advanceCursor (outbox : Outbox) (eventId : ℕ) :
    outbox.subscription.lastDeliveredEventId ≤
      (advanceCursor outbox eventId).subscription.lastDeliveredEventId := by
  rw [advanceCursor]
  dsimp only
  split
  next hlt => exact Nat.le_of_lt hlt
  next => exact le_refl _

theorem beginDelivery_cursor (outbox : Outbox) :
    (beginDelivery outbox).subscription.lastDeliveredEventId =
      outbox.subscription.lastDeliveredEventId := by
  rw [beginDelivery]
  split
  · rfl
  split
  · rfl
  split
  · rfl
  split
  · exact pause_cursor outbox _
  split
  · rfl
  · rfl

theorem settleDelivery_cursor {response : HttpResponse} {delay : ℕ}
    (hsettle : settleDelivery outbox response delay = some after) :
    outbox.subscription.lastDeliveredEventId ≤
      after.subscription.lastDeliveredEventId := by
  obtain ⟨deliveryId, -, hsettle⟩ := Option.bind_eq_some_iff.mp hsettle
  obtain ⟨delivery, -, hsettle⟩ := Option.bind_eq_some_iff.mp hsettle
  split at hsettle
  · obtain rfl := Option.some.inj hsettle
    exact le_refl _
  split at hsettle
  · obtain rfl := Option.some.inj hsettle
    exact le_advanceCursor (complete outbox deliveryId _ _ _) delivery.eventId
  rw [settleFailure] at hsettle
  split at hsettle
  · obtain rfl := Option.some.inj hsettle
    rw [maybeAutoPause_cursor]
    exact le_advanceCursor (complete outbox deliveryId _ _ _) delivery.eventId
  split at hsettle
  · obtain rfl := Option.some.inj hsettle
    rw [maybeAutoPause_cursor]
    exact le_refl _
  · cases hsettle

theorem dispatcherStep_cursor (hstep : dispatcherStep outbox event = some after) :
    outbox.subscription.lastDeliveredEventId ≤
      after.subscription.lastDeliveredEventId := by
  cases event with
  | crash =>
      obtain rfl := Option.some.inj hstep
      exact le_refl _
  | restart =>
      obtain rfl := Option.some.inj hstep
      exact le_refl _
  | system event =>
      cases event with
      | beginDelivery =>
          rw [dispatcherStep, step] at hstep
          split at hstep
          · obtain rfl := Option.some.inj hstep
            exact le_of_eq (beginDelivery_cursor outbox).symm
          · cases hstep
      | settleDelivery response delay => exact settleDelivery_cursor hstep
      | insert txn eventType warehouseId aggregateExternalId =>
          obtain rfl := Option.some.inj hstep
          exact le_refl _
      | commit txn =>
          obtain rfl := Option.some.inj hstep
          exact le_refl _
      | rollback txn =>
          obtain rfl := Option.some.inj hstep
          exact le_refl _
      | tick elapsed =>
          obtain rfl := Option.some.inj hstep
          exact le_refl _

end Invariant

/-! ## Runs -/

/-- In every run of the dispatcher, with any responses and any crashes and
restarts, whose fresh selections are in order: one delivery at most is open, the
attempts of an event are numbered without gaps, events are sent in order, and the
cursor stands on the last settled event and never goes back. -/
theorem deliveredInOrder_of_run {start : ℕ} {first middle last : Outbox}
    {events events' : List DispatcherEvent} (hsubscribed : Subscribed start first)
    (hrun : Run dispatcherStep DispatchesInOrder first events middle)
    (hrun' : Run dispatcherStep DispatchesInOrder middle events' last) :
    DeliveredInOrder start last ∧
      middle.subscription.lastDeliveredEventId ≤
        last.subscription.lastDeliveredEventId := by
  have hinvariant := (hrun.append hrun').invariant
    (fun outbox => Tracked start outbox ∧ Ordered start outbox)
    (fun hinvariant hinOrder hstep => ⟨dispatcherStep_tracked hinvariant.1 hstep,
      dispatcherStep_ordered hinvariant.2 hinOrder hstep⟩)
    ⟨hsubscribed.tracked, hsubscribed.ordered⟩
  refine ⟨deliveredInOrder hinvariant.1 hinvariant.2, ?_⟩
  exact hrun'.invariant (fun outbox => middle.subscription.lastDeliveredEventId ≤
      outbox.subscription.lastDeliveredEventId)
    (fun hle _ hstep => le_trans hle (dispatcherStep_cursor hstep)) (le_refl _)

/-- Without the condition on fresh selections everything but the order of sending
still holds. -/
theorem numbered_of_run {start : ℕ} {first last : Outbox}
    {events : List DispatcherEvent} (hsubscribed : Subscribed start first)
    (hrun : Run dispatcherStep (fun _ _ => True) first events last) :
    (∀ left right, left ∈ last.deliveries.entries → right ∈ last.deliveries.entries →
      left.2.nonTerminal = true → right.2.nonTerminal = true → left = right) ∧
    (∀ eventId, Numbered (attempts last.deliveries eventId)) ∧
    ((last.subscription.lastDeliveredEventId = start ∧
        ∀ eventId, ¬ Settled last eventId) ∨
      IsGreatest {eventId | Settled last eventId}
        last.subscription.lastDeliveredEventId) := by
  have htracked := hrun.invariant (Tracked start)
    (fun htracked _ hstep => dispatcherStep_tracked htracked hstep)
    hsubscribed.tracked
  exact ⟨fun _ _ => htracked.oneOpen, htracked.numbered, htracked.cursor⟩

/-- The first delivery is lost in a crash and sent again after the restart; it is
answered with an error, retried and accepted. -/
def restartRun : List DispatcherEvent :=
  [.system (.insert 1 "ship.confirmed" 1 "a"),
    .system (.insert 2 "ship.confirmed" 1 "b"), .system (.commit 1),
    .system (.commit 2), .system (.tick (seconds 2)), .system .beginDelivery, .crash,
    .system .beginDelivery, .restart, .system .beginDelivery,
    .system (.settleDelivery ⟨some 503, none⟩ 4)]

def retryRun : List DispatcherEvent :=
  [.system (.tick (seconds 4)), .system .beginDelivery,
    .system (.settleDelivery ⟨some 200, none⟩ 0), .system .beginDelivery,
    .system (.settleDelivery ⟨some 404, none⟩ 0)]

def restartEnd : Outbox :=
  (execute dispatcherStep DispatchesInOrder fresh restartRun).getD fresh

def retryEnd : Outbox :=
  (execute dispatcherStep DispatchesInOrder restartEnd retryRun).getD restartEnd

theorem deliveredInOrder_retryEnd :
    (attempts retryEnd.deliveries 1).map Delivery.status = [.failed, .succeeded] ∧
      (attempts retryEnd.deliveries 2).map Delivery.status = [.dlq] ∧
      retryEnd.subscription.lastDeliveredEventId = 2 ∧
      DeliveredInOrder 0 retryEnd ∧
      restartEnd.subscription.lastDeliveredEventId ≤
        retryEnd.subscription.lastDeliveredEventId := by
  have hrun : Run dispatcherStep DispatchesInOrder fresh restartRun restartEnd :=
    Run.ofExecute rfl
  have hrun' : Run dispatcherStep DispatchesInOrder restartEnd retryRun retryEnd :=
    Run.ofExecute rfl
  exact ⟨rfl, rfl, rfl, deliveredInOrder_of_run fresh_subscribed hrun hrun'⟩

/-- The event of the transaction that commits last is passed by the cursor, and a
later event goes out. -/
def overtakenRun : List DispatcherEvent :=
  (lateCommitRun.map DispatcherEvent.system) ++
    [.system (.insert 3 "ship.confirmed" 1 "c"), .system (.commit 3),
      .system (.tick (seconds 2)), .system .beginDelivery]

/-- The outbox while that event is sent. -/
def overtakenEnd : Outbox :=
  (execute dispatcherStep (fun _ _ => True) fresh overtakenRun).getD fresh

theorem numbered_overtakenEnd : Numbered (attempts overtakenEnd.deliveries 2) :=
  (numbered_of_run fresh_subscribed (Run.ofExecute rfl : Run dispatcherStep (fun _ _ => True)
    fresh overtakenRun overtakenEnd)).2.1 2

/-- An event can be sent while an earlier one, committed and matured, was never
delivered. -/
theorem sends_out_of_order :
    Subscribed 0 fresh ∧
      Run dispatcherStep (fun _ _ => True) fresh overtakenRun overtakenEnd ∧
      (overtakenEnd.events.get? 1).map (matured overtakenEnd.now) = some true ∧
      (overtakenEnd.deliveries.entries.map fun entry =>
        (entry.2.eventId, entry.2.status)) = [(2, .succeeded), (3, .inFlight)] ∧
      ¬ DeliveredInOrder 0 overtakenEnd := by
  refine ⟨fresh_subscribed, Run.ofExecute rfl, by decide, rfl, fun hinOrder => ?_⟩
  have hsent : ∃ entry ∈ overtakenEnd.deliveries.entries, entry.2.eventId = 3 ∧
      entry.2.status = .inFlight := by decide
  have hearlier : ∃ entry ∈ overtakenEnd.events.entries, entry.1 = 1 ∧
      overtakenEnd.subscription.admits entry.2 = true := by decide
  have hunsettled : ∀ entry ∈ overtakenEnd.deliveries.entries, entry.2.eventId ≠ 1 := by
    decide
  obtain ⟨⟨deliveryId, delivery⟩, hmem, hevent, hstatus⟩ := hsent
  obtain ⟨⟨eventId, event⟩, heventMem, rfl, hadmits⟩ := hearlier
  obtain ⟨settled, hsettledMem, hsettled, -⟩ :=
    hinOrder.sentInOrder deliveryId delivery hmem hstatus 1 event heventMem hadmits
      (by decide) (by rw [hevent]; decide)
  exact hunsettled settled hsettledMem hsettled

end SentryWms.Webhook
