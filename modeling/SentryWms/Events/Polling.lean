import SentryWms.Webhook.Dispatch

/-!
# Polling the outbox

A connector polls `integration_events` past a cursor: its own, or that of a consumer
group, which it moves by acknowledging. A poll returns what the token, the request and
the subscription of the group all admit; an acknowledgement is refused when any committed
event in the gap lies outside the scope of the token.
-/

namespace SentryWms.Polling

open Relational Webhook

/-! ## Requests -/

structure PollToken where
  connectorId : Option String
  warehouseIds : List ℕ
  eventTypes : List String

/-- `consumer_groups.subscription`. -/
structure GroupSubscription where
  warehouseIds : List ℕ
  eventTypes : List String

/-- A row of `consumer_groups`. A subscription that does not parse is `none`. -/
structure ConsumerGroup where
  connectorId : String
  lastCursor : ℕ
  subscription : Option GroupSubscription

abbrev Groups : Type := String → Option ConsumerGroup

/-- `PollQuery`, with `types` split. -/
structure PollQuery where
  after : Option ℕ
  consumerGroup : Option String
  types : List String
  warehouseId : Option ℕ
  limit : ℕ

inductive PollError where
  | mutuallyExclusive
  | scopeViolation (field : String)
  | consumerGroupNotFound
  | subscriptionInvalid

structure PollPage where
  events : List (ℕ × OutboxEvent)
  nextCursor : ℕ

inductive AckError where
  | consumerGroupNotFound
  | consumerGroupScopeViolation
  | cursorBeyondHorizon
  | ackScopeViolation

/-! ## Polls -/

def PollToken.inScope (token : PollToken) (event : OutboxEvent) : Bool :=
  token.warehouseIds.contains event.warehouseId &&
    token.eventTypes.contains event.eventType

def listClause {α : Type} [BEq α] (allowed : List α) (value : α) : Bool :=
  allowed.isEmpty || allowed.contains value

def GroupSubscription.admits (subscription : GroupSubscription) (event : OutboxEvent) :
    Bool :=
  listClause subscription.warehouseIds event.warehouseId &&
    listClause subscription.eventTypes event.eventType

/-- The clauses of a request. -/
def PollQuery.admits (query : PollQuery) (event : OutboxEvent) : Bool :=
  (query.warehouseId.isNone || query.warehouseId == some event.warehouseId) &&
    listClause query.types event.eventType

/-- `_build_events_query`: the rows that its clauses select, in the order of their ids. -/
def eventsQuery (log : Table OutboxEvent) (now after : ℕ) (token : PollToken)
    (query : PollQuery) (subscription : GroupSubscription) : List (ℕ × OutboxEvent) :=
  log.entries.filter fun entry =>
    decide (after < entry.1) && matured now entry.2 && token.inScope entry.2 &&
      query.admits entry.2 && subscription.admits entry.2

def scopeViolation {α : Type} [BEq α] (requested allowed : List α) : Bool :=
  requested.any fun value => !allowed.contains value

/-- The cursor and the subscription that a query is evaluated with. -/
def pollBase (groups : Groups) (query : PollQuery) :
    Except PollError (ℕ × GroupSubscription) :=
  match query.consumerGroup with
  | none => .ok (query.after.getD 0, ⟨[], []⟩)
  | some groupId =>
      match groups groupId with
      | none => .error .consumerGroupNotFound
      | some group =>
          match group.subscription with
          | none => .error .subscriptionInvalid
          | some subscription => .ok (group.lastCursor, subscription)

def pollEvents (log : Table OutboxEvent) (now : ℕ) (groups : Groups) (token : PollToken)
    (query : PollQuery) : Except PollError PollPage :=
  if query.after.isSome && query.consumerGroup.isSome then .error .mutuallyExclusive
  else if scopeViolation query.warehouseId.toList token.warehouseIds then
    .error (.scopeViolation "warehouse_id")
  else if scopeViolation query.types token.eventTypes then
    .error (.scopeViolation "types")
  else do
    let (after, subscription) ← pollBase groups query
    let events := (eventsQuery log now after token query subscription).take query.limit
    pure ⟨events, (events.getLast?.map Prod.fst).getD after⟩

/-! ## Acknowledgements -/

/-- The rows that other transactions see. -/
def committed (log : Table OutboxEvent) : List (ℕ × OutboxEvent) :=
  log.select fun event => event.visibleAt.isSome

/-- `MAX(event_id)`, or zero. -/
def horizon (log : Table OutboxEvent) : ℕ :=
  ((committed log).map Prod.fst).foldr max 0

/-- The token is not bound to another connector than the group's. -/
def PollToken.mayAck (token : PollToken) (group : ConsumerGroup) : Bool :=
  token.connectorId.all fun connectorId =>
    connectorId == "" || connectorId == group.connectorId

/-- `ack_cursor`. The last cursor of the group is part of the answer. -/
def ackCursor (log : Table OutboxEvent) (groups : Groups) (token : PollToken)
    (groupId : String) (cursor : ℕ) : Except AckError (ℕ × Groups) :=
  match groups groupId with
  | none => .error .consumerGroupNotFound
  | some group =>
      if !token.mayAck group then .error .consumerGroupScopeViolation
      else if group.lastCursor < cursor ∧ horizon log < cursor then
        .error .cursorBeyondHorizon
      else if group.lastCursor < cursor ∧ (committed log).any fun entry =>
          decide (group.lastCursor < entry.1 ∧ entry.1 ≤ cursor) &&
            !token.inScope entry.2 then
        .error .ackScopeViolation
      else if group.lastCursor ≤ cursor then
        .ok (cursor, Function.update groups groupId
          (some { group with lastCursor := cursor }))
      else .ok (group.lastCursor, groups)

/-! ## Rounds -/

/-- A poll or an acknowledgement of a round failed. -/
inductive RoundError where
  | poll (error : PollError)
  | ack (error : AckError)

def groupQuery (groupId : String) (limit : ℕ) : PollQuery :=
  ⟨none, some groupId, [], none, limit⟩

def pollAndAck (log : Table OutboxEvent) (now : ℕ) (token : PollToken) (groupId : String)
    (limit : ℕ) (groups : Groups) : Except RoundError (PollPage × Groups) :=
  match pollEvents log now groups token (groupQuery groupId limit) with
  | .error error => .error (.poll error)
  | .ok page =>
      match ackCursor log groups token groupId page.nextCursor with
      | .error error => .error (.ack error)
      | .ok (_, groups') => .ok (page, groups')

/-- So many rounds. -/
def pollRounds (log : Table OutboxEvent) (now : ℕ) (token : PollToken) (groupId : String)
    (limit : ℕ) : ℕ → Groups → Except RoundError (List PollPage × Groups)
  | 0, groups => .ok ([], groups)
  | rounds + 1, groups => do
      let (page, groups') ← pollAndAck log now token groupId limit groups
      let (pages, groups'') ← pollRounds log now token groupId limit rounds groups'
      pure (page :: pages, groups'')

/-! ## Pages -/

section Pages

variable {log : Table OutboxEvent} {now : ℕ} {token : PollToken} {groups : Groups}
  {groupId : String} {group : ConsumerGroup} {subscription : GroupSubscription}

def GapInScope (log : Table OutboxEvent) (token : PollToken) (group : ConsumerGroup)
    (cursor : ℕ) : Prop :=
  ∀ entry ∈ committed log, group.lastCursor < entry.1 → entry.1 ≤ cursor →
    token.inScope entry.2 = true

/-- What a token may read of a group past a cursor. -/
def pendingEvents (log : Table OutboxEvent) (now : ℕ) (token : PollToken)
    (subscription : GroupSubscription) (after : ℕ) : List (ℕ × OutboxEvent) :=
  log.entries.filter fun entry =>
    decide (after < entry.1) && matured now entry.2 && token.inScope entry.2 &&
      subscription.admits entry.2

def cursorAfter (events : List (ℕ × OutboxEvent)) (after : ℕ) : ℕ :=
  (events.getLast?.map Prod.fst).getD after

theorem matured_isSome {event : OutboxEvent} (hmatured : matured now event = true) :
    event.visibleAt.isSome := by
  cases hvisible : event.visibleAt with
  | none => simp [matured, hvisible] at hmatured
  | some visibleAt => rfl

theorem le_horizon {entry : ℕ × OutboxEvent} (hentry : entry ∈ committed log) :
    entry.1 ≤ horizon log := by
  have hmem : entry.1 ∈ (committed log).map Prod.fst := List.mem_map_of_mem hentry
  rw [horizon]
  generalize (committed log).map Prod.fst = keys at hmem ⊢
  induction keys with
  | nil => cases hmem
  | cons key keys ih =>
      rw [List.foldr_cons]
      cases List.mem_cons.mp hmem with
      | inl heq => exact heq ▸ le_max_left _ _
      | inr htail => exact (ih htail).trans (le_max_right _ _)

variable {query : PollQuery} {page : PollPage}

theorem pollEvents_spec (hquery : query.consumerGroup = some groupId)
    (hgroup : groups groupId = some group)
    (hpoll : pollEvents log now groups token query = .ok page) :
    (∀ entry ∈ page.events, group.lastCursor < entry.1 ∧ entry ∈ committed log) ∧
      page.nextCursor = cursorAfter page.events group.lastCursor := by
  simp only [pollEvents, pollBase, hquery, hgroup] at hpoll
  split at hpoll
  · cases hpoll
  split at hpoll
  · cases hpoll
  split at hpoll
  · cases hpoll
  cases hsubscription : group.subscription with
  | none =>
      simp only [hsubscription] at hpoll
      cases hpoll
  | some subscription =>
      simp only [hsubscription] at hpoll
      cases hpoll
      refine ⟨?_, rfl⟩
      intro entry hentry
      have hmem := List.mem_of_mem_take hentry
      simp only [eventsQuery, List.mem_filter, Bool.and_eq_true, decide_eq_true_eq] at hmem
      exact ⟨hmem.2.1.1.1.1, (Table.mem_select _).mpr
        ⟨hmem.1, matured_isSome hmem.2.1.1.1.2⟩⟩

theorem nextCursor_bounds (hquery : query.consumerGroup = some groupId)
    (hgroup : groups groupId = some group)
    (hpoll : pollEvents log now groups token query = .ok page) :
    group.lastCursor ≤ page.nextCursor ∧
      (group.lastCursor < page.nextCursor → page.nextCursor ≤ horizon log) := by
  have hspec := pollEvents_spec hquery hgroup hpoll
  rw [hspec.2, cursorAfter]
  cases hlast : page.events.getLast? with
  | none => simp
  | some entry =>
      have hentry := hspec.1 entry (List.mem_of_getLast? hlast)
      exact ⟨hentry.1.le, fun _ => le_horizon hentry.2⟩

/-- The cursor of a page is accepted if and only if the token may acknowledge for the
connector of the group and everything in the gap lies in its scope. -/
theorem ackCursor_page_iff (hquery : query.consumerGroup = some groupId)
    (hgroup : groups groupId = some group)
    (hpoll : pollEvents log now groups token query = .ok page) :
    ackCursor log groups token groupId page.nextCursor =
        .ok (page.nextCursor, Function.update groups groupId
          (some { group with lastCursor := page.nextCursor })) ↔
      token.mayAck group = true ∧ GapInScope log token group page.nextCursor := by
  have hbounds := nextCursor_bounds hquery hgroup hpoll
  have hhorizon : ¬(group.lastCursor < page.nextCursor ∧ horizon log < page.nextCursor) :=
    fun hbeyond => absurd (hbounds.2 hbeyond.1) (not_le.mpr hbeyond.2)
  have hgap : GapInScope log token group page.nextCursor ↔
      ¬(group.lastCursor < page.nextCursor ∧ (committed log).any fun entry =>
        decide (group.lastCursor < entry.1 ∧ entry.1 ≤ page.nextCursor) &&
          !token.inScope entry.2) := by
    rw [GapInScope, List.any_eq_true]
    constructor
    · rintro hscope ⟨-, entry, hentry, hcond⟩
      rw [Bool.and_eq_true, decide_eq_true_eq, Bool.not_eq_true'] at hcond
      rw [hscope entry hentry hcond.1.1 hcond.1.2] at hcond
      cases hcond.2
    · intro hnone entry hentry hafter hupto
      by_contra hout
      refine hnone ⟨lt_of_lt_of_le hafter hupto, entry, hentry, ?_⟩
      rw [Bool.and_eq_true, decide_eq_true_eq, Bool.not_eq_true']
      exact ⟨⟨hafter, hupto⟩, Bool.eq_false_iff.mpr hout⟩
  rw [hgap]
  cases hmay : token.mayAck group with
  | false => simp [ackCursor, hgroup, hmay]
  | true =>
      simp only [ackCursor, hgroup, hmay, Bool.not_true, Bool.false_eq_true, if_false,
        if_neg hhorizon, true_and]
      split
      next hout => exact iff_of_false nofun fun hin => hin hout
      next hin =>
        rw [if_pos hbounds.1]
        exact iff_of_true rfl hin

/-! ## Visiting everything -/

theorem pollEvents_group (hgroup : groups groupId = some group)
    (hsubscription : group.subscription = some subscription) (limit : ℕ) :
    pollEvents log now groups token (groupQuery groupId limit) =
      .ok ⟨(pendingEvents log now token subscription group.lastCursor).take limit,
        cursorAfter ((pendingEvents log now token subscription group.lastCursor).take limit)
          group.lastCursor⟩ := by
  have hevents : eventsQuery log now group.lastCursor token (groupQuery groupId limit)
      subscription = pendingEvents log now token subscription group.lastCursor := by
    apply List.filter_congr
    intro entry _
    simp [groupQuery, PollQuery.admits, listClause]
  simp only [pollEvents, pollBase, groupQuery, hgroup, hsubscription]
  rw [← hevents]
  rfl

theorem pendingEvents_sorted (after : ℕ) :
    ((pendingEvents log now token subscription after).map Prod.fst).Pairwise (· < ·) :=
  log.sorted.sublist (List.filter_sublist.map _)

theorem pendingEvents_after (after limit : ℕ) :
    pendingEvents log now token subscription
        (cursorAfter ((pendingEvents log now token subscription after).take limit) after) =
      (pendingEvents log now token subscription after).drop limit := by
  set pending := pendingEvents log now token subscription after with hpending
  set cursor := cursorAfter (pending.take limit) after with hcursor
  have hsorted : (pending.map Prod.fst).Pairwise (· < ·) := pendingEvents_sorted after
  have hsplit := hsorted
  rw [← List.take_append_drop limit pending, List.map_append, List.pairwise_append]
    at hsplit
  have hpast : ∀ entry ∈ pending, after < entry.1 := by
    intro entry hentry
    rw [hpending, pendingEvents, List.mem_filter] at hentry
    simp only [Bool.and_eq_true, decide_eq_true_eq] at hentry
    exact hentry.2.1.1.1
  have hnext : pendingEvents log now token subscription cursor =
      pending.filter fun entry => decide (cursor < entry.1) := by
    have hle : after ≤ cursor := by
      rw [hcursor, cursorAfter]
      cases hlast : (pending.take limit).getLast? with
      | none => exact le_refl after
      | some tail =>
          exact (hpast tail (List.mem_of_mem_take (List.mem_of_getLast? hlast))).le
    rw [hpending, pendingEvents, pendingEvents, List.filter_filter]
    apply List.filter_congr
    intro entry _
    by_cases hcut : cursor < entry.1
    · simp [hcut, lt_of_le_of_lt hle hcut]
    · simp [hcut]
  rw [hnext]
  cases hlast : (pending.take limit).getLast? with
  | none =>
      have hempty : pending.take limit = [] := List.getLast?_eq_none_iff.mp hlast
      have hstay : cursor = after := by rw [hcursor, cursorAfter, hlast]; rfl
      rw [hstay, List.filter_eq_self.mpr fun entry hentry => decide_eq_true (hpast _ hentry)]
      conv_lhs => rw [← List.take_append_drop limit pending, hempty, List.nil_append]
  | some tail =>
      have htail : cursor = tail.1 := by rw [hcursor, cursorAfter, hlast]; rfl
      have hmem : tail ∈ pending.take limit := List.mem_of_getLast? hlast
      have hread : (pending.take limit).filter (fun entry => decide (cursor < entry.1)) =
          [] := by
        rw [List.filter_eq_nil_iff]
        intro entry hentry
        rw [decide_eq_true_eq, not_lt, htail]
        obtain ⟨front, hfront⟩ := List.getLast?_eq_some_iff.mp hlast
        have hfirst := hsplit.1
        rw [hfront, List.map_append, List.pairwise_append] at hfirst
        rw [hfront, List.mem_append, List.mem_singleton] at hentry
        cases hentry with
        | inl hfrontMem =>
            exact (hfirst.2.2 _ (List.mem_map_of_mem hfrontMem) _ (by simp)).le
        | inr heq => rw [heq]
      have hrest : (pending.drop limit).filter (fun entry => decide (cursor < entry.1)) =
          pending.drop limit := by
        rw [List.filter_eq_self]
        intro entry hentry
        rw [decide_eq_true_eq, htail]
        exact hsplit.2.2 _ (List.mem_map_of_mem hmem) _ (List.mem_map_of_mem hentry)
      calc
        pending.filter (fun entry => decide (cursor < entry.1))
        _ = (pending.take limit ++ pending.drop limit).filter
              (fun entry => decide (cursor < entry.1)) := by rw [List.take_append_drop]
        _ = pending.drop limit := by rw [List.filter_append, hread, hrest, List.nil_append]

def PathInScope (log : Table OutboxEvent) (now : ℕ) (token : PollToken)
    (group : ConsumerGroup) (subscription : GroupSubscription) : Prop :=
  ∀ later ∈ pendingEvents log now token subscription group.lastCursor,
    GapInScope log token group later.1

theorem pollRounds_spec (rounds limit : ℕ) (hgroup : groups groupId = some group)
    (hsubscription : group.subscription = some subscription)
    (hmay : token.mayAck group = true)
    (hscope : PathInScope log now token group subscription) :
    ∃ pages groups', pollRounds log now token groupId limit rounds groups =
        .ok (pages, groups') ∧
      pages.flatMap PollPage.events =
        (pendingEvents log now token subscription group.lastCursor).take (rounds * limit) := by
  induction rounds generalizing groups group with
  | zero => exact ⟨[], groups, rfl, by simp⟩
  | succ rounds ih =>
      set pending := pendingEvents log now token subscription group.lastCursor
      set page : PollPage :=
        ⟨pending.take limit, cursorAfter (pending.take limit) group.lastCursor⟩ with hpage
      have hpoll : pollEvents log now groups token (groupQuery groupId limit) = .ok page :=
        pollEvents_group hgroup hsubscription limit
      have hgap : GapInScope log token group page.nextCursor := by
        rw [hpage]
        intro entry hentry hafter hupto
        simp only [cursorAfter] at hupto
        cases hlast : (pending.take limit).getLast? with
        | none =>
            rw [hlast, Option.map_none, Option.getD_none] at hupto
            exact absurd hafter (not_lt.mpr hupto)
        | some tail =>
            rw [hlast, Option.map_some, Option.getD_some] at hupto
            have htail : tail ∈ pending := List.mem_of_mem_take (List.mem_of_getLast? hlast)
            exact hscope tail htail entry hentry hafter hupto
      have hack := (ackCursor_page_iff rfl hgroup hpoll).mpr ⟨hmay, hgap⟩
      have hbounds := nextCursor_bounds rfl hgroup hpoll
      have hmoved : Function.update groups groupId
          (some { group with lastCursor := page.nextCursor }) groupId =
            some { group with lastCursor := page.nextCursor } := Function.update_self ..
      have hpath : PathInScope log now token { group with lastCursor := page.nextCursor }
          subscription := by
        intro later hlater entry hentry hafter hupto
        have hrest : later ∈ pending.drop limit := by
          rw [← pendingEvents_after group.lastCursor limit]
          exact hlater
        exact hscope later (List.mem_of_mem_drop hrest) entry hentry
          (lt_of_le_of_lt hbounds.1 hafter) hupto
      obtain ⟨pages, groups', hrounds, hevents⟩ := ih hmoved hsubscription hmay hpath
      refine ⟨page :: pages, groups', ?_, ?_⟩
      · simp only [pollRounds, pollAndAck, hpoll, hack]
        simp only [bind, Except.bind, hrounds]
        rfl
      · calc
          (page :: pages).flatMap PollPage.events
          _ = pending.take limit ++ pages.flatMap PollPage.events := rfl
          _ = pending.take limit ++ (pending.drop limit).take (rounds * limit) := by
              rw [hevents, hpage]
              exact congrArg _ (congrArg _ (pendingEvents_after _ _))
          _ = pending.take ((rounds + 1) * limit) := by
              rw [← List.take_add, add_mul, one_mul, add_comm]

/-- The cursor of a page is accepted if and only if the token may acknowledge for the
connector of the group and everything in the gap lies in its scope; and a poller with
nothing out of scope on its way visits the pending events once and in order. -/
theorem poller_progresses (hgroup : groups groupId = some group)
    (hsubscription : group.subscription = some subscription) :
    (∀ query page, query.consumerGroup = some groupId →
      pollEvents log now groups token query = .ok page →
      (∀ entry ∈ page.events, group.lastCursor < entry.1) ∧
      (ackCursor log groups token groupId page.nextCursor =
          .ok (page.nextCursor, Function.update groups groupId
            (some { group with lastCursor := page.nextCursor })) ↔
        token.mayAck group = true ∧ GapInScope log token group page.nextCursor)) ∧
    (token.mayAck group = true → PathInScope log now token group subscription →
      ∀ rounds limit, ∃ pages groups',
        pollRounds log now token groupId limit rounds groups = .ok (pages, groups') ∧
        pages.flatMap PollPage.events =
          (pendingEvents log now token subscription group.lastCursor).take
            (rounds * limit)) := by
  constructor
  · intro query page hquery hpoll
    exact ⟨fun entry hentry => ((pollEvents_spec hquery hgroup hpoll).1 entry hentry).1,
      ackCursor_page_iff hquery hgroup hpoll⟩
  · intro hmay hpath rounds limit
    exact pollRounds_spec rounds limit hgroup hsubscription hmay hpath

end Pages

/-! ## Small logs -/

def twoWarehouses : Table OutboxEvent :=
  Table.ofRows [⟨"ship.confirmed", 2, "a", 1, some 0⟩,
    ⟨"receipt.completed", 1, "b", 2, some 0⟩]

def oneGroup (connectorId : String) (eventTypes : List String) : Groups :=
  fun groupId => if groupId = "g" then some ⟨connectorId, 0, some ⟨[], eventTypes⟩⟩ else none

/-- A token for both event types. -/
def scopedToken (connectorId : Option String) (warehouseIds : List ℕ) : PollToken :=
  ⟨connectorId, warehouseIds, ["ship.confirmed", "receipt.completed"]⟩

theorem poller_progresses_twoWarehouses :
    oneGroup "erp" [] "g" = some ⟨"erp", 0, some ⟨[], []⟩⟩ ∧
      (scopedToken none [1, 2]).mayAck ⟨"erp", 0, some ⟨[], []⟩⟩ = true ∧
      ∃ pages groups', pollRounds twoWarehouses (seconds 3) (scopedToken none [1, 2]) "g" 1
          2 (oneGroup "erp" []) = .ok (pages, groups') ∧
        pages.flatMap PollPage.events = twoWarehouses.entries := by
  have hall : ∀ entry ∈ committed twoWarehouses,
      (scopedToken none [1, 2]).inScope entry.2 = true := by decide
  have hpath : PathInScope twoWarehouses (seconds 3) (scopedToken none [1, 2])
      ⟨"erp", 0, some ⟨[], []⟩⟩ ⟨[], []⟩ := fun _ _ entry hentry _ _ => hall entry hentry
  have hgroup : oneGroup "erp" [] "g" = some ⟨"erp", 0, some ⟨[], []⟩⟩ := rfl
  have hprogress := (poller_progresses hgroup rfl).2 rfl hpath 2 1
  exact ⟨rfl, rfl, hprogress⟩

/-- A token for one warehouse is given a page whose cursor it may not acknowledge; so is
a token of another connector; and a narrower subscription passes over events in the
scope of the token. -/
theorem poller_stuck :
    (pollEvents twoWarehouses (seconds 3) (oneGroup "erp" []) (scopedToken none [1])
        (groupQuery "g" 10) = .ok ⟨[(2, ⟨"receipt.completed", 1, "b", 2, some 0⟩)], 2⟩ ∧
      ackCursor twoWarehouses (oneGroup "erp" []) (scopedToken none [1]) "g" 2 =
        .error .ackScopeViolation) ∧
    (pollEvents twoWarehouses (seconds 3) (oneGroup "erp" [])
        (scopedToken (some "shop") [1, 2]) (groupQuery "g" 10) =
          .ok ⟨twoWarehouses.entries, 2⟩ ∧
      ackCursor twoWarehouses (oneGroup "erp" []) (scopedToken (some "shop") [1, 2]) "g" 2 =
        .error .consumerGroupScopeViolation) ∧
    (pollEvents twoWarehouses (seconds 3) (oneGroup "erp" ["receipt.completed"])
        (scopedToken none [1, 2]) (groupQuery "g" 10) =
          .ok ⟨[(2, ⟨"receipt.completed", 1, "b", 2, some 0⟩)], 2⟩ ∧
      (ackCursor twoWarehouses (oneGroup "erp" ["receipt.completed"])
        (scopedToken none [1, 2]) "g" 2).toOption.map Prod.fst = some 2) :=
  ⟨⟨rfl, rfl⟩, ⟨rfl, rfl⟩, ⟨rfl, rfl⟩⟩

end SentryWms.Polling
