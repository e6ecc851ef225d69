import SentryWms.Events.Polling

/-!
# From a snapshot to polling

A consumer reads a snapshot and then polls past its `snapshot_event_id`. What the
snapshot shows is decided by the commits before the promotion, where the polls begin and
go on by event ids, which are drawn before the commits. As long as no event with a lower
id is still to come when the keeper promotes and when a page is read, the two orders
agree and no committed change is lost between them.
-/

namespace SentryWms.Snapshot

open Relational Transition Webhook Polling

/-! ## The system -/

/-- What the keeper exported: the transactions the snapshot shows, and the id past which
polling begins. -/
structure ExportedSnapshot where
  visible : List ℕ
  snapshotEventId : ℕ

/-- The outbox with the committed transactions, the last snapshot exported, and how far
its consumer has polled. -/
structure Handoff where
  log : Table OutboxEvent
  finished : List ℕ
  now : ℕ
  exported : Option ExportedSnapshot
  cursor : ℕ
  returned : List ℕ

/-- What happens in the system: statements of transactions, the passing of time, a
promotion by the keeper, a poll of the consumer. -/
inductive HandoffEvent where
  | insert (txn : ℕ) (eventType : String) (warehouseId : ℕ) (aggregateExternalId : String)
  | commit (txn : ℕ)
  | rollback (txn : ℕ)
  | tick (elapsed : ℕ)
  | promote
  | poll (limit : ℕ)

/-- `SELECT COALESCE(MAX(event_id), 0)` over the events visible past the buffer. -/
def snapshotEventId (log : Table OutboxEvent) (now : ℕ) : ℕ :=
  ((log.select (matured now)).map Prod.fst).foldr max 0

/-- `set_integration_event_visible_at`: the commit of a transaction stamps its events. -/
def stampEvents (log : Table OutboxEvent) (now txn : ℕ) : Table OutboxEvent :=
  log.updateWhere (fun event => event.txn == txn && event.visibleAt.isNone)
    fun event => { event with visibleAt := some now }

/-- `_promote`: what one REPEATABLE READ transaction sees and exports. The consumer
starts polling there. -/
def promote (handoff : Handoff) : Handoff :=
  { handoff with
    exported := some ⟨handoff.finished, snapshotEventId handoff.log handoff.now⟩
    cursor := snapshotEventId handoff.log handoff.now
    returned := [] }

/-- The poll of a consumer that sends its own cursor. -/
def cursorQuery (cursor limit : ℕ) : PollQuery :=
  ⟨some cursor, none, [], none, limit⟩

/-- Read one page past the cursor. -/
def pollNext (token : PollToken) (handoff : Handoff) (limit : ℕ) : Option Handoff :=
  match pollEvents handoff.log handoff.now (fun _ => none) token
    (cursorQuery handoff.cursor limit) with
  | .error _ => none
  | .ok page =>
      some { handoff with
        cursor := page.nextCursor
        returned := handoff.returned ++ page.events.map Prod.fst }

/-- One step. A transaction that has committed does nothing more, and the consumer polls
once a snapshot is exported. -/
def step (token : PollToken) (handoff : Handoff) : HandoffEvent → Option Handoff
  | .insert txn eventType warehouseId aggregateExternalId =>
      if txn ∈ handoff.finished then none
      else some { handoff with
        log := handoff.log.insert ⟨eventType, warehouseId, aggregateExternalId, txn, none⟩ }
  | .commit txn =>
      if txn ∈ handoff.finished then none
      else some { handoff with
        log := stampEvents handoff.log handoff.now txn
        finished := txn :: handoff.finished }
  | .rollback txn =>
      if txn ∈ handoff.finished then none
      else some { handoff with
        log := handoff.log.deleteWhere fun event => event.txn == txn }
  | .tick elapsed => some { handoff with now := handoff.now + elapsed }
  | .promote => some (promote handoff)
  | .poll limit => if handoff.exported.isSome then pollNext token handoff limit else none

/-! ## The condition -/

/-- No event below one that is visible past the buffer belongs to a transaction that has
not committed. -/
def PromotesInOrder (token : PollToken) (handoff : Handoff) : Prop :=
  ∀ lower ∈ handoff.log.entries, ∀ higher ∈ handoff.log.entries, lower.1 < higher.1 →
    matured handoff.now higher.2 = true → token.inScope lower.2 = true →
    lower.2.visibleAt.isSome

/-- The transaction is one the snapshot shows. -/
def Handoff.shows (handoff : Handoff) (txn : ℕ) : Prop :=
  ∃ exported, handoff.exported = some exported ∧ txn ∈ exported.visible

/-- Past the cursor, every event below one that is visible past the buffer is visible
past the buffer too, or the snapshot shows its transaction. -/
def PollsInOrder (token : PollToken) (handoff : Handoff) : Prop :=
  ∀ lower ∈ handoff.log.entries, ∀ higher ∈ handoff.log.entries,
    handoff.cursor < lower.1 → lower.1 < higher.1 → matured handoff.now higher.2 = true →
    token.inScope lower.2 = true → token.inScope higher.2 = true →
    matured handoff.now lower.2 = true ∨ handoff.shows lower.2.txn

def HandsOffInOrder (token : PollToken) (handoff : Handoff) : HandoffEvent → Prop
  | .promote => PromotesInOrder token handoff
  | .poll _ => PollsInOrder token handoff
  | _ => True

instance (handoff : Handoff) (txn : ℕ) : Decidable (handoff.shows txn) :=
  match hexported : handoff.exported with
  | none => isFalse fun ⟨_, hsome, _⟩ => by rw [hexported] at hsome; cases hsome
  | some exported =>
      if hmem : txn ∈ exported.visible then isTrue ⟨exported, hexported, hmem⟩
      else isFalse fun ⟨_, hsome, hvisible⟩ => by
        rw [hexported] at hsome
        cases hsome
        exact hmem hvisible

instance (token : PollToken) (handoff : Handoff) (event : HandoffEvent) :
    Decidable (HandsOffInOrder token handoff event) :=
  match event with
  | .promote => inferInstanceAs (Decidable (∀ lower ∈ handoff.log.entries,
      ∀ higher ∈ handoff.log.entries, lower.1 < higher.1 →
        matured handoff.now higher.2 = true → token.inScope lower.2 = true →
        lower.2.visibleAt.isSome))
  | .poll _ => inferInstanceAs (Decidable (∀ lower ∈ handoff.log.entries,
      ∀ higher ∈ handoff.log.entries, handoff.cursor < lower.1 → lower.1 < higher.1 →
        matured handoff.now higher.2 = true → token.inScope lower.2 = true →
        token.inScope higher.2 = true →
        matured handoff.now lower.2 = true ∨ handoff.shows lower.2.txn))
  | .insert _ _ _ _ => inferInstanceAs (Decidable True)
  | .commit _ => inferInstanceAs (Decidable True)
  | .rollback _ => inferInstanceAs (Decidable True)
  | .tick _ => inferInstanceAs (Decidable True)

/-! ## The property -/

/-- The change of an event is in the snapshot, or the event was returned by a poll. -/
def Handoff.covers (handoff : Handoff) (entry : ℕ × OutboxEvent) : Prop :=
  handoff.shows entry.2.txn ∨ entry.1 ∈ handoff.returned

instance (handoff : Handoff) (entry : ℕ × OutboxEvent) : Decidable (handoff.covers entry) :=
  inferInstanceAs (Decidable (_ ∨ _))

/-- Every transaction has committed, the buffer has passed, and another poll would return
nothing. -/
structure Quiet (token : PollToken) (handoff : Handoff) : Prop where
  matured : ∀ entry ∈ handoff.log.entries, matured handoff.now entry.2 = true
  polled : pendingEvents handoff.log handoff.now token ⟨[], []⟩ handoff.cursor = []

/-- Ids are positive, the events of committed transactions are the stamped ones, and no
snapshot has been exported. -/
structure Started (handoff : Handoff) : Prop where
  serial : 0 < handoff.log.next
  positive : ∀ entry ∈ handoff.log.entries, 0 < entry.1
  stamped : ∀ entry ∈ handoff.log.entries,
    entry.2.visibleAt.isSome → entry.2.txn ∈ handoff.finished
  exported : handoff.exported = none

/-- Everything in scope up to the cursor is covered. -/
structure HandsOff (token : PollToken) (handoff : Handoff) : Prop where
  serial : 0 < handoff.log.next
  positive : ∀ entry ∈ handoff.log.entries, 0 < entry.1
  stamped : ∀ entry ∈ handoff.log.entries,
    entry.2.visibleAt.isSome → entry.2.txn ∈ handoff.finished
  issued : handoff.exported.isSome → handoff.cursor < handoff.log.next
  covered : handoff.exported.isSome → ∀ entry ∈ handoff.log.entries,
    token.inScope entry.2 = true → entry.1 ≤ handoff.cursor → handoff.covers entry

variable {token : PollToken} {handoff after : Handoff}

theorem Started.handsOff (hstarted : Started handoff) : HandsOff token handoff where
  serial := hstarted.serial
  positive := hstarted.positive
  stamped := hstarted.stamped
  issued := by simp [hstarted.exported]
  covered := by simp [hstarted.exported]

theorem HandsOff.insert (hhands : HandsOff token handoff) {event : OutboxEvent}
    (hopen : event.visibleAt = none) :
    HandsOff token { handoff with log := handoff.log.insert event } where
  serial := Nat.succ_pos _
  positive := by
    intro entry hentry
    cases (Table.mem_insert _).mp hentry with
    | inl hold => exact hhands.positive entry hold
    | inr hnew => exact hnew ▸ hhands.serial
  stamped := by
    intro entry hentry hsome
    cases (Table.mem_insert _).mp hentry with
    | inl hold => exact hhands.stamped entry hold hsome
    | inr hnew => simp [hnew, hopen] at hsome
  issued := fun hsome => Nat.lt_succ_of_lt (hhands.issued hsome)
  covered := by
    intro hsome entry hentry hscope hcursor
    cases (Table.mem_insert _).mp hentry with
    | inl hold => exact hhands.covered hsome entry hold hscope hcursor
    | inr hnew =>
        have hissued := hhands.issued hsome
        rw [hnew] at hcursor
        exact absurd hissued (not_lt.mpr hcursor)

theorem mem_stampEvents {log : Table OutboxEvent} {now txn : ℕ} {entry : ℕ × OutboxEvent}
    (hentry : entry ∈ (stampEvents log now txn).entries) :
    ∃ before, (entry.1, before) ∈ log.entries ∧ before.txn = entry.2.txn ∧
      before.warehouseId = entry.2.warehouseId ∧ before.eventType = entry.2.eventType ∧
      (before.visibleAt = entry.2.visibleAt ∨ entry.2.txn = txn) := by
  have hrow := (Table.mem_mapRows _).mp hentry
  obtain ⟨before, hbefore, hstamped⟩ := hrow
  refine ⟨before, hbefore, ?_⟩
  by_cases hcond : (before.txn == txn && before.visibleAt.isNone) = true
  · rw [if_pos hcond] at hstamped
    rw [Bool.and_eq_true, beq_iff_eq] at hcond
    simp [← hstamped, hcond.1]
  · rw [if_neg hcond] at hstamped
    simp [← hstamped]

theorem inScope_congr {left right : OutboxEvent}
    (hwarehouse : left.warehouseId = right.warehouseId)
    (htype : left.eventType = right.eventType) : token.inScope left = token.inScope right := by
  simp only [PollToken.inScope, hwarehouse, htype]

theorem HandsOff.commit (hhands : HandsOff token handoff) (txn : ℕ) :
    HandsOff token { handoff with
      log := stampEvents handoff.log handoff.now txn
      finished := txn :: handoff.finished } where
  serial := hhands.serial
  positive := by
    intro entry hentry
    obtain ⟨before, hbefore, -⟩ := mem_stampEvents hentry
    exact hhands.positive (entry.1, before) hbefore
  stamped := by
    intro entry hentry hsome
    obtain ⟨before, hbefore, htxn, -, -, hstamp⟩ := mem_stampEvents hentry
    cases hstamp with
    | inl hsame =>
        have hfinished := hhands.stamped _ hbefore (hsame ▸ hsome)
        rw [htxn] at hfinished
        exact List.mem_cons_of_mem _ hfinished
    | inr heq => exact heq ▸ List.mem_cons_self
  issued := hhands.issued
  covered := by
    intro hsome entry hentry hscope hcursor
    obtain ⟨before, hbefore, htxn, hwarehouse, htype, -⟩ := mem_stampEvents hentry
    have hcovers := hhands.covered hsome _ hbefore
      ((inScope_congr hwarehouse htype).trans hscope) hcursor
    rw [Handoff.covers, htxn] at hcovers
    exact hcovers

theorem HandsOff.rollback (hhands : HandsOff token handoff) (cond : OutboxEvent → Bool) :
    HandsOff token { handoff with log := handoff.log.deleteWhere cond } where
  serial := hhands.serial
  positive := fun entry hentry =>
    hhands.positive entry ((Table.mem_deleteWhere _).mp hentry).1
  stamped := fun entry hentry =>
    hhands.stamped entry ((Table.mem_deleteWhere _).mp hentry).1
  issued := hhands.issued
  covered := fun hsome entry hentry =>
    hhands.covered hsome entry ((Table.mem_deleteWhere _).mp hentry).1

/-- Up to the first id past which a consumer polls, everything was visible past the
buffer or lies below something that was. -/
theorem snapshotEventId_cases (log : Table OutboxEvent) (now : ℕ) :
    snapshotEventId log now = 0 ∨
      ∃ entry ∈ log.entries, entry.1 = snapshotEventId log now ∧
        matured now entry.2 = true := by
  have hmax : ∀ keys : List ℕ, keys.foldr max 0 = 0 ∨ keys.foldr max 0 ∈ keys := by
    intro keys
    induction keys with
    | nil => exact Or.inl rfl
    | cons key keys ih =>
        rw [List.foldr_cons]
        cases max_choice key (keys.foldr max 0) with
        | inl hleft =>
            rw [hleft]
            exact Or.inr List.mem_cons_self
        | inr hright =>
            rw [hright]
            exact ih.imp_right (List.mem_cons_of_mem _)
  apply (hmax _).imp_right
  intro hmem
  obtain ⟨entry, hentry, hkey⟩ := List.mem_map.mp hmem
  have hselect := (Table.mem_select _).mp hentry
  exact ⟨entry, hselect.1, hkey, hselect.2⟩

theorem HandsOff.promote (hhands : HandsOff token handoff)
    (horder : PromotesInOrder token handoff) : HandsOff token (promote handoff) where
  serial := hhands.serial
  positive := hhands.positive
  stamped := hhands.stamped
  issued := by
    intro _
    change snapshotEventId handoff.log handoff.now < handoff.log.next
    cases snapshotEventId_cases handoff.log handoff.now with
    | inl hzero =>
        rw [hzero]
        exact hhands.serial
    | inr hmax =>
        obtain ⟨entry, hentry, hkey, -⟩ := hmax
        rw [← hkey]
        exact handoff.log.fresh entry.1 (List.mem_map_of_mem hentry)
  covered := by
    intro _ entry hentry hscope hcursor
    change entry ∈ handoff.log.entries at hentry
    change entry.1 ≤ snapshotEventId handoff.log handoff.now at hcursor
    have hcommitted : entry.2.visibleAt.isSome := by
      cases snapshotEventId_cases handoff.log handoff.now with
      | inl hzero =>
          have hpositive := hhands.positive entry hentry
          omega
      | inr hmax =>
          obtain ⟨last, hlast, hkey, hmatured⟩ := hmax
          rw [← hkey] at hcursor
          cases Nat.lt_or_eq_of_le hcursor with
          | inl hlt => exact horder entry hentry last hlast hlt hmatured hscope
          | inr heq =>
              have hmem : (entry.1, last.2) ∈ handoff.log.entries := by
                rw [heq]
                exact hlast
              have hsame : entry.2 = last.2 := handoff.log.row_unique hentry hmem
              rw [hsame]
              exact matured_isSome hmatured
    exact Or.inl ⟨_, rfl, hhands.stamped entry hentry hcommitted⟩

theorem pendingEvents_cursorQuery (log : Table OutboxEvent) (now cursor limit : ℕ) :
    eventsQuery log now cursor token (cursorQuery cursor limit) ⟨[], []⟩ =
      pendingEvents log now token ⟨[], []⟩ cursor := by
  apply List.filter_congr
  intro entry _
  simp [cursorQuery, PollQuery.admits, listClause]

theorem pollNext_eq (handoff : Handoff) (limit : ℕ) :
    pollNext token handoff limit = some { handoff with
      cursor := cursorAfter ((pendingEvents handoff.log handoff.now token ⟨[], []⟩
        handoff.cursor).take limit) handoff.cursor
      returned := handoff.returned ++ ((pendingEvents handoff.log handoff.now token ⟨[], []⟩
        handoff.cursor).take limit).map Prod.fst } := by
  rw [pollNext, ← pendingEvents_cursorQuery handoff.log handoff.now handoff.cursor limit]
  rfl

theorem mem_pendingEvents {log : Table OutboxEvent} {now cursor : ℕ}
    {entry : ℕ × OutboxEvent} :
    entry ∈ pendingEvents log now token ⟨[], []⟩ cursor ↔
      entry ∈ log.entries ∧ cursor < entry.1 ∧ matured now entry.2 = true ∧
        token.inScope entry.2 = true := by
  simp [pendingEvents, GroupSubscription.admits, listClause, and_assoc]

theorem HandsOff.poll (hhands : HandsOff token handoff)
    (horder : PollsInOrder token handoff) (hexported : handoff.exported.isSome)
    {limit : ℕ} (hpoll : pollNext token handoff limit = some after) :
    HandsOff token after := by
  rw [pollNext_eq, Option.some.injEq] at hpoll
  set pending := pendingEvents handoff.log handoff.now token ⟨[], []⟩ handoff.cursor
  have hbound : ∀ entry ∈ pending, entry.1 < handoff.log.next := fun entry hentry =>
    handoff.log.fresh entry.1 (List.mem_map_of_mem (mem_pendingEvents.mp hentry).1)
  rw [← hpoll]
  constructor
  · exact hhands.serial
  · exact hhands.positive
  · exact hhands.stamped
  · intro _
    change cursorAfter (pending.take limit) handoff.cursor < handoff.log.next
    rw [cursorAfter]
    cases hlast : (pending.take limit).getLast? with
    | none => exact hhands.issued hexported
    | some tail => exact hbound tail (List.mem_of_mem_take (List.mem_of_getLast? hlast))
  · intro _ entry hentry hscope hcursor
    change entry.1 ≤ cursorAfter (pending.take limit) handoff.cursor at hcursor
    by_cases hold : entry.1 ≤ handoff.cursor
    · have hcovers := hhands.covered hexported entry hentry hscope hold
      exact hcovers.imp_right (List.mem_append_left _)
    · -- the page ends at or behind the entry, so it holds it unless the snapshot does
      rw [not_le] at hold
      rw [cursorAfter] at hcursor
      cases hlast : (pending.take limit).getLast? with
      | none =>
          rw [hlast, Option.map_none, Option.getD_none] at hcursor
          exact absurd hold (not_lt.mpr hcursor)
      | some tail =>
          rw [hlast, Option.map_some, Option.getD_some] at hcursor
          have htail : tail ∈ pending.take limit := List.mem_of_getLast? hlast
          have hread := mem_pendingEvents.mp (List.mem_of_mem_take htail)
          have hinPage : matured handoff.now entry.2 = true →
              entry ∈ pending.take limit := by
            intro hmatured
            have hpending : entry ∈ pending :=
              mem_pendingEvents.mpr ⟨hentry, hold, hmatured, hscope⟩
            rw [← List.take_append_drop limit pending, List.mem_append] at hpending
            cases hpending with
            | inl hpage => exact hpage
            | inr hrest =>
                have hsorted : (pending.map Prod.fst).Pairwise (· < ·) :=
                  pendingEvents_sorted handoff.cursor
                rw [← List.take_append_drop limit pending, List.map_append,
                  List.pairwise_append] at hsorted
                have hlt := hsorted.2.2 _ (List.mem_map_of_mem htail) _
                  (List.mem_map_of_mem hrest)
                exact absurd hcursor (not_le.mpr hlt)
          have hreturned : entry ∈ pending.take limit →
              entry.1 ∈ handoff.returned ++ (pending.take limit).map Prod.fst :=
            fun hpage => List.mem_append_right _ (List.mem_map_of_mem hpage)
          cases Nat.lt_or_eq_of_le hcursor with
          | inl hlt =>
              cases horder entry hentry tail hread.1 hold hlt hread.2.2.1 hscope
                  hread.2.2.2 with
              | inl hmatured => exact Or.inr (hreturned (hinPage hmatured))
              | inr hshows => exact Or.inl hshows
          | inr heq =>
              apply Or.inr
              rw [heq]
              exact List.mem_append_right _ (List.mem_map_of_mem htail)

theorem step_handsOff {event : HandoffEvent} (hhands : HandsOff token handoff)
    (horder : HandsOffInOrder token handoff event)
    (hstep : step token handoff event = some after) : HandsOff token after := by
  cases event with
  | insert txn eventType warehouseId aggregateExternalId =>
      simp only [step] at hstep
      split at hstep
      · cases hstep
      · cases hstep
        exact hhands.insert rfl
  | commit txn =>
      simp only [step] at hstep
      split at hstep
      · cases hstep
      · cases hstep
        exact hhands.commit txn
  | rollback txn =>
      simp only [step] at hstep
      split at hstep
      · cases hstep
      · cases hstep
        exact hhands.rollback _
  | tick elapsed =>
      cases hstep
      exact ⟨hhands.serial, hhands.positive, hhands.stamped, hhands.issued,
        hhands.covered⟩
  | promote =>
      cases hstep
      exact hhands.promote horder
  | poll limit =>
      simp only [step] at hstep
      split at hstep
      next hexported => exact hhands.poll horder hexported hstep
      next => cases hstep

/-- In every run in which promotions and polls happen in order, once all transactions
have committed, the buffer has passed and the consumer has polled to the end, the change
of every event in scope is in the snapshot or the event was returned. -/
theorem handedOff_of_run {first last : Handoff} {events : List HandoffEvent}
    (hstarted : Started first) (hrun : Run (step token) (HandsOffInOrder token) first events last)
    (hexported : last.exported.isSome) (hquiet : Quiet token last) :
    ∀ entry ∈ last.log.entries, token.inScope entry.2 = true → last.covers entry := by
  have hhands : HandsOff token last :=
    hrun.invariant (HandsOff token)
      (fun hhands horder hstep => step_handsOff hhands horder hstep) hstarted.handsOff
  intro entry hentry hscope
  by_cases hcursor : entry.1 ≤ last.cursor
  · exact hhands.covered hexported entry hentry hscope hcursor
  · have hpending : entry ∈ pendingEvents last.log last.now token ⟨[], []⟩ last.cursor :=
      mem_pendingEvents.mpr
        ⟨hentry, Nat.lt_of_not_le hcursor, hquiet.matured entry hentry, hscope⟩
    rw [hquiet.polled] at hpending
    cases hpending

/-! ## Two small runs -/

def emptyOutbox : Handoff := ⟨Table.empty, [], 0, none, 0, []⟩

theorem emptyOutbox_started : Started emptyOutbox :=
  ⟨by decide, by decide, by decide, rfl⟩

def shipToken : PollToken := ⟨none, [1], ["ship.confirmed"]⟩

def inOrderHandoff : List HandoffEvent :=
  [.insert 1 "ship.confirmed" 1 "a", .commit 1, .tick (seconds 3), .promote,
    .insert 2 "ship.confirmed" 1 "b", .commit 2, .tick (seconds 3), .poll 10]

/-- The system after that run. -/
def inOrderHandedOff : Handoff :=
  (execute (step shipToken) (HandsOffInOrder shipToken) emptyOutbox inOrderHandoff).getD
    emptyOutbox

theorem handedOff_inOrder :
    Started emptyOutbox ∧ inOrderHandedOff.exported.isSome ∧
      Quiet shipToken inOrderHandedOff ∧
      ∀ entry ∈ inOrderHandedOff.log.entries, shipToken.inScope entry.2 = true →
        inOrderHandedOff.covers entry := by
  have hrun : Run (step shipToken) (HandsOffInOrder shipToken) emptyOutbox inOrderHandoff
      inOrderHandedOff := Run.ofExecute rfl
  have hquiet : Quiet shipToken inOrderHandedOff := ⟨by decide, by decide⟩
  exact ⟨emptyOutbox_started, rfl, hquiet,
    handedOff_of_run emptyOutbox_started hrun rfl hquiet⟩

/-- The first transaction draws its event id first and commits after the promotion. -/
def lateCommitHandoff : List HandoffEvent :=
  [.insert 1 "ship.confirmed" 1 "a", .insert 2 "ship.confirmed" 1 "b", .commit 2,
    .tick (seconds 3), .promote, .commit 1, .tick (seconds 3), .poll 10]

/-- The system after that run, whatever the order. -/
def lateCommitHandedOff : Handoff :=
  (execute (step shipToken) (fun _ _ => True) emptyOutbox lateCommitHandoff).getD emptyOutbox

/-- The change of the late transaction is neither in the snapshot nor ever returned. -/
theorem handoff_losesLateCommit :
    Started emptyOutbox ∧
      Run (step shipToken) (fun _ _ => True) emptyOutbox lateCommitHandoff
        lateCommitHandedOff ∧
      lateCommitHandedOff.exported.isSome ∧ Quiet shipToken lateCommitHandedOff ∧
      ¬ ∀ entry ∈ lateCommitHandedOff.log.entries, shipToken.inScope entry.2 = true →
        lateCommitHandedOff.covers entry :=
  ⟨emptyOutbox_started, Run.ofExecute rfl, rfl, ⟨by decide, by decide⟩, by decide⟩

end SentryWms.Snapshot
