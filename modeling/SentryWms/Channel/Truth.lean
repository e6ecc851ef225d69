import SentryWms.Channel.Availability

/-!
# A quiet channel tells the truth about what it lists

A clean row holds the quantity that the sink accepted last: a version decides its quantity,
a version is written back only after the sink has accepted it, and every change of the
quantity takes a version that was never claimed. A sweep that finds nothing to change says
that the rows of the listed items hold their sellable quantities. What a channel no longer
lists is out of reach of both.
-/

namespace SentryWms.Channel

open Relational Transition

/-! ## The property -/

def ChannelState.lists (state : ChannelState) (itemId : ℕ) : Bool :=
  (state.items.get? itemId).any fun item =>
    item.isActive && state.inScope state.skuScope itemId item

/-- A full sweep finds nothing to change, and no row is dirty or in the DLQ. -/
structure Quiet (state : ChannelState) : Prop where
  swept : (state.recomputeChannel state.skuScope none).2 = 0
  delivered : ∀ entry ∈ state.rows, entry.2.isDirty = false ∧ entry.2.dlq = false

/-- A channel before its first sweep. -/
structure Fresh (state : ChannelState) : Prop where
  rows : state.rows = []
  publisher : state.publisher = .idle
  nextVersion : 0 < state.nextVersion

def ChannelState.truth (state : ChannelState) (itemId : ℕ) : ℤ :=
  if state.lists itemId then state.sellable state.skuScope itemId else 0

/-! ## The invariant -/

structure Agrees (claimed : ClaimedRow) (row : AvailabilityRow) : Prop where
  le : claimed.currentVersion ≤ row.currentVersion
  same : row.currentVersion = claimed.currentVersion →
    row.availableQty = claimed.availableQty

structure Rows (state : ChannelState) : Prop where
  keyed : (state.rows.map Prod.fst).Nodup
  versions : ∀ entry ∈ state.rows,
    entry.2.lastVersion ≤ entry.2.currentVersion ∧ entry.2.currentVersion < state.nextVersion
  clean : ∀ entry ∈ state.rows, entry.2.isDirty = false →
    state.sink.lookup entry.1 = some entry.2.availableQty

/-- The three places agree as far as the versions say. -/
structure Synced (state : ChannelState) : Prop extends Rows state where
  positive : 0 < state.nextVersion
  distinct : (state.publisher.rows.map ClaimedRow.itemId).Nodup
  older : ∀ claimed ∈ state.publisher.rows, claimed.currentVersion < state.nextVersion
  agrees : ∀ claimed ∈ state.publisher.rows, ∀ row, (claimed.itemId, row) ∈ state.rows →
    Agrees claimed row ∧ row.isDirty = true
  delivered : ∀ rows, state.publisher = .answered rows true →
    ∀ claimed ∈ rows, state.sink.lookup claimed.itemId = some claimed.availableQty

variable {state after : ChannelState} {rows : List (ℕ × AvailabilityRow)}

/-! ## Rows -/

theorem mem_setRow {itemId : ℕ} {change : AvailabilityRow → AvailabilityRow}
    {entry : ℕ × AvailabilityRow} :
    entry ∈ setRow rows itemId change ↔
      ∃ before, (entry.1, before) ∈ rows ∧
        entry.2 = if entry.1 = itemId then change before else before := by
  rw [setRow, List.mem_map]
  constructor
  · rintro ⟨before, hbefore, rfl⟩
    by_cases hitem : before.1 = itemId
    · rw [if_pos hitem]
      exact ⟨before.2, hbefore, (if_pos hitem).symm⟩
    · rw [if_neg hitem]
      exact ⟨before.2, hbefore, (if_neg hitem).symm⟩
  · rintro ⟨before, hbefore, hentry⟩
    refine ⟨(entry.1, before), hbefore, ?_⟩
    by_cases hitem : entry.1 = itemId
    · rw [if_pos hitem] at hentry ⊢
      exact Prod.ext rfl hentry.symm
    · rw [if_neg hitem] at hentry ⊢
      exact Prod.ext rfl hentry.symm

theorem setRow_keys (itemId : ℕ) (change : AvailabilityRow → AvailabilityRow) :
    (setRow rows itemId change).map Prod.fst = rows.map Prod.fst := by
  rw [setRow, List.map_map]
  apply List.map_congr_left
  intro entry _
  dsimp only [Function.comp]
  split <;> rfl

theorem row_unique (hkeyed : (rows.map Prod.fst).Nodup) {itemId : ℕ}
    {row row' : AvailabilityRow} (hrow : (itemId, row) ∈ rows) (hrow' : (itemId, row') ∈ rows) :
    row = row' :=
  congrArg Prod.snd (List.inj_on_of_nodup_map hkeyed hrow hrow' rfl)

theorem mem_of_lookup {itemId : ℕ} {row : AvailabilityRow}
    (hlookup : rows.lookup itemId = some row) : (itemId, row) ∈ rows := by
  obtain ⟨before, after, hrows, -⟩ := List.lookup_eq_some_iff.mp hlookup
  rw [hrows]
  exact List.mem_append_right _ List.mem_cons_self

theorem isDirty_eq_false {row : AvailabilityRow} :
    row.isDirty = false ↔ row.currentVersion ≤ row.lastVersion := by
  rw [AvailabilityRow.isDirty, decide_eq_false_iff_not, Nat.not_lt]

theorem isDirty_eq_true {row : AvailabilityRow} :
    row.isDirty = true ↔ row.lastVersion < row.currentVersion := by
  rw [AvailabilityRow.isDirty, decide_eq_true_iff]

/-! ## A sweep -/

/-- A row takes a version that nobody has seen. -/
theorem Synced.upsert (hsynced : Synced state) (change : ℕ × ℤ) :
    Synced (state.upsert change) := by
  rw [ChannelState.upsert]
  split
  · next hlookup =>
      refine ⟨⟨?_, ?_, ?_⟩, Nat.succ_pos _, hsynced.distinct, ?_, ?_, hsynced.delivered⟩
      · rw [List.map_append, List.nodup_append]
        refine ⟨hsynced.keyed, List.nodup_singleton _, ?_⟩
        intro itemId hitemId itemId' hnew hsame
        obtain ⟨entry, hentry, rfl⟩ := List.mem_map.mp hitemId
        rw [List.map_singleton, List.mem_singleton] at hnew
        have hother := List.lookup_eq_none_iff.mp hlookup entry hentry
        rw [hsame, hnew, bne_self_eq_false] at hother
        cases hother
      · intro entry hentry
        dsimp only at hentry ⊢
        rcases List.mem_append.mp hentry with hold | hnew
        · have hversions := hsynced.versions entry hold
          omega
        · rw [List.mem_singleton.mp hnew]
          dsimp only
          omega
      · intro entry hentry hclean
        rcases List.mem_append.mp hentry with hold | hnew
        · exact hsynced.clean entry hold hclean
        · rw [List.mem_singleton.mp hnew, isDirty_eq_false] at hclean
          exact absurd hclean (Nat.not_le.mpr hsynced.positive)
      · intro claimed hclaimed
        exact Nat.lt_succ_of_lt (hsynced.older claimed hclaimed)
      · intro claimed hclaimed row hrow
        have holder := hsynced.older claimed hclaimed
        rcases List.mem_append.mp hrow with hold | hnew
        · exact hsynced.agrees claimed hclaimed row hold
        · have hrow' := congrArg Prod.snd (List.mem_singleton.mp hnew)
          dsimp only at hrow'
          rw [hrow']
          refine ⟨⟨Nat.le_of_lt holder, ?_⟩, isDirty_eq_true.mpr hsynced.positive⟩
          intro hsame
          exact absurd hsame (Nat.ne_of_gt holder)
  · refine ⟨⟨?_, ?_, ?_⟩, Nat.succ_pos _, hsynced.distinct, ?_, ?_, hsynced.delivered⟩
    · dsimp only
      rw [setRow_keys]
      exact hsynced.keyed
    · intro entry hentry
      dsimp only at hentry
      obtain ⟨before, hbefore, hafter⟩ := mem_setRow.mp hentry
      have hversions := hsynced.versions _ hbefore
      dsimp only at hversions ⊢
      rw [hafter]
      split
      · dsimp only [AvailabilityRow.bump]
        omega
      · omega
    · intro entry hentry hclean
      dsimp only at hentry
      obtain ⟨before, hbefore, hafter⟩ := mem_setRow.mp hentry
      have hversions := hsynced.versions _ hbefore
      rw [hafter] at hclean ⊢
      split at hclean
      · rw [isDirty_eq_false] at hclean
        dsimp only [AvailabilityRow.bump] at hclean hversions
        omega
      · next hitem =>
          rw [if_neg hitem]
          exact hsynced.clean _ hbefore hclean
    · intro claimed hclaimed
      have holder := hsynced.older claimed hclaimed
      dsimp only
      omega
    · intro claimed hclaimed row hrow
      dsimp only at hrow
      obtain ⟨before, hbefore, hafter⟩ := mem_setRow.mp hrow
      have holder := hsynced.older claimed hclaimed
      have hversions := hsynced.versions _ hbefore
      dsimp only at hbefore hafter hversions
      rw [hafter]
      split
      · refine ⟨⟨?_, ?_⟩, isDirty_eq_true.mpr ?_⟩
        · dsimp only [AvailabilityRow.bump]
          omega
        · dsimp only [AvailabilityRow.bump]
          omega
        · dsimp only [AvailabilityRow.bump]
          omega
      · exact hsynced.agrees claimed hclaimed before hbefore

theorem Synced.recompute (hsynced : Synced state) (scope : SkuScope)
    (itemIds : Option (List ℕ)) : Synced (state.recomputeChannel scope itemIds).1 :=
  foldl_invariant Synced (fun _ change hsynced => hsynced.upsert change) _ hsynced

theorem Synced.editScope (hsynced : Synced state) (scope : SkuScope) :
    Synced (state.editScope scope) := by
  rw [ChannelState.editScope]
  split
  · exact hsynced
  · refine Synced.recompute ?_ scope none
    exact ⟨⟨List.nodup_nil, nofun, nofun⟩, hsynced.positive, hsynced.distinct, hsynced.older,
      nofun, hsynced.delivered⟩

/-! ## A claim -/

theorem mem_claimDirty {claimed : ClaimedRow} (hclaimed : claimed ∈ state.claimDirty) :
    ∃ row, (claimed.itemId, row) ∈ state.rows ∧ row.isDirty = true ∧
      row.currentVersion = claimed.currentVersion ∧
      row.availableQty = claimed.availableQty ∧
      row.attemptCount = claimed.attemptCount := by
  obtain ⟨entry, hentry, rfl⟩ := List.mem_map.mp hclaimed
  have hordered := mem_orderBy.mp (List.mem_of_mem_take hentry)
  obtain ⟨hrow, hcond⟩ := List.mem_filter.mp hordered
  simp only [Bool.and_eq_true] at hcond
  exact ⟨entry.2, hrow, hcond.1.1.2, rfl, rfl, rfl⟩

theorem claimDirty_distinct (hkeyed : (state.rows.map Prod.fst).Nodup) :
    (state.claimDirty.map ClaimedRow.itemId).Nodup := by
  rw [ChannelState.claimDirty, List.map_map]
  have hordered := (orderBy_perm (fun entry : ℕ × AvailabilityRow => entry.2.currentVersion)
    (state.rows.filter fun entry =>
      (state.items.get? entry.1).isSome && entry.2.isDirty && !entry.2.dlq &&
        entry.2.nextAttemptAt.all fun nextAttemptAt =>
          decide (nextAttemptAt ≤ state.now))).map Prod.fst
  refine List.Nodup.sublist ((List.take_sublist _ _).map _) (hordered.nodup_iff.mpr ?_)
  exact hkeyed.sublist (List.filter_sublist.map _)

theorem Synced.claim (hsynced : Synced state) :
    Synced { state with publisher := .claimed state.claimDirty } where
  toRows := ⟨hsynced.keyed, hsynced.versions, hsynced.clean⟩
  positive := hsynced.positive
  distinct := claimDirty_distinct hsynced.keyed
  older := by
    intro claimed hclaimed
    obtain ⟨row, hrow, -, hversion, -⟩ := mem_claimDirty hclaimed
    rw [← hversion]
    exact (hsynced.versions _ hrow).2
  agrees := by
    intro claimed hclaimed row hrow
    obtain ⟨row', hrow', hdirty, hversion, hqty, -⟩ := mem_claimDirty hclaimed
    rw [row_unique hsynced.keyed hrow hrow']
    exact ⟨⟨Nat.le_of_eq hversion.symm, fun _ => hqty⟩, hdirty⟩
  delivered := nofun

/-! ## A POST -/

theorem lookup_receive_other (answer : SinkAnswer) (claims : List ClaimedRow) {itemId : ℕ}
    (hother : itemId ∉ claims.map ClaimedRow.itemId) (sink : List (ℕ × ℤ)) :
    (receive sink claims answer).lookup itemId = sink.lookup itemId := by
  rw [receive]
  induction claims generalizing sink with
  | nil => rfl
  | cons claimed rest ih =>
      rw [List.map_cons, List.mem_cons, not_or] at hother
      rw [List.foldl_cons, ih hother.2]
      split
      · rw [List.lookup_cons, beq_eq_false_iff_ne.mpr hother.1]
      · rfl

theorem lookup_receive (claims : List ClaimedRow)
    (hdistinct : (claims.map ClaimedRow.itemId).Nodup) {claimed : ClaimedRow}
    (hclaimed : claimed ∈ claims) (sink : List (ℕ × ℤ)) :
    (receive sink claims .accepts).lookup claimed.itemId = some claimed.availableQty := by
  induction claims generalizing sink with
  | nil => cases hclaimed
  | cons first rest ih =>
      rw [List.map_cons, List.nodup_cons] at hdistinct
      have hreceive : receive sink (first :: rest) .accepts =
          receive ((first.itemId, first.availableQty) :: sink) rest .accepts := rfl
      rw [hreceive]
      rcases List.mem_cons.mp hclaimed with rfl | hrest
      · rw [lookup_receive_other _ _ hdistinct.1, List.lookup_cons, beq_self_eq_true]
      · exact ih hdistinct.2 hrest _

theorem Synced.post (hsynced : Synced state) {claims : List ClaimedRow}
    (hpublisher : state.publisher = .claimed claims) (answer : SinkAnswer) :
    Synced { state with
      publisher := .answered claims answer.published
      sink := receive state.sink claims answer } := by
  have hrows : state.publisher.rows = claims := by
    rw [hpublisher]
    rfl
  refine ⟨⟨hsynced.keyed, hsynced.versions, ?_⟩, hsynced.positive, ?_, ?_, ?_, ?_⟩
  · intro entry hentry hclean
    dsimp only
    rw [lookup_receive_other]
    · exact hsynced.clean entry hentry hclean
    · intro hmem
      obtain ⟨claimed, hclaimed, hitem⟩ := List.mem_map.mp hmem
      have hentry' : (claimed.itemId, entry.2) ∈ state.rows := by
        rw [hitem]
        exact hentry
      have hdirty := (hsynced.agrees claimed (hrows ▸ hclaimed) entry.2 hentry').2
      rw [hclean] at hdirty
      cases hdirty
  · exact hrows ▸ hsynced.distinct
  · exact hrows ▸ hsynced.older
  · exact hrows ▸ hsynced.agrees
  · intro claims' hanswered claimed hclaimed
    cases answer with
    | fails accepted => cases hanswered
    | accepts =>
        cases hanswered
        exact lookup_receive claims (hrows ▸ hsynced.distinct) hclaimed _

/-! ## How the POST went -/

theorem publish_keeps (version : ℕ) (row : AvailabilityRow) :
    (row.publish version).currentVersion = row.currentVersion ∧
      (row.publish version).availableQty = row.availableQty :=
  ⟨rfl, rfl⟩

theorem fail_keeps (attemptCount now : ℕ) (row : AvailabilityRow) :
    (row.fail attemptCount now).currentVersion = row.currentVersion ∧
      (row.fail attemptCount now).availableQty = row.availableQty := by
  rw [AvailabilityRow.fail]
  split <;> exact ⟨rfl, rfl⟩

theorem fail_lastVersion (attemptCount now : ℕ) (row : AvailabilityRow) :
    (row.fail attemptCount now).lastVersion = row.lastVersion := by
  rw [AvailabilityRow.fail]
  split <;> rfl

theorem Rows.settle (hrows : Rows state) {claimed : ClaimedRow}
    {change : AvailabilityRow → AvailabilityRow}
    (hkeeps : ∀ row, (change row).currentVersion = row.currentVersion ∧
      (change row).availableQty = row.availableQty)
    (hlast : ∀ row, (claimed.itemId, row) ∈ state.rows →
      (change row).lastVersion = row.lastVersion ∨
        (change row).lastVersion = claimed.currentVersion ∧ Agrees claimed row ∧
          state.sink.lookup claimed.itemId = some claimed.availableQty) :
    Rows { state with rows := setRow state.rows claimed.itemId change } where
  keyed := by
    dsimp only
    rw [setRow_keys]
    exact hrows.keyed
  versions := by
    intro entry hentry
    obtain ⟨before, hbefore, hafter⟩ := mem_setRow.mp hentry
    have hversions := hrows.versions _ hbefore
    rw [hafter]
    split
    · next hitem =>
        rw [(hkeeps before).1]
        rcases hlast before (hitem ▸ hbefore) with hsame | ⟨hpublished, hagrees, -⟩
        · rw [hsame]
          exact hversions
        · rw [hpublished]
          exact ⟨hagrees.le, hversions.2⟩
    · exact hversions
  clean := by
    intro entry hentry hclean
    obtain ⟨before, hbefore, hafter⟩ := mem_setRow.mp hentry
    rw [hafter] at hclean ⊢
    split at hclean
    · next hitem =>
        rw [if_pos hitem, (hkeeps before).2]
        rw [isDirty_eq_false, (hkeeps before).1] at hclean
        rcases hlast before (hitem ▸ hbefore) with hsame | ⟨hpublished, hagrees, hsink⟩
        · rw [hsame] at hclean
          exact hrows.clean _ hbefore (isDirty_eq_false.mpr hclean)
        · rw [hpublished] at hclean
          dsimp only
          rw [hitem, hsink, hagrees.same (Nat.le_antisymm hclean hagrees.le)]
    · next hitem =>
        rw [if_neg hitem]
        exact hrows.clean _ hbefore hclean

theorem agrees_setRow {itemId : ℕ} {change : AvailabilityRow → AvailabilityRow}
    (hkeeps : ∀ row, (change row).currentVersion = row.currentVersion ∧
      (change row).availableQty = row.availableQty) {claimed : ClaimedRow}
    (hagrees : ∀ row, (claimed.itemId, row) ∈ rows → Agrees claimed row) :
    ∀ row, (claimed.itemId, row) ∈ setRow rows itemId change → Agrees claimed row := by
  intro row hrow
  obtain ⟨before, hbefore, hafter⟩ := mem_setRow.mp hrow
  have hbefore' := hagrees before hbefore
  dsimp only at hafter
  rw [hafter]
  split
  · refine ⟨?_, ?_⟩
    · rw [(hkeeps before).1]
      exact hbefore'.le
    · rw [(hkeeps before).1, (hkeeps before).2]
      exact hbefore'.same
  · exact hbefore'

theorem Rows.markPublished {claims : List ClaimedRow} (hrows : Rows state)
    (hagrees : ∀ claimed ∈ claims, ∀ row, (claimed.itemId, row) ∈ state.rows →
      Agrees claimed row)
    (hdelivered : ∀ claimed ∈ claims,
      state.sink.lookup claimed.itemId = some claimed.availableQty) :
    Rows (state.markPublished claims) := by
  rw [ChannelState.markPublished]
  induction claims generalizing state with
  | nil => exact hrows
  | cons claimed rest ih =>
      rw [List.foldl_cons]
      have hhead := hdelivered claimed List.mem_cons_self
      refine ih (hrows.settle (publish_keeps claimed.currentVersion) ?_) ?_ ?_
      · intro row hrow
        exact .inr ⟨rfl, hagrees claimed List.mem_cons_self row hrow, hhead⟩
      · intro claimed' hclaimed'
        exact agrees_setRow (publish_keeps claimed.currentVersion)
          (hagrees claimed' (List.mem_cons_of_mem _ hclaimed'))
      · intro claimed' hclaimed'
        exact hdelivered claimed' (List.mem_cons_of_mem _ hclaimed')

theorem Rows.markFailed (claims : List ClaimedRow) (hrows : Rows state) :
    Rows (state.markFailed claims) :=
  foldl_invariant Rows (fun state claimed hrows =>
    hrows.settle (fail_keeps (claimed.attemptCount + 1) state.now)
      fun row _ => .inl (fail_lastVersion (claimed.attemptCount + 1) state.now row)) claims hrows

theorem markPublished_sameVersion (claims : List ClaimedRow) :
    (state.markPublished claims).nextVersion = state.nextVersion := by
  rw [ChannelState.markPublished]
  induction claims generalizing state with
  | nil => rfl
  | cons claimed rest ih => exact ih

theorem markFailed_sameVersion (claims : List ClaimedRow) :
    (state.markFailed claims).nextVersion = state.nextVersion := by
  rw [ChannelState.markFailed]
  induction claims generalizing state with
  | nil => rfl
  | cons claimed rest ih => exact ih

/-- Between cycles nothing is claimed. -/
theorem Rows.idle (hrows : Rows state) (hpositive : 0 < state.nextVersion) :
    Synced { state with publisher := .idle } :=
  ⟨⟨hrows.keyed, hrows.versions, hrows.clean⟩, hpositive, List.nodup_nil, nofun, nofun, nofun⟩

theorem Synced.settle (hsynced : Synced state) {claims : List ClaimedRow} {published : Bool}
    (hpublisher : state.publisher = .answered claims published) :
    Synced { (if published then state.markPublished claims else state.markFailed claims) with
      publisher := .idle } := by
  have hclaims : state.publisher.rows = claims := by
    rw [hpublisher]
    rfl
  cases published with
  | true =>
      refine Rows.idle (hsynced.toRows.markPublished ?_ (hsynced.delivered claims hpublisher)) ?_
      · intro claimed hclaimed row hrow
        exact (hsynced.agrees claimed (hclaims ▸ hclaimed) row hrow).1
      · rw [if_pos rfl, markPublished_sameVersion]
        exact hsynced.positive
  | false =>
      refine Rows.idle (hsynced.toRows.markFailed claims) ?_
      rw [if_neg Bool.false_ne_true, markFailed_sameVersion]
      exact hsynced.positive

/-! ## Runs -/

theorem channelStep_synced {act : ChannelAct} (hsynced : Synced state)
    (hstep : channelStep state act = some after) : Synced after := by
  cases act with
  | changeStock inventory bins =>
      cases hstep
      exact ⟨⟨hsynced.keyed, hsynced.versions, hsynced.clean⟩, hsynced.positive,
        hsynced.distinct, hsynced.older, hsynced.agrees, hsynced.delivered⟩
  | setActive itemId active =>
      cases hstep
      exact ⟨⟨hsynced.keyed, hsynced.versions, hsynced.clean⟩, hsynced.positive,
        hsynced.distinct, hsynced.older, hsynced.agrees, hsynced.delivered⟩
  | wait seconds =>
      cases hstep
      exact ⟨⟨hsynced.keyed, hsynced.versions, hsynced.clean⟩, hsynced.positive,
        hsynced.distinct, hsynced.older, hsynced.agrees, hsynced.delivered⟩
  | otherChannel =>
      cases hstep
      refine ⟨⟨hsynced.keyed, ?_, hsynced.clean⟩, Nat.succ_pos _, hsynced.distinct, ?_,
        hsynced.agrees, hsynced.delivered⟩
      · intro entry hentry
        exact ⟨(hsynced.versions entry hentry).1,
          Nat.lt_succ_of_lt (hsynced.versions entry hentry).2⟩
      · intro claimed hclaimed
        exact Nat.lt_succ_of_lt (hsynced.older claimed hclaimed)
  | editScope scope =>
      cases hstep
      exact hsynced.editScope scope
  | recompute scope itemIds =>
      cases hstep
      exact hsynced.recompute scope itemIds
  | crash =>
      cases hstep
      exact hsynced.toRows.idle hsynced.positive
  | claim urlSafe =>
      rw [channelStep] at hstep
      split at hstep
      · split at hstep
        · cases hstep
          exact hsynced
        · split at hstep
          · cases hstep
            exact hsynced.claim
          · cases hstep
            exact ⟨⟨hsynced.keyed, hsynced.versions, hsynced.clean⟩, hsynced.positive,
              hsynced.distinct, hsynced.older, hsynced.agrees, hsynced.delivered⟩
      · cases hstep
  | post answer =>
      rw [channelStep] at hstep
      split at hstep
      · next claims hpublisher =>
          cases hstep
          exact hsynced.post hpublisher answer
      · cases hstep
  | settle =>
      rw [channelStep] at hstep
      split at hstep
      · next claims published hpublisher =>
          cases hstep
          exact hsynced.settle hpublisher
      · cases hstep

theorem Fresh.synced (hfresh : Fresh state) : Synced state := by
  obtain ⟨hrows, hpublisher, hpositive⟩ := hfresh
  refine ⟨⟨?_, ?_, ?_⟩, hpositive, ?_, ?_, ?_, ?_⟩
  · rw [hrows]
    exact List.nodup_nil
  · rw [hrows]
    nofun
  · rw [hrows]
    nofun
  · rw [hpublisher]
    exact List.nodup_nil
  · rw [hpublisher]
    nofun
  · rw [hpublisher]
    nofun
  · rw [hpublisher]
    nofun

theorem Quiet.row (hquiet : Quiet state) {itemId : ℕ} (hlists : state.lists itemId = true) :
    ∃ row, (itemId, row) ∈ state.rows ∧
      row.availableQty = state.sellable state.skuScope itemId := by
  obtain ⟨item, hitem, hcond⟩ := (Option.any_eq_true _ _).mp hlists
  have hcomputed : (itemId, state.sellable state.skuScope itemId) ∈
      state.computed state.skuScope none := by
    refine List.mem_map.mpr ⟨(itemId, item), List.mem_filter.mpr ⟨?_, ?_⟩, rfl⟩
    · exact state.items.get?_eq_some.mp hitem
    · rw [hcond]
      rfl
  have hnone := List.filter_eq_nil_iff.mp (List.length_eq_zero_iff.mp hquiet.swept) _ hcomputed
  dsimp only at hnone
  cases hlookup : state.rows.lookup itemId with
  | none =>
      rw [hlookup] at hnone
      exact absurd rfl hnone
  | some row =>
      rw [hlookup, Option.all_some, bne_iff_ne, not_not] at hnone
      exact ⟨row, mem_of_lookup hlookup, hnone⟩

/-- In every run of stock changes, activations, scope edits, sweeps and publish cycles, a
channel that is quiet has told its sink the sellable quantity of every item it lists. -/
theorem tellsTruth_of_run (hfresh : Fresh state) {acts : List ChannelAct}
    (hrun : Run channelStep (fun _ _ => True) state acts after) (hquiet : Quiet after)
    {itemId : ℕ} (hlists : after.lists itemId = true) :
    after.sink.lookup itemId = some (after.sellable after.skuScope itemId) := by
  have hsynced : Synced after :=
    hrun.invariant Synced (fun hsynced _ hstep => channelStep_synced hsynced hstep)
      hfresh.synced
  obtain ⟨row, hrow, hqty⟩ := hquiet.row hlists
  rw [← hqty]
  exact hsynced.clean _ hrow (hquiet.delivered _ hrow).1

/-! ## An item that is sent and then withdrawn -/

def fiveUnits : ChannelState where
  items := .ofRows [{ sku := "SKU-1", upc := none, barcodeAliases := [] }]
  category := []
  bins := .ofRows [{ warehouseId := 1, binCode := "A-1", binType := .pickable, pickSequence := 1 }]
  inventory := .ofRows [⟨1, 1, 1, 5, 0, none, 0⟩]
  skuScope := {}
  batchSize := 100
  pauseReason := none
  rows := []
  nextVersion := 1
  now := 0
  publisher := .idle
  sink := []

def twoPromised : Table Inventory :=
  .ofRows [⟨1, 1, 1, 5, 2, none, 0⟩]

def otherItems : SkuScope where
  skus := some ["SKU-2"]

def cycle (answer : SinkAnswer) : List ChannelAct :=
  [.claim true, .post answer, .settle]

/-- A POST that the sink takes and does not answer, its retry after units were promised in
between, and a sweep. -/
def soldInBetween : List ChannelAct :=
  .recompute {} none :: cycle (.fails [1]) ++
    [.changeStock twoPromised fiveUnits.bins, .recompute {} none, .wait 30] ++
      cycle .accepts ++ [.recompute {} none]

/-- The item is published, and then deactivated. -/
def deactivated : List ChannelAct :=
  .recompute {} none :: cycle .accepts ++ [.setActive 1 false, .recompute {} none]

def descoped : List ChannelAct :=
  .recompute {} none :: cycle .accepts ++ [.editScope otherItems, .recompute otherItems none]

def endOf (acts : List ChannelAct) : ChannelState :=
  (execute channelStep (fun _ _ => True) fiveUnits acts).getD fiveUnits

theorem fiveUnits_fresh : Fresh fiveUnits :=
  ⟨rfl, rfl, Nat.one_pos⟩

theorem tellsTruth_soldInBetween :
    (endOf soldInBetween).sink.lookup 1 = some 3 := by
  have hquiet : Quiet (endOf soldInBetween) := ⟨rfl, by decide⟩
  have hrun : Run channelStep (fun _ _ => True) fiveUnits soldInBetween (endOf soldInBetween) :=
    Run.ofExecute rfl
  exact tellsTruth_of_run fiveUnits_fresh hrun hquiet rfl

/-- Either way the channel is quiet, lists the item no longer, and its sink still has the
five units. -/
theorem sink_keeps_withdrawn_item :
    Run channelStep (fun _ _ => True) fiveUnits deactivated (endOf deactivated) ∧
      Quiet (endOf deactivated) ∧ (endOf deactivated).truth 1 = 0 ∧
      (endOf deactivated).sink.lookup 1 = some 5 ∧
    Run channelStep (fun _ _ => True) fiveUnits descoped (endOf descoped) ∧
      Quiet (endOf descoped) ∧ (endOf descoped).truth 1 = 0 ∧
      (endOf descoped).sink.lookup 1 = some 5 :=
  ⟨Run.ofExecute rfl, ⟨rfl, by decide⟩, rfl, rfl, Run.ofExecute rfl, ⟨rfl, by decide⟩, rfl, rfl⟩

end SentryWms.Channel
