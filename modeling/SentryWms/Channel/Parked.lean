import SentryWms.Channel.Truth

/-!
# A fresh quantity and an older publish

A publish cycle reads its rows without a lock and writes back by item. A success writes the
version that it sent, so a row that was bumped meanwhile stays dirty. A failure writes the
attempt count that it read, whatever the row has become since.
-/

namespace SentryWms.Channel

open Relational Transition

/-! ## The property -/

/-- A channel beside the rows of the last claim and the versions that were posted, each with
its item. -/
structure Watched where
  channel : ChannelState
  claims : List ClaimedRow
  sent : List (ℕ × ℕ)

/-- A channel whose rows have not been claimed yet. -/
def ChannelState.watch (state : ChannelState) : Watched :=
  ⟨state, [], []⟩

def Publisher.claims (publisher : Publisher) (before : List ClaimedRow) : List ClaimedRow :=
  match publisher with
  | .claimed rows => rows
  | _ => before

/-- What a batch sends. -/
def versions (rows : List ClaimedRow) : List (ℕ × ℕ) :=
  rows.map fun claimed => (claimed.itemId, claimed.currentVersion)

def watchedStep (watched : Watched) (act : ChannelAct) : Option Watched :=
  (channelStep watched.channel act).map fun after =>
    match act with
    | .claim _ => ⟨after, after.publisher.claims watched.claims, watched.sent⟩
    | .post _ => ⟨after, watched.claims, versions after.publisher.rows ++ watched.sent⟩
    | _ => ⟨after, watched.claims, watched.sent⟩

def Watched.attempts (watched : Watched) (itemId currentVersion : ℕ) : ℕ :=
  watched.sent.count (itemId, currentVersion)

/-- A row that was bumped after the last claim is dirty and not in the DLQ, an attempt count
counts only attempts that sent the version of its row, and no row is ahead of itself. -/
structure NeverParked (watched : Watched) : Prop where
  bumped : ∀ claimed ∈ watched.claims, ∀ row, (claimed.itemId, row) ∈ watched.channel.rows →
    claimed.currentVersion < row.currentVersion → row.isDirty = true ∧ row.dlq = false
  counted : ∀ entry ∈ watched.channel.rows,
    entry.2.attemptCount ≤ watched.attempts entry.1 entry.2.currentVersion
  bounded : ∀ entry ∈ watched.channel.rows, entry.2.lastVersion ≤ entry.2.currentVersion

def Publisher.failed : Publisher → List ClaimedRow
  | .answered rows false => rows
  | _ => []

/-- The rows of a failed POST are at the versions that it sent. -/
def Watched.unbumped (watched : Watched) : Prop :=
  ∀ claimed ∈ watched.channel.publisher.failed, ∀ entry ∈ watched.channel.rows,
    entry.1 = claimed.itemId → entry.2.currentVersion = claimed.currentVersion

instance (watched : Watched) : Decidable watched.unbumped :=
  inferInstanceAs (Decidable (∀ claimed ∈ watched.channel.publisher.failed,
    ∀ entry ∈ watched.channel.rows, entry.1 = claimed.itemId →
      entry.2.currentVersion = claimed.currentVersion))

/-- The act writes down how a POST went. -/
def ChannelAct.settles : ChannelAct → Bool
  | .settle => true
  | _ => false

def ChannelAct.editsScope : ChannelAct → Bool
  | .editScope _ => true
  | _ => false

/-- A failure is written down only of rows that were not bumped after the claim. -/
def SettlesUnbumped (watched : Watched) (act : ChannelAct) : Prop :=
  act.settles = true → watched.unbumped

instance (watched : Watched) (act : ChannelAct) : Decidable (SettlesUnbumped watched act) :=
  inferInstanceAs (Decidable (act.settles = true → watched.unbumped))

/-- The same, among recomputes and publishes: the rows are not dropped. -/
def Interleaves (watched : Watched) (act : ChannelAct) : Prop :=
  SettlesUnbumped watched act ∧ act.editsScope = false

instance (watched : Watched) (act : ChannelAct) : Decidable (Interleaves watched act) :=
  inferInstanceAs (Decidable (SettlesUnbumped watched act ∧ act.editsScope = false))

/-! ## The invariant -/

/-- What the claims and the POSTs so far say of a row. -/
structure RowTally (claims : List ClaimedRow) (sent : List (ℕ × ℕ)) (itemId : ℕ)
    (row : AvailabilityRow) : Prop where
  counted : row.attemptCount ≤ sent.count (itemId, row.currentVersion)
  bounded : row.lastVersion ≤ row.currentVersion
  behind : ∀ claimed ∈ claims, claimed.itemId = itemId →
    row.lastVersion ≤ claimed.currentVersion ∧ claimed.currentVersion ≤ row.currentVersion
  unparked : ∀ claimed ∈ claims, claimed.itemId = itemId →
    claimed.currentVersion < row.currentVersion → row.dlq = false

/-- What holds in every run whose failures are written down of unbumped rows only. -/
structure Tallied (watched : Watched) : Prop where
  synced : Synced watched.channel
  rows : ∀ entry ∈ watched.channel.rows,
    RowTally watched.claims watched.sent entry.1 entry.2
  distinct : (watched.claims.map ClaimedRow.itemId).Nodup
  older : ∀ claimed ∈ watched.claims, claimed.currentVersion < watched.channel.nextVersion
  latest : ∀ claimed ∈ watched.channel.publisher.rows, claimed ∈ watched.claims
  read : ∀ claimed ∈ watched.channel.publisher.rows,
    claimed.attemptCount ≤ watched.attempts claimed.itemId claimed.currentVersion
  posted : ∀ claims published, watched.channel.publisher = .answered claims published →
    ∀ claimed ∈ claims,
      claimed.attemptCount + 1 ≤ watched.attempts claimed.itemId claimed.currentVersion

variable {state after : ChannelState} {watched next : Watched}
  {claims : List ClaimedRow} {sent : List (ℕ × ℕ)} {itemId : ℕ} {row : AvailabilityRow}

theorem Tallied.neverParked (htallied : Tallied watched) : NeverParked watched where
  bumped := by
    intro claimed hclaimed row hrow hbumped
    have htally := htallied.rows _ hrow
    have hbehind := (htally.behind claimed hclaimed rfl).1
    constructor
    · exact isDirty_eq_true.mpr (Nat.lt_of_le_of_lt hbehind hbumped)
    · exact htally.unparked claimed hclaimed rfl hbumped
  counted := fun entry hentry => (htallied.rows entry hentry).counted
  bounded := fun entry hentry => (htallied.rows entry hentry).bounded

theorem RowTally.sent_mono (htally : RowTally claims sent itemId row) (more : List (ℕ × ℕ)) :
    RowTally claims (more ++ sent) itemId row where
  counted := by
    rw [List.count_append]
    exact Nat.le_add_left_of_le htally.counted
  bounded := htally.bounded
  behind := htally.behind
  unparked := htally.unparked

/-! ## A recompute -/

theorem RowTally.bump (htally : RowTally claims sent itemId row) {currentVersion : ℕ}
    (hnew : ∀ claimed ∈ claims, claimed.currentVersion < currentVersion)
    (hlast : row.lastVersion ≤ currentVersion) (availableQty : ℤ) :
    RowTally claims sent itemId (row.bump availableQty currentVersion) where
  counted := Nat.zero_le _
  bounded := hlast
  behind := by
    intro claimed hclaimed hitem
    exact ⟨(htally.behind claimed hclaimed hitem).1, Nat.le_of_lt (hnew claimed hclaimed)⟩
  unparked := fun _ _ _ _ => rfl

theorem RowTally.insert {currentVersion : ℕ}
    (hnew : ∀ claimed ∈ claims, claimed.currentVersion < currentVersion)
    (sent : List (ℕ × ℕ)) (itemId : ℕ) (availableQty : ℤ) :
    RowTally claims sent itemId ⟨availableQty, currentVersion, 0, 0, none, false⟩ where
  counted := Nat.zero_le _
  bounded := Nat.zero_le _
  behind := fun claimed hclaimed _ => ⟨Nat.zero_le _, Nat.le_of_lt (hnew claimed hclaimed)⟩
  unparked := fun _ _ _ _ => rfl

/-- The part of the invariant that a recompute works on. -/
structure RowsTallied (claims : List ClaimedRow) (sent : List (ℕ × ℕ)) (state : ChannelState) :
    Prop where
  rows : ∀ entry ∈ state.rows, RowTally claims sent entry.1 entry.2
  older : ∀ claimed ∈ claims, claimed.currentVersion < state.nextVersion
  versions : ∀ entry ∈ state.rows, entry.2.currentVersion < state.nextVersion

theorem Tallied.rowsTallied (htallied : Tallied watched) :
    RowsTallied watched.claims watched.sent watched.channel :=
  ⟨htallied.rows, htallied.older, fun entry hentry =>
    (htallied.synced.versions entry hentry).2⟩

theorem RowsTallied.upsert (htallied : RowsTallied claims sent state) (change : ℕ × ℤ) :
    RowsTallied claims sent (state.upsert change) := by
  have hlater : ∀ claimed ∈ claims, claimed.currentVersion < state.nextVersion + 1 := by
    intro claimed hclaimed
    exact Nat.lt_succ_of_lt (htallied.older claimed hclaimed)
  rw [ChannelState.upsert]
  split
  · refine ⟨?_, hlater, ?_⟩
    · intro entry hentry
      rcases List.mem_append.mp hentry with hold | hnew
      · exact htallied.rows entry hold
      · rw [List.mem_singleton.mp hnew]
        exact RowTally.insert htallied.older sent _ _
    · intro entry hentry
      rcases List.mem_append.mp hentry with hold | hnew
      · exact Nat.lt_succ_of_lt (htallied.versions entry hold)
      · rw [List.mem_singleton.mp hnew]
        exact Nat.lt_succ_self _
  · refine ⟨?_, fun claimed hclaimed => Nat.lt_succ_of_lt (hlater claimed hclaimed), ?_⟩
    · intro entry hentry
      obtain ⟨before, hbefore, hafter⟩ := mem_setRow.mp hentry
      have htally := htallied.rows _ hbefore
      have hversion := htallied.versions _ hbefore
      rw [hafter]
      split
      · refine htally.bump hlater ?_ change.2
        exact Nat.le_succ_of_le (htally.bounded.trans (Nat.le_of_lt hversion))
      · exact htally
    · intro entry hentry
      obtain ⟨before, hbefore, hafter⟩ := mem_setRow.mp hentry
      have hversion := htallied.versions _ hbefore
      rw [hafter]
      split
      · exact Nat.lt_succ_self _
      · exact Nat.lt_succ_of_lt (Nat.lt_succ_of_lt hversion)

theorem upsert_publisher (state : ChannelState) (change : ℕ × ℤ) :
    (state.upsert change).publisher = state.publisher := by
  rw [ChannelState.upsert]
  split <;> rfl

theorem recompute_publisher (state : ChannelState) (scope : SkuScope)
    (itemIds : Option (List ℕ)) :
    (state.recomputeChannel scope itemIds).1.publisher = state.publisher :=
  foldl_invariant (fun result => result.publisher = state.publisher)
    (fun result change hsame => (upsert_publisher result change).trans hsame) _ rfl

theorem Tallied.rewrite (htallied : Tallied watched) (hsynced : Synced after)
    (hrows : RowsTallied watched.claims watched.sent after)
    (hpublisher : after.publisher = watched.channel.publisher) :
    Tallied ⟨after, watched.claims, watched.sent⟩ where
  synced := hsynced
  rows := hrows.rows
  distinct := htallied.distinct
  older := hrows.older
  latest := by
    rw [hpublisher]
    exact htallied.latest
  read := by
    rw [hpublisher]
    exact htallied.read
  posted := by
    rw [hpublisher]
    exact htallied.posted

theorem Tallied.recompute (htallied : Tallied watched) (scope : SkuScope)
    (itemIds : Option (List ℕ)) :
    Tallied ⟨(watched.channel.recomputeChannel scope itemIds).1, watched.claims, watched.sent⟩ :=
  htallied.rewrite (htallied.synced.recompute scope itemIds)
    (foldl_invariant (RowsTallied watched.claims watched.sent)
      (fun _ change hrows => hrows.upsert change) _ htallied.rowsTallied)
    (recompute_publisher _ scope itemIds)

theorem Tallied.editScope (htallied : Tallied watched) (scope : SkuScope) :
    Tallied ⟨watched.channel.editScope scope, watched.claims, watched.sent⟩ := by
  have hsynced := htallied.synced.editScope scope
  rw [ChannelState.editScope] at hsynced ⊢
  split at hsynced
  · next hscope =>
      rw [if_pos hscope]
      exact htallied
  · next hscope =>
      rw [if_neg hscope]
      refine htallied.rewrite hsynced (foldl_invariant (RowsTallied watched.claims watched.sent)
        (fun _ change hrows => hrows.upsert change) _ ?_) (recompute_publisher _ scope none)
      exact ⟨by rintro _ ⟨⟩, htallied.older, by rintro _ ⟨⟩⟩

/-! ## A claim and a POST -/

variable {claimed : ClaimedRow}

theorem claimDirty_version (hsynced : Synced state) (hclaimed : claimed ∈ state.claimDirty)
    {entry : ℕ × AvailabilityRow} (hentry : entry ∈ state.rows)
    (hitem : claimed.itemId = entry.1) :
    entry.2.currentVersion = claimed.currentVersion := by
  obtain ⟨row, hrow, -, hversion, -⟩ := mem_claimDirty hclaimed
  rw [hitem] at hrow
  rw [← hversion, row_unique hsynced.keyed hrow hentry]

theorem Tallied.claim (htallied : Tallied watched) :
    Tallied ⟨{ watched.channel with publisher := .claimed watched.channel.claimDirty },
      watched.channel.claimDirty, watched.sent⟩ where
  synced := htallied.synced.claim
  rows := by
    intro entry hentry
    have htally := htallied.rows entry hentry
    refine ⟨htally.counted, htally.bounded, ?_, ?_⟩
    · intro claimed hclaimed hitem
      rw [← claimDirty_version htallied.synced hclaimed hentry hitem]
      exact ⟨htally.bounded, Nat.le_refl _⟩
    · intro claimed hclaimed hitem hbumped
      rw [claimDirty_version htallied.synced hclaimed hentry hitem] at hbumped
      exact absurd hbumped (Nat.lt_irrefl _)
  distinct := claimDirty_distinct htallied.synced.keyed
  older := htallied.synced.claim.older
  latest := fun claimed hclaimed => hclaimed
  read := by
    intro claimed hclaimed
    obtain ⟨row, hrow, -, hversion, -, hcount⟩ := mem_claimDirty hclaimed
    rw [← hcount, ← hversion]
    exact (htallied.rows _ hrow).counted
  posted := nofun

variable {claims : List ClaimedRow}

theorem Tallied.post (htallied : Tallied watched)
    (hpublisher : watched.channel.publisher = .claimed claims) (answer : SinkAnswer) :
    Tallied ⟨{ watched.channel with
        publisher := .answered claims answer.published
        sink := receive watched.channel.sink claims answer },
      watched.claims, versions claims ++ watched.sent⟩ := by
  have hclaims : watched.channel.publisher.rows = claims := by
    rw [hpublisher]
    rfl
  have hread := htallied.read
  have hlatest := htallied.latest
  rw [hclaims] at hread hlatest
  have hposted : ∀ claimed ∈ claims, claimed.attemptCount + 1 ≤
      (versions claims ++ watched.sent).count (claimed.itemId, claimed.currentVersion) := by
    intro claimed hclaimed
    have hsent : 0 < (versions claims).count (claimed.itemId, claimed.currentVersion) :=
      List.count_pos_iff.mpr (List.mem_map_of_mem hclaimed)
    have hbefore := hread claimed hclaimed
    rw [Watched.attempts] at hbefore
    rw [List.count_append]
    omega
  refine ⟨htallied.synced.post hpublisher answer, ?_, htallied.distinct, htallied.older,
    hlatest, ?_, ?_⟩
  · intro entry hentry
    exact (htallied.rows entry hentry).sent_mono _
  · intro claimed hclaimed
    exact (Nat.le_succ _).trans (hposted claimed hclaimed)
  · intro claims' published hanswered
    cases hanswered
    exact hposted

/-! ## How the POST went -/

theorem foldl_setRow (Holds : ℕ → AvailabilityRow → Prop)
    {change : ClaimedRow → AvailabilityRow → AvailabilityRow}
    (hchange : ∀ claimed ∈ claims, ∀ row, Holds claimed.itemId row →
      Holds claimed.itemId (change claimed row))
    {rows : List (ℕ × AvailabilityRow)} (hrows : ∀ entry ∈ rows, Holds entry.1 entry.2) :
    ∀ entry ∈ claims.foldl (fun rows claimed =>
      setRow rows claimed.itemId (change claimed)) rows, Holds entry.1 entry.2 := by
  induction claims generalizing rows with
  | nil => exact hrows
  | cons claimed rest ih =>
      refine ih (fun claimed' hclaimed' => hchange claimed' (List.mem_cons_of_mem _ hclaimed')) ?_
      intro entry hentry
      obtain ⟨before, hbefore, hafter⟩ := mem_setRow.mp hentry
      rw [hafter]
      split
      · next hitem =>
          rw [hitem] at hbefore ⊢
          exact hchange claimed List.mem_cons_self before (hrows _ hbefore)
      · exact hrows _ hbefore

theorem markPublished_rows (claims : List ClaimedRow) :
    (state.markPublished claims).rows = claims.foldl (fun rows claimed =>
      setRow rows claimed.itemId (AvailabilityRow.publish claimed.currentVersion)) state.rows := by
  rw [ChannelState.markPublished]
  induction claims generalizing state with
  | nil => rfl
  | cons claimed rest ih => exact ih

theorem markFailed_rows (claims : List ClaimedRow) :
    (state.markFailed claims).rows = claims.foldl (fun rows claimed =>
      setRow rows claimed.itemId
        (AvailabilityRow.fail (claimed.attemptCount + 1) state.now)) state.rows := by
  rw [ChannelState.markFailed]
  induction claims generalizing state with
  | nil => rfl
  | cons claimed rest ih => exact ih

theorem claim_unique (hdistinct : (claims.map ClaimedRow.itemId).Nodup) {claimed' : ClaimedRow}
    (hclaimed : claimed ∈ claims) (hclaimed' : claimed' ∈ claims)
    (hitem : claimed'.itemId = claimed.itemId) : claimed' = claimed :=
  List.inj_on_of_nodup_map hdistinct hclaimed' hclaimed hitem

theorem RowTally.publish (htally : RowTally claims sent claimed.itemId row)
    (hdistinct : (claims.map ClaimedRow.itemId).Nodup) (hclaimed : claimed ∈ claims) :
    RowTally claims sent claimed.itemId (row.publish claimed.currentVersion) where
  counted := Nat.zero_le _
  bounded := (htally.behind claimed hclaimed rfl).2
  behind := by
    intro claimed' hclaimed' hitem
    rw [claim_unique hdistinct hclaimed hclaimed' hitem]
    exact ⟨Nat.le_refl _, (htally.behind claimed hclaimed rfl).2⟩
  unparked := fun _ _ _ _ => rfl

theorem fail_attemptCount (attemptCount now : ℕ) (row : AvailabilityRow) :
    (row.fail attemptCount now).attemptCount = attemptCount := by
  rw [AvailabilityRow.fail]
  split <;> rfl

theorem RowTally.fail (htally : RowTally claims sent claimed.itemId row)
    (hdistinct : (claims.map ClaimedRow.itemId).Nodup) (hclaimed : claimed ∈ claims)
    (hposted : claimed.attemptCount + 1 ≤ sent.count (claimed.itemId, claimed.currentVersion))
    (hversion : row.currentVersion = claimed.currentVersion) (now : ℕ) :
    RowTally claims sent claimed.itemId (row.fail (claimed.attemptCount + 1) now) where
  counted := by
    rw [fail_attemptCount, (fail_keeps _ now row).1, hversion]
    exact hposted
  bounded := by
    rw [fail_lastVersion, (fail_keeps _ now row).1]
    exact htally.bounded
  behind := by
    intro claimed' hclaimed' hitem
    rw [fail_lastVersion, (fail_keeps _ now row).1]
    exact htally.behind claimed' hclaimed' hitem
  unparked := by
    intro claimed' hclaimed' hitem hbumped
    rw [claim_unique hdistinct hclaimed hclaimed' hitem, (fail_keeps _ now row).1,
      hversion] at hbumped
    exact absurd hbumped (Nat.lt_irrefl _)

/-- Between cycles nothing is read. -/
theorem Tallied.idle (htallied : Tallied watched) (hsynced : Synced after)
    (hrows : ∀ entry ∈ after.rows, RowTally watched.claims watched.sent entry.1 entry.2)
    (hversion : after.nextVersion = watched.channel.nextVersion)
    (hidle : after.publisher = .idle) :
    Tallied ⟨after, watched.claims, watched.sent⟩ where
  synced := hsynced
  rows := hrows
  distinct := htallied.distinct
  older := by
    rw [hversion]
    exact htallied.older
  latest := by
    rw [hidle]
    nofun
  read := by
    rw [hidle]
    nofun
  posted := by
    rw [hidle]
    nofun

theorem Tallied.published (htallied : Tallied watched)
    (hpublisher : watched.channel.publisher = .answered claims true) :
    Tallied ⟨{ watched.channel.markPublished claims with publisher := .idle },
      watched.claims, watched.sent⟩ := by
  have hlatest := htallied.latest
  rw [hpublisher] at hlatest
  refine htallied.idle (htallied.synced.settle hpublisher) ?_ (markPublished_sameVersion claims) rfl
  dsimp only
  rw [markPublished_rows]
  refine foldl_setRow (RowTally watched.claims watched.sent) ?_ htallied.rows
  intro claimed hclaimed row htally
  exact htally.publish htallied.distinct (hlatest claimed hclaimed)

theorem Tallied.failed (htallied : Tallied watched)
    (hpublisher : watched.channel.publisher = .answered claims false)
    (hunbumped : watched.unbumped) :
    Tallied ⟨{ watched.channel.markFailed claims with publisher := .idle },
      watched.claims, watched.sent⟩ := by
  have hlatest := htallied.latest
  rw [hpublisher] at hlatest
  rw [Watched.unbumped, hpublisher] at hunbumped
  refine htallied.idle (htallied.synced.settle hpublisher) ?_ (markFailed_sameVersion claims) rfl
  dsimp only
  rw [markFailed_rows]
  -- a failure leaves the version of a row as it is, so the batch stays at what it sent
  have hholds : ∀ entry ∈ claims.foldl (fun rows claimed => setRow rows claimed.itemId
      (AvailabilityRow.fail (claimed.attemptCount + 1) watched.channel.now)) watched.channel.rows,
      RowTally watched.claims watched.sent entry.1 entry.2 ∧
        ∀ claimed ∈ claims, entry.1 = claimed.itemId →
          entry.2.currentVersion = claimed.currentVersion := by
    refine foldl_setRow (fun itemId row =>
      RowTally watched.claims watched.sent itemId row ∧
        ∀ claimed ∈ claims, itemId = claimed.itemId →
          row.currentVersion = claimed.currentVersion) ?_ ?_
    · rintro claimed hclaimed row ⟨htally, hversions⟩
      refine ⟨htally.fail htallied.distinct (hlatest claimed hclaimed)
        (htallied.posted claims false hpublisher claimed hclaimed)
        (hversions claimed hclaimed rfl) watched.channel.now, ?_⟩
      rw [(fail_keeps _ _ row).1]
      exact hversions
    · intro entry hentry
      exact ⟨htallied.rows entry hentry, fun claimed hclaimed =>
        hunbumped claimed hclaimed entry hentry⟩
  exact fun entry hentry => (hholds entry hentry).1

/-! ## Runs -/

theorem watchedStep_tallied {act : ChannelAct} (htallied : Tallied watched)
    (hsettles : SettlesUnbumped watched act) (hstep : watchedStep watched act = some next) :
    Tallied next := by
  obtain ⟨after, hafter, rfl⟩ := Option.map_eq_some_iff.mp hstep
  have hsynced : Synced after := channelStep_synced htallied.synced hafter
  cases act with
  | changeStock inventory bins =>
      cases hafter
      exact htallied.rewrite hsynced ⟨htallied.rows, htallied.older,
        htallied.rowsTallied.versions⟩ rfl
  | setActive itemId active =>
      cases hafter
      exact htallied.rewrite hsynced ⟨htallied.rows, htallied.older,
        htallied.rowsTallied.versions⟩ rfl
  | wait seconds =>
      cases hafter
      exact htallied.rewrite hsynced ⟨htallied.rows, htallied.older,
        htallied.rowsTallied.versions⟩ rfl
  | otherChannel =>
      cases hafter
      refine htallied.rewrite hsynced ⟨htallied.rows, ?_, ?_⟩ rfl
      · exact fun claimed hclaimed => Nat.lt_succ_of_lt (htallied.older claimed hclaimed)
      · exact fun entry hentry => Nat.lt_succ_of_lt (htallied.rowsTallied.versions entry hentry)
  | editScope scope =>
      cases hafter
      exact htallied.editScope scope
  | recompute scope itemIds =>
      cases hafter
      exact htallied.recompute scope itemIds
  | crash =>
      cases hafter
      exact htallied.idle hsynced htallied.rows rfl rfl
  | claim urlSafe =>
      rw [channelStep] at hafter
      split at hafter
      · next hidle =>
          have hclaims : watched.channel.publisher.claims watched.claims = watched.claims := by
            rw [hidle]
            rfl
          split at hafter
          · cases hafter
            dsimp only
            rw [hclaims]
            exact htallied
          · split at hafter
            · cases hafter
              exact htallied.claim
            · cases hafter
              dsimp only
              rw [hclaims]
              exact htallied.rewrite hsynced ⟨htallied.rows, htallied.older,
                htallied.rowsTallied.versions⟩ rfl
      · cases hafter
  | post answer =>
      rw [channelStep] at hafter
      split at hafter
      · next claims hpublisher =>
          cases hafter
          exact htallied.post hpublisher answer
      · cases hafter
  | settle =>
      rw [channelStep] at hafter
      split at hafter
      · next claims published hpublisher =>
          cases hafter
          cases published with
          | true => exact htallied.published hpublisher
          | false => exact htallied.failed hpublisher (hsettles rfl)
      · cases hafter

theorem Fresh.tallied (hfresh : Fresh state) : Tallied state.watch := by
  have hrows := hfresh.rows
  have hpublisher := hfresh.publisher
  refine ⟨hfresh.synced, ?_, List.nodup_nil, nofun, ?_, ?_, ?_⟩
  · rw [ChannelState.watch, hrows]
    nofun
  · rw [ChannelState.watch, hpublisher]
    nofun
  · rw [ChannelState.watch, hpublisher]
    nofun
  · rw [ChannelState.watch, hpublisher]
    nofun

/-! ## The last version -/

structure AtLeast (itemId bound : ℕ) (rows : List (ℕ × AvailabilityRow)) : Prop where
  present : itemId ∈ rows.map Prod.fst
  le : ∀ entry ∈ rows, entry.1 = itemId → bound ≤ entry.2.lastVersion

variable {bound : ℕ}

theorem AtLeast.upsert (hleast : AtLeast itemId bound state.rows)
    (change : ℕ × ℤ) : AtLeast itemId bound (state.upsert change).rows := by
  rw [ChannelState.upsert]
  split
  · next hlookup =>
      constructor
      · rw [List.map_append]
        exact List.mem_append_left _ hleast.present
      · intro entry hentry hitem
        rcases List.mem_append.mp hentry with hold | hnew
        · exact hleast.le entry hold hitem
        · rw [List.mem_singleton.mp hnew] at hitem
          obtain ⟨present, hpresent, hkey⟩ := List.mem_map.mp hleast.present
          have hother := List.lookup_eq_none_iff.mp hlookup present hpresent
          rw [hkey, ← hitem, bne_self_eq_false] at hother
          cases hother
  · constructor
    · rw [setRow_keys]
      exact hleast.present
    · intro entry hentry hitem
      obtain ⟨before, hbefore, hafter⟩ := mem_setRow.mp hentry
      have hbound := hleast.le _ hbefore hitem
      rw [hafter]
      split <;> exact hbound

theorem foldl_setRow_keys (change : ClaimedRow → AvailabilityRow → AvailabilityRow)
    (claims : List ClaimedRow) (rows : List (ℕ × AvailabilityRow)) :
    (claims.foldl (fun rows claimed => setRow rows claimed.itemId (change claimed)) rows).map
      Prod.fst = rows.map Prod.fst :=
  foldl_invariant (fun result : List (ℕ × AvailabilityRow) =>
      result.map Prod.fst = rows.map Prod.fst)
    (fun _ (claimed : ClaimedRow) hkeys => (setRow_keys claimed.itemId _).trans hkeys) _ rfl

theorem AtLeast.foldl {change : ClaimedRow → AvailabilityRow → AvailabilityRow}
    {rows : List (ℕ × AvailabilityRow)} (hleast : AtLeast itemId bound rows)
    (hchange : ∀ claimed ∈ claims, claimed.itemId = itemId → ∀ row, bound ≤ row.lastVersion → bound ≤ (change claimed row).lastVersion) :
    AtLeast itemId bound
      (claims.foldl (fun rows claimed => setRow rows claimed.itemId (change claimed)) rows) where
  present := by
    rw [foldl_setRow_keys]
    exact hleast.present
  le := by
    refine foldl_setRow (fun key row => key = itemId → bound ≤ row.lastVersion) ?_ hleast.le
    intro claimed hclaimed row hbound hitem
    exact hchange claimed hclaimed hitem row (hbound hitem)

/-- A success writes a version that is not before the one it replaces. -/
theorem AtLeast.step {act : ChannelAct} (htallied : Tallied watched)
    (hleast : AtLeast itemId bound watched.channel.rows) (hedits : act.editsScope = false)
    (hstep : watchedStep watched act = some next) :
    AtLeast itemId bound next.channel.rows := by
  obtain ⟨after, hafter, rfl⟩ := Option.map_eq_some_iff.mp hstep
  have hgoal : AtLeast itemId bound after.rows := by
    cases act with
    | changeStock inventory bins =>
        cases hafter
        exact hleast
    | setActive itemId active =>
        cases hafter
        exact hleast
    | wait seconds =>
        cases hafter
        exact hleast
    | otherChannel =>
        cases hafter
        exact hleast
    | crash =>
        cases hafter
        exact hleast
    | editScope scope => cases hedits
    | recompute scope itemIds =>
        cases hafter
        exact foldl_invariant (fun state : ChannelState => AtLeast itemId bound state.rows)
          (fun _ change hleast => hleast.upsert change) _ hleast
    | claim urlSafe =>
        rw [channelStep] at hafter
        split at hafter
        · split at hafter
          · cases hafter
            exact hleast
          · split at hafter <;>
            · cases hafter
              exact hleast
        · cases hafter
    | post answer =>
        rw [channelStep] at hafter
        split at hafter
        · cases hafter
          exact hleast
        · cases hafter
    | settle =>
        rw [channelStep] at hafter
        split at hafter
        · next claims published hpublisher =>
            cases hafter
            cases published with
            | true =>
                rw [if_pos rfl, markPublished_rows]
                refine hleast.foldl ?_
                intro claimed hclaimed hitem row hbound
                obtain ⟨entry, hentry, hkey⟩ := List.mem_map.mp hleast.present
                have hlatest := htallied.latest
                rw [hpublisher] at hlatest
                have hbehind := (htallied.rows entry hentry).behind claimed
                  (hlatest claimed hclaimed) (hitem.trans hkey.symm)
                exact (hleast.le entry hentry hkey).trans hbehind.1
            | false =>
                rw [if_neg Bool.false_ne_true, markFailed_rows]
                refine hleast.foldl ?_
                intro claimed _ _ row hbound
                rw [fail_lastVersion]
                exact hbound
        · cases hafter
  cases act <;> exact hgoal

/-- In every run whose failures are written down of unbumped rows only, a quantity that was
recomputed after the claim is not parked, and the last version of a row does not go back
while the channel keeps its scope. -/
theorem neverParked_of_run (hfresh : Fresh state) {mid last : Watched}
    {acts acts' : List ChannelAct}
    (hrun : Run watchedStep SettlesUnbumped state.watch acts mid)
    (hrun' : Run watchedStep Interleaves mid acts' last) :
    NeverParked last ∧
      ∀ itemId row row', (itemId, row) ∈ mid.channel.rows → (itemId, row') ∈ last.channel.rows →
        row.lastVersion ≤ row'.lastVersion := by
  have hmid : Tallied mid := hrun.invariant Tallied
    (fun htallied hguard hstep => watchedStep_tallied htallied hguard hstep) hfresh.tallied
  constructor
  · have hlast : Tallied last := hrun'.invariant Tallied
      (fun htallied hguard hstep => watchedStep_tallied htallied hguard.1 hstep) hmid
    exact hlast.neverParked
  · intro itemId row row' hrow hrow'
    have hleast : AtLeast itemId row.lastVersion mid.channel.rows := by
      refine ⟨List.mem_map_of_mem hrow, ?_⟩
      rintro ⟨key, entry⟩ hentry rfl
      rw [row_unique hmid.synced.keyed hrow hentry]
    have hboth : Tallied last ∧ AtLeast itemId row.lastVersion last.channel.rows :=
      hrun'.invariant (fun watched =>
        Tallied watched ∧ AtLeast itemId row.lastVersion watched.channel.rows)
        (fun hinv hguard hstep => ⟨watchedStep_tallied hinv.1 hguard.1 hstep,
          hinv.2.step hinv.1 hguard.2 hstep⟩) ⟨hmid, hleast⟩
    exact hboth.2.le _ hrow' rfl

/-! ## A publish that fails for the fifth time -/

def fourFailures : List ChannelAct :=
  .recompute {} none :: cycle (.fails []) ++ .wait 30 :: cycle (.fails []) ++
    .wait 120 :: cycle (.fails []) ++ .wait 600 :: cycle (.fails []) ++ [.wait 3600]

def fifthStarts : List ChannelAct :=
  fourFailures ++ [.claim true]

def bumpedMeanwhile (answer : SinkAnswer) : List ChannelAct :=
  [.changeStock twoPromised fiveUnits.bins, .recompute {} none, .post answer, .settle]

def watchedEnd (acts : List ChannelAct) : Watched :=
  (execute watchedStep (fun _ _ => True) fiveUnits.watch acts).getD fiveUnits.watch

/-- The fifth publish succeeds: the row is left dirty with the new quantity. -/
theorem neverParked_fifthSucceeds :
    NeverParked (watchedEnd (fifthStarts ++ bumpedMeanwhile .accepts)) := by
  have hrun : Run watchedStep SettlesUnbumped fiveUnits.watch fifthStarts
      (watchedEnd fifthStarts) := Run.ofExecute rfl
  have hrun' : Run watchedStep Interleaves (watchedEnd fifthStarts) (bumpedMeanwhile .accepts)
      (watchedEnd (fifthStarts ++ bumpedMeanwhile .accepts)) := Run.ofExecute rfl
  exact (neverParked_of_run fiveUnits_fresh hrun hrun').1

/-- The fifth publish fails: the new quantity is in the DLQ with five attempts, none of which
sent it, and the next sweep finds nothing to change. -/
theorem fifthFailure_parks_fresh_quantity :
    Run watchedStep (fun _ _ => True) fiveUnits.watch (fifthStarts ++ bumpedMeanwhile (.fails []))
      (watchedEnd (fifthStarts ++ bumpedMeanwhile (.fails []))) ∧
    (watchedEnd (fifthStarts ++ bumpedMeanwhile (.fails []))).channel.rows =
      [(1, ⟨3, 3, 0, 5, some 7950, true⟩)] ∧
    (watchedEnd (fifthStarts ++ bumpedMeanwhile (.fails []))).attempts 1 3 = 0 ∧
    ((watchedEnd (fifthStarts ++ bumpedMeanwhile (.fails []))).channel.recomputeChannel
      {} none).2 = 0 ∧
    ¬ NeverParked (watchedEnd (fifthStarts ++ bumpedMeanwhile (.fails []))) := by
  refine ⟨Run.ofExecute rfl, rfl, rfl, rfl, ?_⟩
  intro hnever
  have hcounted := hnever.counted (1, ⟨3, 3, 0, 5, some 7950, true⟩) List.mem_cons_self
  exact absurd hcounted (by decide)

end SentryWms.Channel
