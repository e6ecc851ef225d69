import SentryWms.Snapshot.Keeper

/-!
# One scan for each token, and a scan that is read to its end

The cap is a count before an insert, and nothing keeps two requests from counting before
either has committed. The keeper counts the age of a scan from its promotion, so the access
times that the pages write do not keep a long scan alive.
-/

namespace SentryWms.Snapshot

open Relational Transition

/-! ## The property -/

/-- A scan that a client is reading: when its last page was served, or when it was promoted,
and whether every page so far came within the idle timeout. -/
structure Paging where
  scanId : ℕ
  lastPage : ℕ
  onTime : Bool

def Paging.turn (idleTimeout now : ℕ) (paging : Paging) : Paging where
  scanId := paging.scanId
  lastPage := now
  onTime := paging.onTime && decide (now ≤ paging.lastPage + idleTimeout)

/-- The system, beside the scans that are being read. -/
structure Followed where
  state : ScanState
  pagings : List Paging

/-- A scan is being read from its promotion to its final page, or until its first request
has given up. -/
def Followed.follow (followed : Followed) (act : ScanAct) (after : ScanState) : List Paging :=
  match act with
  | .promote _ =>
      followed.pagings ++ (after.keeper.active.drop followed.state.keeper.active.length).map
        fun held => ⟨held.scanId, after.now, true⟩
  | .serve requestId partialPage =>
      match followed.state.servedScan requestId with
      | some (scanId, _) =>
          if partialPage then followed.pagings.filter fun paging => paging.scanId != scanId
          else followed.pagings.map fun paging =>
            if paging.scanId = scanId then paging.turn after.keeper.idleTimeout after.now
            else paging
      | none => followed.pagings
  | .giveUp requestId =>
      match (followed.state.requests.get? requestId).map SnapshotRequest.phase with
      | some (.polling scanId _) =>
          followed.pagings.filter fun paging => paging.scanId != scanId
      | _ => followed.pagings
  | _ => followed.pagings

def followedStep (followed : Followed) (act : ScanAct) : Option Followed :=
  (scanStep followed.state act).map fun after => ⟨after, followed.follow act after⟩

/-- Every page of the scan has come within the idle timeout of the one before, and the next
one is not late. -/
def Paging.covered (paging : Paging) (state : ScanState) : Prop :=
  paging.onTime = true ∧ state.now ≤ paging.lastPage + state.keeper.idleTimeout

instance (paging : Paging) (state : ScanState) : Decidable (paging.covered state) :=
  inferInstanceAs (Decidable (_ ∧ _))

/-- The scan is active, and the keeper holds its transaction. -/
structure Sustained (state : ScanState) (scanId : ℕ) : Prop where
  held : state.keeper.holds scanId = true
  active : ∃ scan, (scanId, scan) ∈ state.scans.entries ∧ scan.status = .active

/-- A token has at most one scan in flight, and what is read on time is not reaped. -/
structure Fair (followed : Followed) : Prop where
  single : ∀ tokenId, scansInFlight tokenId followed.state.scans ≤ maxConcurrentScansPerToken
  kept : ∀ paging ∈ followed.pagings, paging.covered followed.state →
    Sustained followed.state paging.scanId

/-- The count of a request still holds when it commits its row, and the keeper reaps while
what is read on time was promoted within the idle timeout. -/
def StepsInTime (followed : Followed) : ScanAct → Prop
  | .commit requestId =>
      ∀ request ∈ followed.state.requests.get? requestId,
        scansInFlight request.tokenId followed.state.scans < maxConcurrentScansPerToken
  | .reap =>
      ∀ paging ∈ followed.pagings, paging.covered followed.state →
        ∀ held ∈ followed.state.keeper.active, held.scanId = paging.scanId →
          followed.state.now ≤ held.promotedAtMonotonic + followed.state.keeper.idleTimeout
  | _ => True

instance (followed : Followed) (act : ScanAct) : Decidable (StepsInTime followed act) :=
  match act with
  | .commit requestId => inferInstanceAs (Decidable (∀ request ∈
      followed.state.requests.get? requestId,
        scansInFlight request.tokenId followed.state.scans < maxConcurrentScansPerToken))
  | .reap => inferInstanceAs (Decidable (∀ paging ∈ followed.pagings,
      paging.covered followed.state → ∀ held ∈ followed.state.keeper.active,
        held.scanId = paging.scanId →
          followed.state.now ≤ held.promotedAtMonotonic + followed.state.keeper.idleTimeout))
  | .count _ _ | .insert _ | .poll _ | .giveUp _ | .load _ _ _ | .serve _ _ | .crash _
  | .selectPending | .promote _ | .close | .delete | .drain | .wait _ =>
      inferInstanceAs (Decidable True)

/-! ## The invariant -/

def KeeperPhase.closes : KeeperPhase → List ℕ
  | .closing toClose => toClose.map Prod.fst
  | .deleting scanId toClose => scanId :: toClose.map Prod.fst
  | _ => []

/-- What holds in every run whose steps are in time. -/
structure Followed.Sound (followed : Followed) : Prop extends Fair followed where
  closes : ∀ paging ∈ followed.pagings, paging.covered followed.state →
    paging.scanId ∉ followed.state.keeper.phase.closes

variable {state after : ScanState} {followed next : Followed} {pagings : List Paging}
  {scans : Table TimedScan} {scanId : ℕ}

/-! ## The cap -/

theorem scansInFlight_modify_le {change : TimedScan → TimedScan} {tokenId : ℕ}
    (hchange : ∀ scan, (change scan).countsFor tokenId = true → scan.countsFor tokenId = true) :
    scansInFlight tokenId (scans.modify scanId change) ≤ scansInFlight tokenId scans := by
  rw [scansInFlight, scansInFlight, Table.select, Table.select, Table.modify, Table.mapRows,
    List.filter_map, List.length_map]
  refine (List.monotone_filter_right _ ?_).length_le
  intro entry hentry
  dsimp only [Function.comp] at hentry
  split at hentry
  · exact hchange entry.2 hentry
  · exact hentry

theorem scansInFlight_delete_le (scans : Table TimedScan) (scanId tokenId : ℕ) :
    scansInFlight tokenId (scans.delete scanId) ≤ scansInFlight tokenId scans :=
  (List.filter_sublist.filter _).length_le

theorem scansInFlight_insert (scans : Table TimedScan) (scan : TimedScan) (tokenId : ℕ) :
    scansInFlight tokenId (scans.insert scan) =
      scansInFlight tokenId scans + if scan.countsFor tokenId then 1 else 0 := by
  rw [scansInFlight, Table.select_insert, List.length_append, scansInFlight]
  split <;> rfl

theorem countsFor_promote {pgSnapshotId snapshotEventId now tokenId : ℕ} {scan : TimedScan}
    (hcounts : (scan.promote pgSnapshotId snapshotEventId now).countsFor tokenId = true) :
    scan.countsFor tokenId = true := by
  rw [TimedScan.promote] at hcounts
  split at hcounts
  · next hpending =>
      simp only [TimedScan.countsFor, Bool.and_eq_true] at hcounts ⊢
      exact ⟨hcounts.1, by simp [hpending]⟩
  · exact hcounts

theorem countsFor_touch {now tokenId : ℕ} {partialPage : Bool} {scan : TimedScan}
    (hcounts : (scan.touch now partialPage).countsFor tokenId = true) :
    scan.countsFor tokenId = true := by
  cases partialPage with
  | false => exact hcounts
  | true =>
      simp only [TimedScan.countsFor, TimedScan.touch, if_true, SnapshotScan.finish] at hcounts ⊢
      split at hcounts
      · simp at hcounts
      · exact hcounts

/-! ## What is read on time -/

theorem Paging.covered_turn {paging : Paging}
    (hcovered : (paging.turn state.keeper.idleTimeout state.now).covered state) :
    paging.covered state := by
  obtain ⟨honTime, -⟩ := hcovered
  simp only [Paging.turn, Bool.and_eq_true, decide_eq_true_eq] at honTime
  exact honTime

theorem holds_iff {keeper : SnapshotKeeper} :
    keeper.holds scanId = true ↔ ∃ held ∈ keeper.active, held.scanId = scanId := by
  simp [SnapshotKeeper.holds]

/-- A step of a request that leaves the scans and the keeper alone. -/
theorem Followed.Sound.requests (hsound : followed.Sound) {requests : Table SnapshotRequest} :
    Followed.Sound ⟨{ followed.state with requests }, followed.pagings⟩ where
  single := hsound.single
  kept := fun paging hpaging hcovered =>
    ⟨(hsound.kept paging hpaging hcovered).held, (hsound.kept paging hpaging hcovered).active⟩
  closes := hsound.closes

theorem Followed.Sound.phase (hsound : followed.Sound) {phase : KeeperPhase}
    (hphase : ∀ paging ∈ followed.pagings, paging.covered followed.state →
      paging.scanId ∉ phase.closes) :
    Followed.Sound ⟨followed.state.setKeeperPhase phase, followed.pagings⟩ where
  single := hsound.single
  kept := fun paging hpaging hcovered =>
    ⟨(hsound.kept paging hpaging hcovered).held, (hsound.kept paging hpaging hcovered).active⟩
  closes := hphase

/-- Rows that go, or lose their place, are rows of scans that are not read on time. -/
theorem Followed.Sound.rewrite (hsound : followed.Sound) {requests : Table SnapshotRequest}
    (hsingle : ∀ tokenId, scansInFlight tokenId scans ≤ maxConcurrentScansPerToken)
    (hcovered : ∀ paging ∈ pagings, paging.covered followed.state →
      ∃ before ∈ followed.pagings, before.scanId = paging.scanId ∧
        before.covered followed.state)
    (hrows : ∀ paging ∈ pagings, paging.covered followed.state → ∀ scan,
      (paging.scanId, scan) ∈ followed.state.scans.entries → scan.status = .active →
        ∃ scan', (paging.scanId, scan') ∈ scans.entries ∧ scan'.status = .active) :
    Followed.Sound ⟨{ followed.state with scans, requests }, pagings⟩ where
  single := hsingle
  kept := by
    intro paging hpaging hcover
    obtain ⟨before, hbefore, hsame, hcover'⟩ := hcovered paging hpaging hcover
    have hkept := hsound.kept before hbefore hcover'
    rw [hsame] at hkept
    obtain ⟨scan, hscan, hactive⟩ := hkept.active
    exact ⟨hkept.held, hrows paging hpaging hcover scan hscan hactive⟩
  closes := by
    intro paging hpaging hcover
    obtain ⟨before, hbefore, hsame, hcover'⟩ := hcovered paging hpaging hcover
    rw [← hsame]
    exact hsound.closes before hbefore hcover'

/-! ## Requests -/

theorem Followed.Sound.count (hsound : followed.Sound) (token : SnapshotToken)
    (warehouseId : ℕ) :
    Followed.Sound ⟨followed.state.count token warehouseId, followed.pagings⟩ := by
  rw [ScanState.count]
  split
  · exact hsound
  · split
    · exact hsound
    · exact hsound.requests

theorem Followed.Sound.load (hsound : followed.Sound) (token : SnapshotToken)
    (warehouseId : ℕ) (cursor : ScanCursor) :
    Followed.Sound ⟨followed.state.load token warehouseId cursor, followed.pagings⟩ := by
  rw [ScanState.load]
  split
  · exact hsound
  · split
    · exact hsound
    · split
      · exact hsound
      · exact hsound.requests

theorem Followed.Sound.poll (hsound : followed.Sound) (requestId scanId : ℕ) :
    Followed.Sound ⟨followed.state.poll requestId scanId, followed.pagings⟩ := by
  rw [ScanState.poll]
  split
  · split
    · exact hsound.requests
    · exact hsound
  · exact hsound

theorem Followed.Sound.commit (hsound : followed.Sound) {request : SnapshotRequest}
    (hcount : scansInFlight request.tokenId followed.state.scans < maxConcurrentScansPerToken)
    {requests : Table SnapshotRequest} :
    Followed.Sound ⟨{ followed.state with
      scans := followed.state.scans.insert request.pendingScan, requests },
      followed.pagings⟩ := by
  refine hsound.rewrite ?_ ?_ ?_
  · intro tokenId
    rw [scansInFlight_insert]
    by_cases htoken : request.tokenId = tokenId
    · rw [← htoken]
      split
      · exact hcount
      · exact hsound.single request.tokenId
    · have hother : request.pendingScan.countsFor tokenId = false := by
        simp [TimedScan.countsFor, SnapshotRequest.pendingScan, htoken]
      rw [hother, if_neg Bool.false_ne_true, Nat.add_zero]
      exact hsound.single tokenId
  · exact fun paging hpaging hcovered => ⟨paging, hpaging, rfl, hcovered⟩
  · intro paging _ _ scan hscan hactive
    exact ⟨scan, (Table.mem_insert _).mpr (.inl hscan), hactive⟩

theorem Followed.Sound.giveUp (hsound : followed.Sound) (scanId : ℕ)
    {requests : Table SnapshotRequest} :
    Followed.Sound ⟨{ followed.state with
      scans := followed.state.scans.delete scanId, requests },
      followed.pagings.filter fun paging => paging.scanId != scanId⟩ := by
  refine hsound.rewrite ?_ ?_ ?_
  · intro tokenId
    exact (scansInFlight_delete_le _ scanId tokenId).trans (hsound.single tokenId)
  · intro paging hpaging hcovered
    exact ⟨paging, (List.mem_filter.mp hpaging).1, rfl, hcovered⟩
  · intro paging hpaging _ scan hscan hactive
    have hother := (List.mem_filter.mp hpaging).2
    rw [bne_iff_ne] at hother
    exact ⟨scan, (Table.mem_delete _).mpr ⟨hscan, hother⟩, hactive⟩

theorem Followed.Sound.page (hsound : followed.Sound) (scanId beganAt : ℕ)
    {requests : Table SnapshotRequest} :
    Followed.Sound ⟨{ followed.state with
      scans := followed.state.scans.modify scanId (TimedScan.touch beganAt false), requests },
      followed.pagings.map fun paging =>
        if paging.scanId = scanId then
          paging.turn followed.state.keeper.idleTimeout followed.state.now
        else paging⟩ := by
  refine hsound.rewrite ?_ ?_ ?_
  · intro tokenId
    exact (scansInFlight_modify_le fun _ => countsFor_touch).trans (hsound.single tokenId)
  · intro paging hpaging hcovered
    obtain ⟨before, hbefore, rfl⟩ := List.mem_map.mp hpaging
    split at hcovered
    · next hscan =>
        rw [if_pos hscan]
        exact ⟨before, hbefore, rfl, Paging.covered_turn hcovered⟩
    · next hscan =>
        rw [if_neg hscan]
        exact ⟨before, hbefore, rfl, hcovered⟩
  · intro paging _ _ scan hscan hactive
    refine ⟨_, (Table.mem_modify _).mpr ⟨scan, hscan, rfl⟩, ?_⟩
    split
    · exact hactive
    · exact hactive

theorem Followed.Sound.finalPage (hsound : followed.Sound) (scanId beganAt : ℕ)
    {requests : Table SnapshotRequest} :
    Followed.Sound ⟨{ followed.state with
      scans := followed.state.scans.modify scanId (TimedScan.touch beganAt true), requests },
      followed.pagings.filter fun paging => paging.scanId != scanId⟩ := by
  refine hsound.rewrite ?_ ?_ ?_
  · intro tokenId
    exact (scansInFlight_modify_le fun _ => countsFor_touch).trans (hsound.single tokenId)
  · intro paging hpaging hcovered
    exact ⟨paging, (List.mem_filter.mp hpaging).1, rfl, hcovered⟩
  · intro paging hpaging _ scan hscan hactive
    have hother := (List.mem_filter.mp hpaging).2
    rw [bne_iff_ne] at hother
    refine ⟨scan, (Table.mem_modify _).mpr ⟨scan, hscan, ?_⟩, hactive⟩
    rw [if_neg hother]

theorem Followed.Sound.serve (hsound : followed.Sound) (requestId : ℕ) (partialPage : Bool) :
    Followed.Sound ⟨followed.state.serve requestId partialPage,
      followed.follow (.serve requestId partialPage)
        (followed.state.serve requestId partialPage)⟩ := by
  rw [Followed.follow, ScanState.serve]
  cases followed.state.servedScan requestId with
  | none => exact hsound.requests
  | some served =>
      cases partialPage with
      | true => exact hsound.finalPage served.1 served.2
      | false => exact hsound.page served.1 served.2

/-! ## The keeper -/

theorem Followed.Sound.promote (hsound : followed.Sound) {pendingIds : List ℕ}
    (scanId pgSnapshotId snapshotEventId : ℕ) :
    Followed.Sound ⟨(followed.state.promote scanId pgSnapshotId snapshotEventId).setKeeperPhase
        (.promoting pendingIds),
      followed.follow (.promote (some (pgSnapshotId, snapshotEventId)))
        ((followed.state.promote scanId pgSnapshotId snapshotEventId).setKeeperPhase
          (.promoting pendingIds))⟩ := by
  rw [Followed.follow, ScanState.promote]
  split
  · next hpending =>
      obtain ⟨pending, hget, hstatus⟩ := (Option.any_eq_true _ _).mp hpending
      rw [Table.get?_eq_some] at hget
      rw [beq_iff_eq] at hstatus
      refine ⟨⟨?_, ?_⟩, fun _ _ _ => List.not_mem_nil⟩
      · intro tokenId
        exact (scansInFlight_modify_le fun _ => countsFor_promote).trans (hsound.single tokenId)
      · intro paging hpaging hcovered
        rcases List.mem_append.mp hpaging with hold | hnew
        · have hkept := hsound.kept paging hold hcovered
          obtain ⟨scan, hscan, hactive⟩ := hkept.active
          obtain ⟨held, hheld, hsame⟩ := holds_iff.mp hkept.held
          refine ⟨holds_iff.mpr ⟨held, List.mem_append_left _ hheld, hsame⟩, ?_⟩
          have hother : scan.promote pgSnapshotId snapshotEventId followed.state.now = scan := by
            rw [TimedScan.promote, if_neg]
            rw [hactive]
            decide
          refine ⟨scan, (Table.mem_modify _).mpr ⟨scan, hscan, ?_⟩, hactive⟩
          rw [hother, ite_self]
        · simp only [ScanState.setKeeperPhase, List.drop_left, List.map_cons, List.map_nil,
            List.mem_singleton] at hnew
          rw [hnew]
          refine ⟨holds_iff.mpr ⟨_, List.mem_append_right _ List.mem_cons_self, rfl⟩, ?_⟩
          refine ⟨_, (Table.mem_modify _).mpr ⟨pending, hget, rfl⟩, ?_⟩
          rw [if_pos rfl, TimedScan.promote, if_pos hstatus]
  · have hnone : (followed.state.setKeeperPhase (.promoting pendingIds)).keeper.active.drop
        followed.state.keeper.active.length = [] := List.drop_length
    rw [hnone, List.map_nil, List.append_nil]
    exact hsound.phase fun _ _ _ => List.not_mem_nil

/-- What is read on time is neither done, nor aborted, nor gone, so only its age could close
it. -/
theorem not_mem_toClose (hsustained : Sustained state scanId)
    (hage : ∀ held ∈ state.keeper.active, held.scanId = scanId →
      state.now ≤ held.promotedAtMonotonic + state.keeper.idleTimeout) :
    scanId ∉ state.toClose.map Prod.fst := by
  obtain ⟨scan, hscan, hactive⟩ := hsustained.active
  rw [← Table.get?_eq_some] at hscan
  intro hmem
  rw [ScanState.toClose, List.map_append, List.mem_append, List.map_map] at hmem
  rcases hmem with hseen | hgone
  · obtain ⟨close, hclose, hid⟩ := List.mem_map.mp hseen
    obtain ⟨held, hheld, hverdict⟩ := List.mem_filterMap.mp hclose
    obtain ⟨row, hrow, hstatus⟩ := Option.bind_eq_some_iff.mp hverdict
    obtain ⟨status, hfinal, rfl⟩ := Option.map_eq_some_iff.mp hstatus
    dsimp only at hid
    rw [hid, hscan, Option.some.injEq] at hrow
    have hyoung := hage held hheld hid
    rw [SnapshotKeeper.finalStatus, ← hrow, hactive] at hfinal
    dsimp only at hfinal
    rw [if_neg (by omega)] at hfinal
    cases hfinal
  · obtain ⟨held, hheld, hid⟩ := List.mem_map.mp hgone
    have hnone := (List.mem_filter.mp hheld).2
    dsimp only [Function.comp] at hid
    rw [hid, hscan] at hnone
    cases hnone

theorem Followed.Sound.close (hsound : followed.Sound) {finalStatus : FinalStatus}
    {toClose : List (ℕ × FinalStatus)}
    (hphase : followed.state.keeper.phase = .closing ((scanId, finalStatus) :: toClose)) :
    Followed.Sound ⟨(followed.state.close scanId finalStatus).setKeeperPhase
      (.deleting scanId toClose), followed.pagings⟩ := by
  have hcloses := hsound.closes
  rw [hphase] at hcloses
  refine ⟨⟨?_, ?_⟩, hcloses⟩
  · intro tokenId
    rw [ScanState.close, ScanState.setKeeperPhase]
    dsimp only
    split
    · refine (scansInFlight_modify_le ?_).trans (hsound.single tokenId)
      intro scan hcounts
      simp [TimedScan.countsFor] at hcounts
    · exact hsound.single tokenId
  · intro paging hpaging hcovered
    have hother : paging.scanId ≠ scanId :=
      fun hsame => hcloses paging hpaging hcovered (hsame ▸ List.mem_cons_self)
    have hkept := hsound.kept paging hpaging hcovered
    obtain ⟨scan, hscan, hactive⟩ := hkept.active
    obtain ⟨held, hheld, hsame⟩ := holds_iff.mp hkept.held
    refine ⟨holds_iff.mpr ⟨held, List.mem_filter.mpr ⟨hheld, ?_⟩, hsame⟩, ?_⟩
    · rw [bne_iff_ne, hsame]
      exact hother
    · rw [ScanState.close, ScanState.setKeeperPhase]
      dsimp only
      split
      · refine ⟨scan, (Table.mem_modify _).mpr ⟨scan, hscan, ?_⟩, hactive⟩
        rw [if_neg hother]
      · exact ⟨scan, hscan, hactive⟩

theorem Followed.Sound.delete (hsound : followed.Sound)
    {toClose : List (ℕ × FinalStatus)}
    (hphase : followed.state.keeper.phase = .deleting scanId toClose) :
    Followed.Sound ⟨{ followed.state with
      scans := followed.state.scans.delete scanId }.setKeeperPhase (.closing toClose),
      followed.pagings⟩ := by
  have hcloses := hsound.closes
  rw [hphase] at hcloses
  refine ⟨⟨?_, ?_⟩, ?_⟩
  · intro tokenId
    exact (scansInFlight_delete_le _ scanId tokenId).trans (hsound.single tokenId)
  · intro paging hpaging hcovered
    have hother : paging.scanId ≠ scanId :=
      fun hsame => hcloses paging hpaging hcovered (hsame ▸ List.mem_cons_self)
    have hkept := hsound.kept paging hpaging hcovered
    obtain ⟨scan, hscan, hactive⟩ := hkept.active
    exact ⟨hkept.held, scan, (Table.mem_delete _).mpr ⟨hscan, hother⟩, hactive⟩
  · intro paging hpaging hcovered hmem
    exact hcloses paging hpaging hcovered (List.mem_cons_of_mem _ hmem)

/-- What is read on time later is read on time now. -/
theorem Followed.Sound.wait (hsound : followed.Sound) (elapsed : ℕ) :
    Followed.Sound ⟨{ followed.state with now := followed.state.now + elapsed },
      followed.pagings⟩ := by
  have hearlier : ∀ paging : Paging,
      paging.covered { followed.state with now := followed.state.now + elapsed } →
        paging.covered followed.state := by
    intro paging hcovered
    exact ⟨hcovered.1, (Nat.le_add_right _ elapsed).trans hcovered.2⟩
  refine ⟨⟨hsound.single, ?_⟩, ?_⟩
  · intro paging hpaging hcovered
    have hkept := hsound.kept paging hpaging (hearlier paging hcovered)
    exact ⟨hkept.held, hkept.active⟩
  · intro paging hpaging hcovered
    exact hsound.closes paging hpaging (hearlier paging hcovered)

/-! ## Runs -/

theorem followedStep_sound {act : ScanAct} (hsound : followed.Sound)
    (htime : StepsInTime followed act) (hstep : followedStep followed act = some next) :
    next.Sound := by
  obtain ⟨after, hafter, rfl⟩ := Option.map_eq_some_iff.mp hstep
  cases act with
  | count token warehouseId =>
      cases hafter
      exact hsound.count token warehouseId
  | load token warehouseId cursor =>
      cases hafter
      exact hsound.load token warehouseId cursor
  | crash requestId =>
      cases hafter
      exact hsound.requests
  | wait elapsed =>
      cases hafter
      exact hsound.wait elapsed
  | insert requestId =>
      rw [scanStep] at hafter
      split at hafter
      · split at hafter
        · cases hafter
          exact hsound.requests
        · cases hafter
      · cases hafter
  | commit requestId =>
      rw [scanStep] at hafter
      split at hafter
      · next request hrequest =>
          split at hafter
          · cases hafter
            exact hsound.commit (htime request hrequest)
          · cases hafter
      · cases hafter
  | poll requestId =>
      rw [scanStep] at hafter
      split at hafter
      · cases hafter
        exact hsound.poll requestId _
      · cases hafter
  | giveUp requestId =>
      rw [scanStep] at hafter
      split at hafter
      · next scanId deadline hpolling =>
          split at hafter
          · cases hafter
            rw [Followed.follow, hpolling]
            exact hsound.giveUp scanId
          · cases hafter
      · cases hafter
  | serve requestId partialPage =>
      rw [scanStep] at hafter
      split at hafter
      · cases hafter
        exact hsound.serve requestId partialPage
      · cases hafter
  | selectPending =>
      rw [scanStep] at hafter
      split at hafter
      · cases hafter
        exact hsound.phase fun _ _ _ => List.not_mem_nil
      · cases hafter
  | promote outcome =>
      rw [scanStep] at hafter
      split at hafter
      · next scanId pendingIds hphase =>
          cases outcome with
          | some snapshot =>
              cases hafter
              exact hsound.promote scanId snapshot.1 snapshot.2
          | none =>
              cases hafter
              have hsame : (followed.state.setKeeperPhase
                  (.promoting pendingIds)).keeper.active.drop
                    followed.state.keeper.active.length = [] := List.drop_length
              rw [Followed.follow, hsame, List.map_nil, List.append_nil]
              exact hsound.phase fun _ _ _ => List.not_mem_nil
      · cases hafter
  | reap =>
      rw [scanStep] at hafter
      split at hafter
      · cases hafter
        refine hsound.phase ?_
        intro paging hpaging hcovered
        exact not_mem_toClose (hsound.kept paging hpaging hcovered)
          (htime paging hpaging hcovered)
      · cases hafter
  | close =>
      rw [scanStep] at hafter
      split at hafter
      · next scanId finalStatus toClose hphase =>
          split at hafter
          · cases hafter
            exact hsound.close hphase
          · cases hafter
            refine hsound.phase ?_
            intro paging hpaging hcovered hmem
            have hcloses := hsound.closes paging hpaging hcovered
            rw [hphase] at hcloses
            exact hcloses (List.mem_cons_of_mem _ hmem)
      · cases hafter
  | delete =>
      rw [scanStep] at hafter
      split at hafter
      · next scanId toClose hphase =>
          cases hafter
          exact hsound.delete hphase
      · cases hafter
  | drain =>
      rw [scanStep] at hafter
      split at hafter
      · cases hafter
        exact hsound.phase fun _ _ _ => List.not_mem_nil
      · cases hafter

/-- No scan is in flight, no request in progress, and the keeper holds nothing. -/
def quietScans (poolSize idleTimeout : ℕ) : Followed where
  state := ⟨.empty, .empty, ⟨poolSize, idleTimeout, [], .draining⟩, 0⟩
  pagings := []

/-- In every run whose counts still hold at their commits, and whose reaps find what is read
on time promoted within the idle timeout, no token has two scans in flight and no scan that
is read on time is reaped. -/
theorem fair_of_run {poolSize idleTimeout : ℕ} {acts : List ScanAct}
    (hrun : Run followedStep StepsInTime (quietScans poolSize idleTimeout) acts followed) :
    Fair followed := by
  have hfirst : (quietScans poolSize idleTimeout).Sound :=
    ⟨⟨fun _ => Nat.zero_le _, nofun⟩, nofun⟩
  have hsound : followed.Sound := hrun.invariant Followed.Sound
    (fun hsound htime hstep => followedStep_sound hsound htime hstep) hfirst
  exact hsound.toFair

/-! ## Two first pages, and a long scan -/

def oneWarehouse : SnapshotToken :=
  ⟨1, [1]⟩

/-- Two requests count before either has committed. -/
def twoFirstPages : List ScanAct :=
  [.count oneWarehouse 1, .count oneWarehouse 1, .insert 1, .insert 2, .commit 1, .commit 2]

def firstPage : List ScanAct :=
  [.count oneWarehouse 1, .insert 1, .commit 1, .selectPending, .promote (some (7, 0)), .poll 1,
    .serve 1 false, .reap, .drain]

/-- Another page, after four minutes. -/
def nextPage (requestId : ℕ) : List ScanAct :=
  [.wait 240000, .load oneWarehouse 1 ⟨1, 1, 1, 1⟩, .serve requestId false]

/-- The keeper goes once through its loop, with one scan to close. -/
def reapOne : List ScanAct :=
  [.selectPending, .reap, .close, .delete]

def followedEnd (acts : List ScanAct) : Followed :=
  (execute followedStep (fun _ _ => True) (quietScans 4 300000) acts).getD (quietScans 4 300000)

/-- A second page four minutes after the first one, and a reap. -/
theorem fair_secondPage :
    Fair (followedEnd (firstPage ++ nextPage 2 ++ [.selectPending, .reap])) := by
  have hrun : Run followedStep StepsInTime (quietScans 4 300000)
      (firstPage ++ nextPage 2 ++ [.selectPending, .reap])
      (followedEnd (firstPage ++ nextPage 2 ++ [.selectPending, .reap])) := Run.ofExecute rfl
  exact fair_of_run hrun

/-- Two overlapping first pages leave two pending scans of one token; and a scan whose pages
come every four minutes is gone after the third one. -/
theorem secondScan_and_reapedScan :
    (Run followedStep (fun _ _ => True) (quietScans 4 300000) twoFirstPages
        (followedEnd twoFirstPages) ∧
      scansInFlight 1 (followedEnd twoFirstPages).state.scans = 2 ∧
      ¬ Fair (followedEnd twoFirstPages)) ∧
    Run followedStep (fun _ _ => True) (quietScans 4 300000)
        (firstPage ++ nextPage 2 ++ nextPage 3 ++ reapOne)
        (followedEnd (firstPage ++ nextPage 2 ++ nextPage 3 ++ reapOne)) ∧
      (followedEnd (firstPage ++ nextPage 2 ++ nextPage 3 ++ reapOne)).pagings =
        [⟨1, 480000, true⟩] ∧
      (followedEnd (firstPage ++ nextPage 2 ++ nextPage 3 ++ reapOne)).state.scans.entries = [] ∧
      ¬ Fair (followedEnd (firstPage ++ nextPage 2 ++ nextPage 3 ++ reapOne)) := by
  refine ⟨⟨Run.ofExecute rfl, rfl, ?_⟩, Run.ofExecute rfl, rfl, rfl, ?_⟩
  · intro hfair
    exact absurd (hfair.single 1) (by decide)
  · intro hfair
    have hsustained := hfair.kept ⟨1, 480000, true⟩ List.mem_cons_self ⟨rfl, by decide⟩
    obtain ⟨scan, hscan, -⟩ := hsustained.active
    cases hscan

end SentryWms.Snapshot
