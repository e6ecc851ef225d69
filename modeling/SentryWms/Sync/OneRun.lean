import SentryWms.Sync.SyncState

/-!
# One run at a time

The check for a running sync is a plain read, and the upsert does not look again. So two
workers that check one after the other both get a run id, and a worker whose transaction
was slow can be taken over before its run is an hour old. A completion is fenced by the
run id and never loses or repeats an error. In exactly the runs in which no commit of
`set_running_standalone` replaces a running row younger than the timeout, no run starts
while another is going.
-/

namespace SentryWms.Sync

open Transition

variable {store after : SyncStore}

/-! ## What holds in every run -/

/-- The count of errors in a row that may not exist yet. -/
def errorsOf (row : Option SyncState) : ℕ :=
  row.elim 0 SyncState.consecutiveErrors

/-- A running row carries a run that was returned and has not ended, and any other row
carries none. -/
def RowOf (store : SyncStore) (row : SyncState) : Prop :=
  (row.syncStatus = .running ∧
      ∃ start ∈ store.starts, row.runId = some start.runId ∧ start.runId ∉ store.ended) ∨
    row.syncStatus ≠ .running ∧ row.runId = none

/-- A write was made to the row as it is committed. -/
def WrittenFrom (store : SyncStore) (written : Written) : Prop :=
  match written.effect with
  | .started runId =>
      runId < store.nextRunId ∧ (∀ start ∈ store.starts, start.runId ≠ runId) ∧
        runId ∉ store.ended ∧ written.row.syncStatus = .running ∧
        written.row.runId = some runId ∧
        written.row.consecutiveErrors = errorsOf store.row
  | .succeeded runId =>
      ∃ row, store.row = some row ∧ row.runId = some runId ∧ written.row = finishSuccess row
  | .failed runId =>
      ∃ row, store.row = some row ∧ row.runId = some runId ∧
        written.row = finishError row.consecutiveErrors row
  | .reset runId =>
      ∃ row, store.row = some row ∧ row.runId = runId ∧ written.row = clearRunning row

/-- The count that a call has read is that of the row as long as the run owns it. -/
def ReadFrom (store : SyncStore) (runId currentErrors : ℕ) : Prop :=
  (∃ start ∈ store.starts, start.runId = runId) ∧
    ∀ row, store.row = some row → row.runId = some runId →
      row.consecutiveErrors = currentErrors

/-- The invariant of the workers. -/
structure Consistent (store : SyncStore) : Prop where
  row : ∀ {row}, store.row = some row → RowOf store row
  issued : ∀ {start}, start ∈ store.starts → start.runId < store.nextRunId
  ended : ∀ {runId}, runId ∈ store.ended → runId < store.nextRunId
  written : ∀ {written}, store.written = some written → WrittenFrom store written
  read : ∀ {txn runId currentErrors},
    store.calls txn = some (.errorRead runId currentErrors) →
      ReadFrom store runId currentErrors
  owner : ∀ completion ∈ store.completions, completion.owner = some completion.runId
  counted : errorsOf store.row = errorsSinceSuccess store.completions

variable {runId : ℕ} {row : SyncState}

theorem owned_eq_some :
    store.owned runId = some row ↔ store.row = some row ∧ row.runId = some runId := by
  simp [SyncStore.owned, Option.filter_eq_some_iff]

variable {txn : ℕ}

theorem calls_goto {other : ℕ} {stage : Option Stage} :
    (store.goto txn stage).calls other = if other = txn then stage else store.calls other :=
  rfl

theorem Consistent.goto (hconsistent : Consistent store) (txn : ℕ) {stage : Option Stage}
    (hstage : ∀ runId currentErrors, stage = some (.errorRead runId currentErrors) →
      ReadFrom store runId currentErrors) :
    Consistent (store.goto txn stage) where
  row := hconsistent.row
  issued := hconsistent.issued
  ended := hconsistent.ended
  written := hconsistent.written
  read := by
    intro other runId currentErrors hread
    rw [calls_goto] at hread
    split at hread
    · exact hstage runId currentErrors hread
    · exact hconsistent.read hread
  owner := hconsistent.owner
  counted := hconsistent.counted

theorem write_eq_some {effect : Effect} :
    store.write txn effect row = some after ↔ store.written = none ∧
      { store.goto txn (some .writing) with written := some ⟨txn, effect, row⟩ } = after := by
  unfold SyncStore.write
  cases store.written <;> simp

theorem Consistent.write (hconsistent : Consistent store) {effect : Effect}
    (hwrite : store.write txn effect row = some after)
    (hwritten : WrittenFrom store ⟨txn, effect, row⟩) : Consistent after := by
  obtain ⟨-, rfl⟩ := write_eq_some.mp hwrite
  have hmoved : Consistent (store.goto txn (some .writing)) :=
    hconsistent.goto txn (by rintro _ _ ⟨⟩)
  refine { hmoved with written := ?_ }
  rintro _ ⟨⟩
  exact hwritten

/-! ## Commits -/

theorem errorsSinceSuccess_failed (completion : Completion) (completions : List Completion)
    (hfailed : completion.failed = true) :
    errorsSinceSuccess (completion :: completions) = errorsSinceSuccess completions + 1 := by
  simp [errorsSinceSuccess, hfailed]

theorem errorsSinceSuccess_succeeded (completion : Completion)
    (completions : List Completion) (hfailed : completion.failed = false) :
    errorsSinceSuccess (completion :: completions) = 0 := by
  simp [errorsSinceSuccess, hfailed]

theorem Consistent.returned (hconsistent : Consistent store) (hrow : store.row = some row)
    (hrunId : row.runId = some runId) :
    row.syncStatus = .running ∧ ∃ start ∈ store.starts, start.runId = runId := by
  rcases hconsistent.row hrow with ⟨hrunning, start, hstart, hcarried, -⟩ | ⟨-, hnone⟩
  · rw [hrunId] at hcarried
    exact ⟨hrunning, start, hstart, (Option.some.inj hcarried).symm⟩
  · rw [hrunId] at hnone
    cases hnone

theorem commit_started (hconsistent : Consistent store) {written : Written}
    (hwritten : store.written = some written) (heffect : written.effect = .started runId) :
    Consistent (store.commit written) := by
  have hfrom := hconsistent.written hwritten
  rw [WrittenFrom, heffect] at hfrom
  obtain ⟨hissued, hfresh, hended, hrunning, hrunId, herrors⟩ := hfrom
  simp only [SyncStore.commit, heffect]
  constructor
  · rintro _ ⟨⟩
    exact .inl ⟨hrunning, _, List.mem_cons_self, hrunId, hended⟩
  · intro start hstart
    rcases List.mem_cons.mp hstart with rfl | hold
    · exact hissued
    · exact hconsistent.issued hold
  · exact hconsistent.ended
  · rintro _ ⟨⟩
  · intro txn runId' currentErrors hread
    dsimp only at hread
    rw [calls_goto] at hread
    split at hread
    · cases hread
    obtain ⟨⟨start, hstart, hreturned⟩, -⟩ := hconsistent.read hread
    refine ⟨⟨start, List.mem_cons_of_mem _ hstart, hreturned⟩, ?_⟩
    rintro _ ⟨⟩ hcarried
    rw [hrunId] at hcarried
    exact absurd (hreturned.trans (Option.some.inj hcarried).symm) (hfresh start hstart)
  · exact hconsistent.owner
  · exact herrors.trans hconsistent.counted

theorem commit_ends (hconsistent : Consistent store) {row' : SyncState}
    (hrow : store.row = some row) (txn : ℕ) {ended : List ℕ} {completions : List Completion}
    (hstatus : row'.syncStatus ≠ .running) (hrunId : row'.runId = none)
    (hended : ∀ runId ∈ ended, row.runId = some runId ∨ runId ∈ store.ended)
    (howner : ∀ completion ∈ completions, completion.owner = some completion.runId)
    (hcounted : row'.consecutiveErrors = errorsSinceSuccess completions) :
    Consistent
      { store.goto txn none with
        row := some row', written := none, ended := ended, completions := completions } := by
  constructor
  · rintro _ ⟨⟩
    exact .inr ⟨hstatus, hrunId⟩
  · exact hconsistent.issued
  · intro runId hmem
    rcases hended runId hmem with hcarried | hold
    · obtain ⟨-, start, hstart, rfl⟩ := hconsistent.returned hrow hcarried
      exact hconsistent.issued hstart
    · exact hconsistent.ended hold
  · rintro _ ⟨⟩
  · intro other runId currentErrors hread
    dsimp only at hread
    rw [calls_goto] at hread
    split at hread
    · cases hread
    refine ⟨(hconsistent.read hread).1, ?_⟩
    rintro _ ⟨⟩ hcarried
    rw [hrunId] at hcarried
    cases hcarried
  · exact howner
  · exact hcounted

theorem commit_consistent (hconsistent : Consistent store) {written : Written}
    (hwritten : store.written = some written) : Consistent (store.commit written) := by
  have hfrom := hconsistent.written hwritten
  have hcounted := hconsistent.counted
  cases heffect : written.effect with
  | started runId => exact commit_started hconsistent hwritten heffect
  | succeeded runId =>
      rw [WrittenFrom, heffect] at hfrom
      obtain ⟨row, hrow, hrunId, hnew⟩ := hfrom
      simp only [SyncStore.commit, heffect, hnew]
      apply commit_ends hconsistent hrow
      · exact SyncStatus.noConfusion
      · rfl
      · intro ended hended
        rcases List.mem_cons.mp hended with rfl | hold
        · exact .inl hrunId
        · exact .inr hold
      · intro completion hcompletion
        rcases List.mem_cons.mp hcompletion with rfl | hold
        · simp [SyncStore.complete, hrow, hrunId]
        · exact hconsistent.owner completion hold
      · rw [errorsSinceSuccess_succeeded _ _ rfl]
        rfl
  | failed runId =>
      rw [WrittenFrom, heffect] at hfrom
      obtain ⟨row, hrow, hrunId, hnew⟩ := hfrom
      simp only [SyncStore.commit, heffect, hnew]
      apply commit_ends hconsistent hrow
      · unfold finishError
        split <;> exact SyncStatus.noConfusion
      · rfl
      · intro ended hended
        rcases List.mem_cons.mp hended with rfl | hold
        · exact .inl hrunId
        · exact .inr hold
      · intro completion hcompletion
        rcases List.mem_cons.mp hcompletion with rfl | hold
        · simp [SyncStore.complete, hrow, hrunId]
        · exact hconsistent.owner completion hold
      · rw [errorsSinceSuccess_failed _ _ rfl, ← hcounted, hrow]
        rfl
  | reset runId =>
      rw [WrittenFrom, heffect] at hfrom
      obtain ⟨row, hrow, hrunId, hnew⟩ := hfrom
      simp only [SyncStore.commit, heffect, hnew]
      apply commit_ends hconsistent hrow
      · exact SyncStatus.noConfusion
      · rfl
      · intro ended hended
        rcases List.mem_append.mp hended with hmem | hold
        · rw [hrunId]
          exact .inl (Option.mem_toList.mp hmem)
        · exact .inr hold
      · exact hconsistent.owner
      · rw [hrow] at hcounted
        exact hcounted

/-! ## Steps -/

theorem advance_consistent (hconsistent : Consistent store) {stage : Stage}
    (hstage : store.calls txn = some stage) (hstep : advance store txn stage = some after) :
    Consistent after := by
  cases stage with
  | checked startedAt row =>
      cases hstep
      apply hconsistent.goto
      intro runId currentErrors hread
      split at hread <;> cases hread
  | starting startedAt =>
      have hnext : Consistent { store with nextRunId := store.nextRunId + 1 } := by
        refine { hconsistent with
          issued := fun hstart => Nat.lt_succ_of_lt (hconsistent.issued hstart)
          ended := fun hended => Nat.lt_succ_of_lt (hconsistent.ended hended)
          written := ?_ }
        intro written hwritten
        have hnone := (write_eq_some.mp hstep).1
        rw [hnone] at hwritten
        cases hwritten
      refine hnext.write hstep ⟨Nat.lt_succ_self _, ?_, ?_, ?_, ?_, ?_⟩
      · intro start hstart
        exact Nat.ne_of_lt (hconsistent.issued hstart)
      · intro hended
        exact Nat.lt_irrefl _ (hconsistent.ended hended)
      · cases store.row <;> rfl
      · cases store.row <;> rfl
      · cases store.row <;> rfl
  | errorRead runId currentErrors =>
      rw [advance] at hstep
      split at hstep
      · cases hstep
        exact hconsistent.goto txn (by rintro _ _ ⟨⟩)
      next row howned =>
        obtain ⟨hrow, hrunId⟩ := owned_eq_some.mp howned
        have herrors := (hconsistent.read hstage).2 row hrow hrunId
        rw [← herrors] at hstep
        exact hconsistent.write hstep ⟨row, hrow, hrunId, rfl⟩
  | writing =>
      rw [advance] at hstep
      split at hstep
      · cases hstep
      next written hwritten =>
        split at hstep
        · cases hstep
          exact commit_consistent hconsistent hwritten
        · cases hstep

theorem crash_consistent (hconsistent : Consistent store) (txn : ℕ) :
    Consistent (crash store txn) := by
  have hmoved : Consistent (store.goto txn none) :=
    hconsistent.goto txn (by rintro _ _ ⟨⟩)
  refine { hmoved with written := ?_ }
  intro written hwritten
  exact hconsistent.written (Option.filter_eq_some_iff.mp hwritten).1

variable {event : Event}

theorem step_consistent (hconsistent : Consistent store)
    (hstep : step store event = some after) : Consistent after := by
  cases event with
  | setRunning txn =>
      rw [step, Option.ite_none_right_eq_some] at hstep
      cases hstep.2
      exact hconsistent.goto txn (by rintro _ _ ⟨⟩)
  | setSuccess txn runId =>
      rw [step, Option.ite_none_right_eq_some, setSuccess] at hstep
      obtain ⟨-, hstep⟩ := hstep
      split at hstep
      · cases hstep
        exact hconsistent
      next row howned =>
        obtain ⟨hrow, hrunId⟩ := owned_eq_some.mp howned
        exact hconsistent.write hstep ⟨row, hrow, hrunId, rfl⟩
  | setError txn runId =>
      rw [step, Option.ite_none_right_eq_some] at hstep
      cases hstep.2
      unfold setError
      split
      · exact hconsistent
      next row howned =>
        obtain ⟨hrow, hrunId⟩ := owned_eq_some.mp howned
        apply hconsistent.goto
        rintro _ _ ⟨⟩
        refine ⟨(hconsistent.returned hrow hrunId).2, ?_⟩
        intro row' hrow' _
        rw [hrow] at hrow'
        cases hrow'
        rfl
  | resetRunning txn =>
      rw [step, Option.ite_none_right_eq_some, resetRunning] at hstep
      obtain ⟨-, hstep⟩ := hstep
      split at hstep
      · cases hstep
        exact hconsistent
      next row hrow =>
        split at hstep
        · exact hconsistent.write hstep ⟨row, hrow, rfl, rfl⟩
        · cases hstep
          exact hconsistent
  | advance txn =>
      obtain ⟨stage, hstage, hadvance⟩ := Option.bind_eq_some_iff.mp hstep
      exact advance_consistent hconsistent hstage hadvance
  | crash txn =>
      cases hstep
      exact crash_consistent hconsistent txn
  | tick elapsed =>
      cases hstep
      exact { hconsistent with }

/-! ## Which runs start alone -/

/-- A commit of `set_running_standalone` does not replace a running row that was itself
committed less than the timeout ago. -/
def ReplacesNoFreshRun (store : SyncStore) : Event → Prop
  | .advance txn =>
      ∀ written runId, store.calls txn = some .writing → store.written = some written →
        written.txn = txn → written.effect = .started runId →
        ∀ row, store.row = some row → row.syncStatus = .running →
          ∀ start ∈ store.starts, row.runId = some start.runId →
            start.returnedAt + runningTimeout ≤ store.now
  | _ => True

def OnlyOwnerGoes (store : SyncStore) : Prop :=
  ∀ start ∈ store.starts, store.Live start →
    ∃ row, store.row = some row ∧ row.syncStatus = .running ∧ row.runId = some start.runId

theorem liveRuns_eq_nil : store.liveRuns = [] ↔ ∀ start ∈ store.starts, ¬ store.Live start := by
  simp [SyncStore.liveRuns, List.filter_eq_nil_iff]

theorem step_cases (hstep : step store event = some after) :
    (after.row = store.row ∧ after.starts = store.starts ∧ after.ended = store.ended ∧
        store.now ≤ after.now) ∨
      ∃ txn written, event = .advance txn ∧ store.calls txn = some .writing ∧
        store.written = some written ∧ written.txn = txn ∧ after = store.commit written := by
  have hwrites : ∀ {base : SyncStore} {txn effect row},
      base.write txn effect row = some after → base.row = store.row →
      base.starts = store.starts → base.ended = store.ended → base.now = store.now →
      after.row = store.row ∧ after.starts = store.starts ∧ after.ended = store.ended ∧
        store.now ≤ after.now := by
    intro base txn effect row hwrite hrow hstarts hended hnow
    obtain ⟨-, rfl⟩ := write_eq_some.mp hwrite
    exact ⟨hrow, hstarts, hended, hnow.ge⟩
  cases event with
  | setRunning txn =>
      rw [step, Option.ite_none_right_eq_some] at hstep
      cases hstep.2
      exact .inl ⟨rfl, rfl, rfl, le_rfl⟩
  | setSuccess txn runId =>
      rw [step, Option.ite_none_right_eq_some, setSuccess] at hstep
      obtain ⟨-, hstep⟩ := hstep
      split at hstep
      · cases hstep
        exact .inl ⟨rfl, rfl, rfl, le_rfl⟩
      · exact .inl (hwrites hstep rfl rfl rfl rfl)
  | setError txn runId =>
      rw [step, Option.ite_none_right_eq_some] at hstep
      cases hstep.2
      unfold setError
      split <;> exact .inl ⟨rfl, rfl, rfl, le_rfl⟩
  | resetRunning txn =>
      rw [step, Option.ite_none_right_eq_some, resetRunning] at hstep
      obtain ⟨-, hstep⟩ := hstep
      split at hstep
      · cases hstep
        exact .inl ⟨rfl, rfl, rfl, le_rfl⟩
      split at hstep
      · exact .inl (hwrites hstep rfl rfl rfl rfl)
      · cases hstep
        exact .inl ⟨rfl, rfl, rfl, le_rfl⟩
  | advance txn =>
      obtain ⟨stage, hstage, hadvance⟩ := Option.bind_eq_some_iff.mp hstep
      cases stage with
      | checked startedAt row =>
          cases hadvance
          exact .inl ⟨rfl, rfl, rfl, le_rfl⟩
      | starting startedAt => exact .inl (hwrites hadvance rfl rfl rfl rfl)
      | errorRead runId currentErrors =>
          rw [advance] at hadvance
          split at hadvance
          · cases hadvance
            exact .inl ⟨rfl, rfl, rfl, le_rfl⟩
          · exact .inl (hwrites hadvance rfl rfl rfl rfl)
      | writing =>
          rw [advance] at hadvance
          split at hadvance
          · cases hadvance
          next written hwritten =>
            split at hadvance
            next htxn =>
              cases hadvance
              exact .inr ⟨txn, written, rfl, hstage, hwritten, htxn, rfl⟩
            · cases hadvance
  | crash txn =>
      cases hstep
      exact .inl ⟨rfl, rfl, rfl, le_rfl⟩
  | tick elapsed =>
      cases hstep
      exact .inl ⟨rfl, rfl, rfl, Nat.le_add_right _ _⟩

variable {start : Start}

theorem Live.anti (hended : after.ended = store.ended) (hnow : store.now ≤ after.now)
    (hlive : after.Live start) :
    store.Live start := by
  obtain ⟨hfresh, hgoing⟩ := hlive
  rw [hended] at hgoing
  exact ⟨hnow.trans_lt hfresh, hgoing⟩

theorem onlyOwnerGoes_of_ends (honly : OnlyOwnerGoes store) (hrow : store.row = some row)
    (hstarts : after.starts = store.starts) (hnow : after.now = store.now)
    (hended : ∀ runId, row.runId = some runId ∨ runId ∈ store.ended → runId ∈ after.ended) :
    OnlyOwnerGoes after := by
  intro start hstart hlive
  rw [hstarts] at hstart
  have hbefore : store.Live start := by
    refine ⟨hnow ▸ hlive.1, fun hold => hlive.2 (hended _ (.inr hold))⟩
  obtain ⟨row', hrow', -, hrunId⟩ := honly start hstart hbefore
  rw [hrow] at hrow'
  cases hrow'
  exact absurd (hended _ (.inl hrunId)) hlive.2

theorem step_alone (hconsistent : Consistent store) (honly : OnlyOwnerGoes store)
    (hguard : ReplacesNoFreshRun store event) (hstep : step store event = some after) :
    OnlyOwnerGoes after ∧
      ((∀ start ∈ store.starts, start.others = []) →
        ∀ start ∈ after.starts, start.others = []) := by
  rcases step_cases hstep with ⟨hrow, hstarts, hended, hnow⟩ |
    ⟨txn, written, rfl, hcall, hwritten, htxn, rfl⟩
  · refine ⟨?_, by rw [hstarts]; exact id⟩
    intro start hstart hlive
    rw [hstarts] at hstart
    rw [hrow]
    exact honly start hstart (Live.anti hended hnow hlive)
  have hfrom := hconsistent.written hwritten
  cases heffect : written.effect with
  | started runId =>
      rw [WrittenFrom, heffect] at hfrom
      obtain ⟨-, -, -, hrunning, hrunId, -⟩ := hfrom
      have hnone : ∀ start ∈ store.starts, ¬ store.Live start := by
        intro start hstart hlive
        obtain ⟨row, hrow, hstatus, hcarried⟩ := honly start hstart hlive
        have hold := hguard written runId hcall hwritten htxn heffect row hrow hstatus start
          hstart hcarried
        exact absurd hlive.1 (Nat.not_lt_of_le hold)
      simp only [SyncStore.commit, heffect]
      constructor
      · intro start hstart hlive
        rcases List.mem_cons.mp hstart with rfl | hold
        · exact ⟨written.row, rfl, hrunning, hrunId⟩
        · exact absurd hlive (hnone start hold)
      · intro halone start hstart
        rcases List.mem_cons.mp hstart with rfl | hold
        · exact liveRuns_eq_nil.mpr hnone
        · exact halone start hold
  | succeeded runId =>
      rw [WrittenFrom, heffect] at hfrom
      obtain ⟨row, hrow, hrunId, -⟩ := hfrom
      simp only [SyncStore.commit, heffect]
      refine ⟨onlyOwnerGoes_of_ends honly hrow rfl rfl ?_, id⟩
      rintro ended (hcarried | hold)
      · rw [hrunId] at hcarried
        cases hcarried
        exact List.mem_cons_self
      · exact List.mem_cons_of_mem _ hold
  | failed runId =>
      rw [WrittenFrom, heffect] at hfrom
      obtain ⟨row, hrow, hrunId, -⟩ := hfrom
      simp only [SyncStore.commit, heffect]
      refine ⟨onlyOwnerGoes_of_ends honly hrow rfl rfl ?_, id⟩
      rintro ended (hcarried | hold)
      · rw [hrunId] at hcarried
        cases hcarried
        exact List.mem_cons_self
      · exact List.mem_cons_of_mem _ hold
  | reset runId =>
      rw [WrittenFrom, heffect] at hfrom
      obtain ⟨row, hrow, hrunId, -⟩ := hfrom
      simp only [SyncStore.commit, heffect]
      refine ⟨onlyOwnerGoes_of_ends honly hrow rfl rfl ?_, id⟩
      rintro ended (hcarried | hold)
      · rw [hrunId] at hcarried
        exact List.mem_append_left _ (Option.mem_toList.mpr hcarried)
      · exact List.mem_append_right _ hold

theorem step_starts (hstep : step store event = some after)
    (hstart : start ∈ store.starts) : start ∈ after.starts := by
  rcases step_cases hstep with ⟨-, hstarts, -, -⟩ | ⟨txn, written, -, -, -, -, rfl⟩
  · rw [hstarts]
    exact hstart
  · unfold SyncStore.commit
    cases written.effect with
    | started runId => exact List.mem_cons_of_mem _ hstart
    | succeeded runId => exact hstart
    | failed runId => exact hstart
    | reset runId => exact hstart

theorem replacesNoFreshRun_of_alone (hconsistent : Consistent store)
    (hstep : step store event = some after)
    (halone : ∀ start ∈ after.starts, start.others = []) :
    ReplacesNoFreshRun store event := by
  cases event with
  | advance txn =>
      intro written runId hcall hwritten htxn heffect row hrow hrunning start hstart hcarried
      have hafter : after = store.commit written := by
        rw [step, hcall, Option.bind_some, advance, hwritten] at hstep
        simp only [htxn, if_pos] at hstep
        exact (Option.some.inj hstep).symm
      have hnone : store.liveRuns = [] := by
        rw [hafter] at halone
        simp only [SyncStore.commit, heffect] at halone
        exact halone _ List.mem_cons_self
      have hgoing : start.runId ∉ store.ended := by
        rcases hconsistent.row hrow with ⟨-, start', -, hcarried', hgoing'⟩ | ⟨hnot, -⟩
        · rw [hcarried] at hcarried'
          rw [Option.some.inj hcarried']
          exact hgoing'
        · exact absurd hrunning hnot
      have hdead := liveRuns_eq_nil.mp hnone start hstart
      exact Nat.le_of_not_lt fun hfresh => hdead ⟨hfresh, hgoing⟩
  | _ => trivial

/-! ## Runs -/

/-- No call is in progress. A running row carries the one run that has been returned, and
any other row carries none. -/
structure Begun (store : SyncStore) : Prop where
  unlocked : store.written = none
  quiet : ∀ txn, store.calls txn = none
  open_ended : store.ended = []
  running : ∀ row, store.row = some row → row.syncStatus = .running →
    ∃ start ∈ store.starts, row.runId = some start.runId
  resting : ∀ row, store.row = some row → row.syncStatus ≠ .running → row.runId = none
  starts : ∀ start ∈ store.starts, start.runId < store.nextRunId ∧ start.others = [] ∧
    ∃ row, store.row = some row ∧ row.syncStatus = .running ∧ row.runId = some start.runId
  owner : ∀ completion ∈ store.completions, completion.owner = some completion.runId
  counted : errorsOf store.row = errorsSinceSuccess store.completions

theorem Begun.consistent (hbegun : Begun store) : Consistent store := by
  constructor
  · intro row hrow
    by_cases hrunning : row.syncStatus = .running
    · obtain ⟨start, hstart, hrunId⟩ := hbegun.running row hrow hrunning
      refine .inl ⟨hrunning, start, hstart, hrunId, ?_⟩
      rw [hbegun.open_ended]
      exact List.not_mem_nil
    · exact .inr ⟨hrunning, hbegun.resting row hrow hrunning⟩
  · exact fun hstart => (hbegun.starts _ hstart).1
  · rw [hbegun.open_ended]
    rintro _ ⟨⟩
  · rw [hbegun.unlocked]
    rintro _ ⟨⟩
  · intro txn runId currentErrors hread
    rw [hbegun.quiet txn] at hread
    cases hread
  · exact hbegun.owner
  · exact hbegun.counted

theorem Begun.onlyOwnerGoes (hbegun : Begun store) : OnlyOwnerGoes store :=
  fun start hstart _ => (hbegun.starts start hstart).2.2

theorem starts_of_run {first last : SyncStore} {events : List Event}
    {guard : SyncStore → Event → Prop} (hrun : Run step guard first events last)
    (hstart : start ∈ first.starts) : start ∈ last.starts :=
  hrun.invariant (fun store => start ∈ store.starts)
    (fun hmem _ hstep => step_starts hstep hmem) hstart

/-- The runs in which no run starts while another is going are those whose steps all meet
the condition. In every run the errors are counted and only the owner completes. -/
theorem oneOwner_iff {first last : SyncStore} {events : List Event} (hbegun : Begun first)
    (hrun : Run step (fun _ _ => True) first events last) :
    OneOwner last ↔ Run step ReplacesNoFreshRun first events last := by
  have hlast : Consistent last :=
    hrun.invariant Consistent (fun hinv _ hstep => step_consistent hinv hstep)
      hbegun.consistent
  constructor
  · intro hone
    have hfirst := hbegun.consistent
    clear hbegun
    induction hrun with
    | nil store => exact Run.nil store
    | cons hguard hstep rest ih =>
        refine Run.cons ?_ hstep (ih hlast hone (step_consistent hfirst hstep))
        apply replacesNoFreshRun_of_alone hfirst hstep
        exact fun start hstart => hone.alone start (starts_of_run rest hstart)
  · intro hguarded
    have halone := hguarded.invariant
      (fun store => Consistent store ∧ OnlyOwnerGoes store ∧
        ∀ start ∈ store.starts, start.others = [])
      (fun ⟨hinv, honly, hnone⟩ hguard hstep =>
        have hnext := step_alone hinv honly hguard hstep
        ⟨step_consistent hinv hstep, hnext.1, hnext.2 hnone⟩)
      ⟨hbegun.consistent, hbegun.onlyOwnerGoes,
        fun start hstart => (hbegun.starts start hstart).2.1⟩
    exact ⟨halone.2.2, hlast.owner, hlast.counted⟩

def neverRun : SyncStore where
  row := none
  written := none
  calls := fun _ => none
  now := 0
  nextRunId := 0
  starts := []
  ended := []
  completions := []

theorem neverRun_begun : Begun neverRun := by
  constructor <;> simp [neverRun, errorsOf, errorsSinceSuccess]

/-- A worker dies in its sync and is taken over after an hour; it comes back and its
completion is refused, and that of its successor is applied. -/
def takeoverRun : List Event :=
  [.setRunning 1, .advance 1, .advance 1, .advance 1, .tick runningTimeout,
    .setRunning 2, .advance 2, .advance 2, .advance 2, .setError 1 0, .setError 2 1,
    .advance 2, .advance 2]

def takeoverEnd : SyncStore :=
  (execute step (fun _ _ => True) neverRun takeoverRun).getD neverRun

theorem oneOwner_iff_takeoverRun :
    (takeoverEnd.starts.length = 2 ∧ takeoverEnd.completions = [⟨true, 1, some 1⟩]) ∧
      (OneOwner takeoverEnd ↔
        Run step ReplacesNoFreshRun neverRun takeoverRun takeoverEnd) := by
  have hbegun : Begun neverRun := neverRun_begun
  have hrun : Run step (fun _ _ => True) neverRun takeoverRun takeoverEnd :=
    Run.ofExecute rfl
  exact ⟨⟨rfl, rfl⟩, oneOwner_iff hbegun hrun⟩

/-- Two workers check one after the other and both start. -/
def racingRun : List Event :=
  [.setRunning 1, .setRunning 2, .advance 1, .advance 1, .advance 1, .advance 2, .advance 2,
    .advance 2]

def racingEnd : SyncStore :=
  (execute step (fun _ _ => True) neverRun racingRun).getD neverRun

/-- The second worker starts while the run of the first one is going. -/
theorem two_workers_run_at_once :
    ∃ last, Begun neverRun ∧ Run step (fun _ _ => True) neverRun racingRun last ∧
      ¬ OneOwner last := by
  refine ⟨racingEnd, neverRun_begun, Run.ofExecute rfl, ?_⟩
  intro hone
  have hstarts : racingEnd.starts = [⟨1, 0, [0]⟩, ⟨0, 0, []⟩] := rfl
  have halone := hone.alone ⟨1, 0, [0]⟩ (by rw [hstarts]; exact List.mem_cons_self)
  cases halone

end SentryWms.Sync
