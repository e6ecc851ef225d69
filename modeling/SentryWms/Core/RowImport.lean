import Mathlib

/-!
# Importing rows in one transaction

The records of a file are imported one after the other in one transaction. A record is
imported, or skipped with a message, in which case what it has written so far stays in the
transaction; anything else that goes wrong ends the import and nothing is committed. If no
record is skipped after a write, the transaction holds what the imported records alone give.
-/

namespace RowImport

universe u v

/-- What comes of a record, with the state of the transaction. -/
inductive RowResult (State : Type u) where
  | imported (state : State)
  | skipped (message : String) (state : State)
  | raised

namespace RowResult

variable {State : Type u} {Row : Type v} {state : State} {next : RowResult State}

/-- A statement that the database may refuse. -/
def accept (accepted : Bool) (next : RowResult State) : RowResult State :=
  if accepted then next else raised

/-- A check that skips the record. -/
def skipIf (cond : Bool) (message : String) (state : State) (next : RowResult State) :
    RowResult State :=
  if cond then skipped message state else next

/-- A row that is looked up, without which the record is skipped. -/
def orSkip (found : Option Row) (message : String) (state : State)
    (next : Row → RowResult State) : RowResult State :=
  match found with
  | none => skipped message state
  | some row => next row

/-- A value that the database makes of another one, unless it refuses it. -/
def orRaise (value : Option Row) (next : Row → RowResult State) : RowResult State :=
  match value with
  | none => raised
  | some row => next row

/-- A record that is read under its schema; where it does not meet it, it is skipped. -/
def orReject (read : Except String Row) (state : State) (next : Row → RowResult State) :
    RowResult State :=
  match read with
  | .error message => skipped message state
  | .ok row => next row

@[simp]
theorem accept_eq_raised {accepted : Bool} :
    accept accepted next = raised ↔ accepted = false ∨ next = raised := by
  cases accepted <;> simp [accept]

@[simp]
theorem skipIf_eq_raised {cond : Bool} {message : String} :
    skipIf cond message state next = raised ↔ cond = false ∧ next = raised := by
  cases cond <;> simp [skipIf]

@[simp]
theorem orSkip_eq_raised {found : Option Row} {message : String}
    {next : Row → RowResult State} :
    orSkip found message state next = raised ↔ ∃ row, found = some row ∧ next row = raised := by
  cases found <;> simp [orSkip]

@[simp]
theorem orRaise_eq_raised {value : Option Row} {next : Row → RowResult State} :
    orRaise value next = raised ↔ ∀ row, value = some row → next row = raised := by
  cases value <;> simp [orRaise]

@[simp]
theorem orReject_eq_raised {read : Except String Row} {next : Row → RowResult State} :
    orReject read state next = raised ↔ ∃ row, read = .ok row ∧ next row = raised := by
  cases read <;> simp [orReject]

variable {after : State}

@[simp]
theorem accept_eq_imported {accepted : Bool} :
    accept accepted next = imported after ↔ accepted = true ∧ next = imported after := by
  cases accepted <;> simp [accept]

@[simp]
theorem skipIf_eq_imported {cond : Bool} {message : String} :
    skipIf cond message state next = imported after ↔ cond = false ∧ next = imported after := by
  cases cond <;> simp [skipIf]

@[simp]
theorem orSkip_eq_imported {found : Option Row} {message : String}
    {next : Row → RowResult State} :
    orSkip found message state next = imported after ↔
      ∃ row, found = some row ∧ next row = imported after := by
  cases found <;> simp [orSkip]

@[simp]
theorem orRaise_eq_imported {value : Option Row} {next : Row → RowResult State} :
    orRaise value next = imported after ↔ ∃ row, value = some row ∧ next row = imported after := by
  cases value <;> simp [orRaise]

@[simp]
theorem orReject_eq_imported {read : Except String Row} {next : Row → RowResult State} :
    orReject read state next = imported after ↔
      ∃ row, read = .ok row ∧ next row = imported after := by
  cases read <;> simp [orReject]

/-- A record that is skipped leaves the state as it was. -/
def Traceless (state : State) (result : RowResult State) : Prop :=
  ∀ message after, result = skipped message after → after = state

theorem traceless_imported (after : State) : Traceless state (imported after) := nofun

theorem traceless_raised : Traceless state raised := nofun

theorem traceless_skipped (message : String) : Traceless state (skipped message state) := by
  intro _ _ heq
  cases heq
  rfl

theorem Traceless.accept {accepted : Bool} (hnext : Traceless state next) :
    Traceless state (RowResult.accept accepted next) := by
  cases accepted
  · exact traceless_raised
  · exact hnext

theorem Traceless.skipIf {cond : Bool} {message : String} (hnext : Traceless state next) :
    Traceless state (RowResult.skipIf cond message state next) := by
  cases cond
  · exact hnext
  · exact traceless_skipped message

theorem Traceless.orSkip {found : Option Row} {message : String}
    {next : Row → RowResult State} (hnext : ∀ row, Traceless state (next row)) :
    Traceless state (RowResult.orSkip found message state next) := by
  cases found
  · exact traceless_skipped message
  · exact hnext _

theorem Traceless.orRaise {value : Option Row} {next : Row → RowResult State}
    (hnext : ∀ row, Traceless state (next row)) :
    Traceless state (RowResult.orRaise value next) := by
  cases value
  · exact traceless_raised
  · exact hnext _

theorem Traceless.orReject {read : Except String Row} {next : Row → RowResult State}
    (hnext : ∀ row, Traceless state (next row)) :
    Traceless state (RowResult.orReject read state next) := by
  cases read
  · exact traceless_skipped _
  · exact hnext _

end RowResult

/-! ## Files -/

variable {State : Type u} {Record : Type v}

/-- The transaction, the records imported so far, and the rows skipped. -/
structure Progress (State : Type u) where
  state : State
  imported : ℕ
  errors : List (ℕ × String)

def importRow (step : State → Record → RowResult State) (progress : Progress State)
    (entry : Record × ℕ) : Option (Progress State) :=
  match step progress.state entry.1 with
  | .imported state => some { progress with state, imported := progress.imported + 1 }
  | .skipped message state =>
      some { progress with state, errors := progress.errors ++ [(entry.2, message)] }
  | .raised => none

def importRows (step : State → Record → RowResult State) (state : State)
    (records : List Record) : Option (Progress State) :=
  (records.zipIdx 1).foldlM (importRow step) ⟨state, 0, []⟩

def after (step : State → Record → RowResult State) (state : State) (record : Record) : State :=
  match step state record with
  | .imported state => state
  | .skipped _ state => state
  | .raised => state

def NoneRefused (step : State → Record → RowResult State) (Refused : State → Record → Prop) :
    State → List Record → Prop
  | _, [] => True
  | state, record :: records =>
      ¬ Refused state record ∧ NoneRefused step Refused (after step state record) records

def kept (records : List (Record × ℕ)) (errors : List (ℕ × String)) : List Record :=
  (records.filter fun entry => !(errors.map Prod.fst).contains entry.2).map Prod.fst

/-- Every record is imported or reported under its row, and the state is what the imported
records alone give, in their order. -/
structure Isolated (step : State → Record → RowResult State) (state : State)
    (records : List Record) (progress : Progress State) : Prop where
  total : progress.imported + progress.errors.length = records.length
  imported : progress.imported = (kept (records.zipIdx 1) progress.errors).length
  rows : (progress.errors.map Prod.fst).Sublist ((records.zipIdx 1).map Prod.snd)
  effect : importRows step state (kept (records.zipIdx 1) progress.errors) =
    some ⟨progress.state, progress.imported, []⟩

section Files

variable {step : State → Record → RowResult State} {Refused : State → Record → Prop}
  {state : State} {records : List Record} {progress final : Progress State}

theorem foldlM_importRow_isSome_iff
    (hrefused : ∀ state record, step state record = .raised ↔ Refused state record)
    (entries : List (Record × ℕ)) (progress : Progress State) :
    (entries.foldlM (importRow step) progress).isSome = true ↔
      NoneRefused step Refused progress.state (entries.map Prod.fst) := by
  induction entries generalizing progress with
  | nil => exact iff_of_true rfl trivial
  | cons entry entries ih =>
      rw [List.foldlM_cons, List.map_cons, NoneRefused, ← hrefused, after, importRow]
      cases hstep : step progress.state entry.1 with
      | imported state => simpa using ih _
      | skipped message state => simpa using ih _
      | raised => simp

theorem importRows_isSome_iff
    (hrefused : ∀ state record, step state record = .raised ↔ Refused state record) :
    (importRows step state records).isSome = true ↔ NoneRefused step Refused state records := by
  rw [importRows, foldlM_importRow_isSome_iff hrefused, List.zipIdx_map_fst]

/-! ### What the imported records alone give -/

/-- Import records of which none may be skipped. -/
def importAll (step : State → Record → RowResult State) (state : State) :
    List Record → Option State
  | [] => some state
  | record :: records =>
      match step state record with
      | .imported state => importAll step state records
      | _ => none

theorem foldlM_importRow_of_importAll {entries : List (Record × ℕ)} {reached : State}
    (hall : importAll step progress.state (entries.map Prod.fst) = some reached) :
    entries.foldlM (importRow step) progress =
      some { progress with state := reached, imported := progress.imported + entries.length } := by
  induction entries generalizing progress with
  | nil =>
      cases hall
      rfl
  | cons entry entries ih =>
      rw [List.map_cons, importAll] at hall
      cases hstep : step progress.state entry.1 with
      | imported state =>
          rw [hstep] at hall
          simp only [List.foldlM_cons, importRow, hstep]
          rw [Option.bind_eq_bind, Option.bind_some, ih hall, List.length_cons,
            Nat.add_right_comm, Nat.add_assoc]
      | skipped message state => simp [hstep] at hall
      | raised => simp [hstep] at hall

theorem importRows_of_importAll {reached : State}
    (hall : importAll step state records = some reached) :
    importRows step state records = some ⟨reached, records.length, []⟩ := by
  have hentries : importAll step state ((records.zipIdx 1).map Prod.fst) = some reached := by
    rwa [List.zipIdx_map_fst]
  have hfold := @foldlM_importRow_of_importAll _ _ step ⟨state, 0, []⟩ _ _ hentries
  rwa [List.length_zipIdx, Nat.zero_add] at hfold

theorem kept_cons_of_not_mem {entry : Record × ℕ} {entries : List (Record × ℕ)}
    {errors : List (ℕ × String)} (hrow : entry.2 ∉ errors.map Prod.fst) :
    kept (entry :: entries) errors = entry.1 :: kept entries errors := by
  rw [kept, List.filter_cons_of_pos (by simpa using hrow), List.map_cons, kept]

theorem kept_cons_self {record : Record} {row : ℕ} {message : String}
    {entries : List (Record × ℕ)} {errors : List (ℕ × String)}
    (hrow : row ∉ entries.map Prod.snd) :
    kept ((record, row) :: entries) ((row, message) :: errors) = kept entries errors := by
  rw [kept, List.filter_cons_of_neg (by simp), kept]
  refine congrArg _ (List.filter_congr fun entry hentry => ?_)
  have hne : entry.2 ≠ row := fun heq => hrow (heq ▸ List.mem_map_of_mem hentry)
  simp [hne]

/-- What an import adds to the errors and to the count, and what the records that it kept
give alone. -/
theorem foldlM_importRow_kept
    (htraceless : ∀ state record, (step state record).Traceless state)
    {entries : List (Record × ℕ)} (hnodup : (entries.map Prod.snd).Nodup)
    (hrun : entries.foldlM (importRow step) progress = some final) :
    ∃ errors, final.errors = progress.errors ++ errors ∧
      (errors.map Prod.fst).Sublist (entries.map Prod.snd) ∧
      final.imported = progress.imported + (kept entries errors).length ∧
      (kept entries errors).length + errors.length = entries.length ∧
      importAll step progress.state (kept entries errors) = some final.state := by
  induction entries generalizing progress with
  | nil =>
      cases hrun
      exact ⟨[], by simp, by simp, by simp [kept], by simp [kept], rfl⟩
  | cons entry entries ih =>
      obtain ⟨record, row⟩ := entry
      rw [List.map_cons, List.nodup_cons] at hnodup
      obtain ⟨hrow, hrest⟩ := hnodup
      rw [List.foldlM_cons, importRow] at hrun
      cases hstep : step progress.state record with
      | imported state =>
          simp only [hstep, Option.bind_eq_bind, Option.bind_some] at hrun
          obtain ⟨errors, herrors, hrows, hcount, htotal, hall⟩ := ih hrest hrun
          have hkept : kept ((record, row) :: entries) errors = record :: kept entries errors :=
            kept_cons_of_not_mem fun hmem => hrow (hrows.subset hmem)
          refine ⟨errors, herrors, hrows.cons _, ?_, ?_, ?_⟩
          · rw [hcount, hkept, List.length_cons, Nat.add_right_comm, Nat.add_assoc]
          · rw [hkept, List.length_cons, List.length_cons]
            omega
          · rwa [hkept, importAll, hstep]
      | skipped message state =>
          simp only [hstep, Option.bind_eq_bind, Option.bind_some] at hrun
          obtain rfl := htraceless _ _ message state hstep
          obtain ⟨errors, herrors, hrows, hcount, htotal, hall⟩ := ih hrest hrun
          have hkept : kept ((record, row) :: entries) ((row, message) :: errors) =
              kept entries errors := kept_cons_self hrow
          refine ⟨(row, message) :: errors, ?_, hrows.cons_cons _, ?_, ?_, ?_⟩
          · rw [herrors, List.append_assoc, List.singleton_append]
          · rw [hkept, hcount]
          · rw [hkept, List.length_cons, List.length_cons]
            omega
          · rwa [hkept]
      | raised => simp [hstep] at hrun

theorem nodup_rows : ((records.zipIdx 1).map Prod.snd).Nodup := by
  rw [List.zipIdx_map_snd]
  exact List.nodup_range' ..

/-- Where records that are skipped leave no trace, an import that ends is what the imported
records alone give. -/
theorem importRows_isolated
    (htraceless : ∀ state record, (step state record).Traceless state)
    (hrun : importRows step state records = some progress) :
    Isolated step state records progress := by
  obtain ⟨errors, herrors, hrows, hcount, htotal, hall⟩ :=
    foldlM_importRow_kept htraceless nodup_rows hrun
  rw [List.nil_append] at herrors
  subst herrors
  rw [Nat.zero_add] at hcount
  rw [List.length_zipIdx] at htotal
  exact
    { total := hcount ▸ htotal
      imported := hcount
      rows := hrows
      effect := by rw [importRows_of_importAll hall, hcount] }

/-! ### What an import leaves -/

/-- What every imported record keeps, an import keeps. -/
theorem importRows_invariant (Inv : State → Prop)
    (htraceless : ∀ state record, (step state record).Traceless state)
    (hkeeps : ∀ {state record after}, step state record = .imported after → Inv state → Inv after)
    (hrun : importRows step state records = some progress) (hstart : Inv state) :
    Inv progress.state := by
  obtain ⟨errors, -, -, -, -, hall⟩ := foldlM_importRow_kept htraceless nodup_rows hrun
  clear hrun
  generalize kept (records.zipIdx 1) errors = imported at hall
  induction imported generalizing state with
  | nil =>
      cases hall
      exact hstart
  | cons record imported ih =>
      rw [importAll] at hall
      cases himported : step state record with
      | imported after =>
          simp only [himported] at hall
          exact ih (hkeeps himported hstart) hall
      | skipped message after => simp [himported] at hall
      | raised => simp [himported] at hall

/-- A record that is gone through once is not imported in any later state. -/
structure Settles (step : State → Record → RowResult State) (Grows : State → State → Prop) :
    Prop where
  refl : ∀ state, Grows state state
  trans : ∀ {first mid last}, Grows first mid → Grows mid last → Grows first last
  grows : ∀ {state record}, step state record ≠ .raised → Grows state (after step state record)
  settled : ∀ {state record later reached}, step state record ≠ .raised →
    Grows (after step state record) later → step later record ≠ .imported reached

section Again

variable {Grows : State → State → Prop} {entries : List (Record × ℕ)} {later : State}

theorem importRow_state {entry : Record × ℕ} (hrow : importRow step progress entry = some final) :
    step progress.state entry.1 ≠ .raised ∧
      final.state = after step progress.state entry.1 := by
  rw [importRow] at hrow
  rw [after]
  cases hstep : step progress.state entry.1 with
  | imported state =>
      simp only [hstep, Option.some.injEq] at hrow
      exact ⟨nofun, hrow ▸ rfl⟩
  | skipped message state =>
      simp only [hstep, Option.some.injEq] at hrow
      exact ⟨nofun, hrow ▸ rfl⟩
  | raised => simp [hstep] at hrow

theorem Settles.foldlM_importRow (hsettles : Settles step Grows)
    (hrun : entries.foldlM (importRow step) progress = some final) :
    Grows progress.state final.state ∧
      ∀ entry ∈ entries, ∀ later reached, Grows final.state later →
        step later entry.1 ≠ .imported reached := by
  induction entries generalizing progress with
  | nil =>
      cases hrun
      exact ⟨hsettles.refl _, nofun⟩
  | cons entry entries ih =>
      rw [List.foldlM_cons] at hrun
      obtain ⟨next, hrow, hrest⟩ := Option.bind_eq_some_iff.mp hrun
      obtain ⟨hnotRaised, hstate⟩ := importRow_state hrow
      obtain ⟨hgrows, hothers⟩ := ih hrest
      rw [hstate] at hgrows
      refine ⟨hsettles.trans (hsettles.grows hnotRaised) hgrows, ?_⟩
      intro other hother later reached hlater
      rcases List.mem_cons.mp hother with rfl | hother
      · exact hsettles.settled hnotRaised (hsettles.trans hgrows hlater)
      · exact hothers other hother later reached hlater

theorem foldlM_importRow_unimported
    (htraceless : ∀ state record, (step state record).Traceless state)
    (hnone : ∀ entry ∈ entries, ∀ reached, step progress.state entry.1 ≠ .imported reached)
    (hrun : entries.foldlM (importRow step) progress = some final) :
    final.imported = progress.imported ∧ final.state = progress.state := by
  induction entries generalizing progress with
  | nil =>
      cases hrun
      exact ⟨rfl, rfl⟩
  | cons entry entries ih =>
      rw [List.foldlM_cons, importRow] at hrun
      obtain ⟨hentry, hothers⟩ := List.forall_mem_cons.mp hnone
      cases hstep : step progress.state entry.1 with
      | imported state => exact absurd hstep (hentry state)
      | skipped message state =>
          obtain rfl := htraceless _ _ message state hstep
          simp only [hstep, Option.bind_eq_bind, Option.bind_some] at hrun
          exact @ih { progress with errors := progress.errors ++ [(entry.2, message)] } hothers hrun
      | raised => simp [hstep] at hrun

/-- A file that has been imported is not imported again, and leaves the state as it is. -/
theorem Settles.importRows_again (hsettles : Settles step Grows)
    (htraceless : ∀ state record, (step state record).Traceless state)
    (hfirst : importRows step state records = some progress)
    (hlater : Grows progress.state later) (hagain : importRows step later records = some final) :
    final.imported = 0 ∧ final.state = later :=
  foldlM_importRow_unimported htraceless
    (fun entry hentry reached =>
      (hsettles.foldlM_importRow hfirst).2 entry hentry later reached hlater) hagain

end Again

end Files

end RowImport
