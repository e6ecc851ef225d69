import SentryWms.Counting.CycleCount

/-!
# What a submission files

An entry of a submission names a line of the count, or an item that gets a line of its
own. Nothing stops a payload from naming a line twice, and a line files an adjustment
each time it is counted differently from what was expected. The adjustments are the
variances exactly when a line is stated once, up to restating what was expected of it.
-/

namespace SentryWms.Counting

open Relational Transition

/-! ## The lines a payload names -/

/-- An entry with the line it is recorded on. -/
structure Submission where
  lineId : ℕ
  itemId : ℕ
  expected : ℤ
  counted : ℕ
  inserted : Bool

/-- The entries of a payload with their lines, given the lines before it. An unexpected
item takes the next key, unless it has a line and is skipped. -/
def submissions (countId : ℕ) : Table CountLine → List CycleCountLineEntry → List Submission
  | _, [] => []
  | lines, entry :: entries =>
      if entry.unexpected then
        match entry.itemId with
        | none => submissions countId lines entries
        | some itemId =>
            if hasCountLine lines countId itemId then submissions countId lines entries
            else
              ⟨lines.next, itemId, 0, entry.countedQuantity, true⟩ ::
                submissions countId
                  (lines.insert { countId, itemId, expectedQuantity := 0 }) entries
      else
        match findCountLine lines countId entry.countLineId with
        | none => submissions countId lines entries
        | some (lineId, line) =>
            ⟨lineId, line.itemId, line.expectedQuantity, entry.countedQuantity, false⟩ ::
              submissions countId lines entries

def Submission.files (submission : Submission) : Bool :=
  submission.inserted || decide ((submission.counted : ℤ) ≠ submission.expected)

/-- What the submission files: the item and by how much it differs. -/
def Submission.variance (submission : Submission) : ℕ × ℤ :=
  (submission.itemId, submission.counted - submission.expected)

def lastCount (lineId : ℕ) : List Submission → Option ℕ
  | [] => none
  | submission :: rest =>
      (lastCount lineId rest).or
        (if submission.lineId = lineId then some submission.counted else none)

/-- A line that is submitted again had been stated as expected, and one that was inserted
is only restated as empty. -/
def StatedOnce (submissions : List Submission) : Prop :=
  submissions.Pairwise fun first next => first.lineId = next.lineId →
    (first.counted : ℤ) = first.expected ∧
      (first.inserted = true → (next.counted : ℤ) = next.expected)

instance (submissions : List Submission) : Decidable (StatedOnce submissions) :=
  inferInstanceAs (Decidable (List.Pairwise _ _))

/-! ## What was stated last -/

theorem lastCount_isSome {lineId : ℕ} {submissions : List Submission}
    {submission : Submission} (hmem : submission ∈ submissions)
    (hline : submission.lineId = lineId) : (lastCount lineId submissions).isSome := by
  induction submissions with
  | nil => cases hmem
  | cons first rest ih =>
      rw [lastCount, Option.isSome_or, Bool.or_eq_true]
      cases List.mem_cons.mp hmem with
      | inl hfirst => exact .inr (by rw [← hfirst, if_pos hline]; rfl)
      | inr hrest => exact .inl (ih hrest)

theorem mem_of_lastCount {lineId counted : ℕ} {submissions : List Submission}
    (hlast : lastCount lineId submissions = some counted) :
    ∃ submission ∈ submissions, submission.lineId = lineId ∧
      submission.counted = counted := by
  induction submissions with
  | nil => cases hlast
  | cons first rest ih =>
      rw [lastCount, Option.or_eq_some_iff] at hlast
      cases hlast with
      | inl hrest =>
          obtain ⟨submission, hmem, hfound⟩ := ih hrest
          exact ⟨submission, List.mem_cons_of_mem _ hmem, hfound⟩
      | inr hfirst =>
          by_cases hline : first.lineId = lineId
          · rw [if_pos hline, Option.some.injEq] at hfirst
            exact ⟨first, List.mem_cons_self, hline, hfirst.2⟩
          · rw [if_neg hline] at hfirst
            cases hfirst.2

/-! ## When the adjustments are the variances -/

/-- The submissions agree on what is expected of a line, and a line is inserted at most
once, before it is restated. -/
def Consistent (submissions : List Submission) : Prop :=
  submissions.Pairwise fun first next => first.lineId = next.lineId →
    first.expected = next.expected ∧ next.inserted = false

theorem filedOnce_cons {first : Submission} {rest : List Submission}
    (hconsistent : ∀ next ∈ rest, first.lineId = next.lineId →
      first.expected = next.expected ∧ next.inserted = false) :
    (first.files = true →
        (∀ next ∈ rest, first.lineId = next.lineId → next.files = false) ∧
        lastCount first.lineId (first :: rest) = some first.counted) ↔
      ∀ next ∈ rest, first.lineId = next.lineId →
        (first.counted : ℤ) = first.expected ∧
          (first.inserted = true → (next.counted : ℤ) = next.expected) := by
  constructor
  · intro hfiles next hnext hline
    cases hfirst : first.files with
    | false =>
        simp only [Submission.files, Bool.or_eq_false_iff, decide_eq_false_iff_not,
          not_not] at hfirst
        exact ⟨hfirst.2, fun hinserted => by rw [hfirst.1] at hinserted; cases hinserted⟩
    | true =>
        obtain ⟨hothers, hlast⟩ := hfiles hfirst
        have hsettled : ∀ other ∈ rest, first.lineId = other.lineId →
            (other.counted : ℤ) = other.expected := by
          intro other hother hsame
          have hnone := hothers other hother hsame
          simp only [Submission.files, Bool.or_eq_false_iff, decide_eq_false_iff_not,
            not_not] at hnone
          exact hnone.2
        have hsome := lastCount_isSome hnext hline.symm
        obtain ⟨counted, hcounted⟩ := Option.isSome_iff_exists.mp hsome
        obtain ⟨last, hmem, hsame, heq⟩ := mem_of_lastCount hcounted
        rw [lastCount, hcounted, Option.some_or, Option.some.injEq] at hlast
        have hexpected := (hconsistent last hmem hsame.symm).1
        have hlastCounted := hsettled last hmem hsame.symm
        refine ⟨?_, fun _ => hsettled next hnext hline⟩
        rw [← hlast, ← heq, hexpected]
        exact hlastCounted
  · intro hstated hfirst
    constructor
    · intro next hnext hline
      obtain ⟨hcounted, hinserted⟩ := hstated next hnext hline
      have hfirstInserted : first.inserted = true := by
        simpa [Submission.files, hcounted] using hfirst
      simp [Submission.files, (hconsistent next hnext hline).2, hinserted hfirstInserted]
    · rw [lastCount]
      cases hlast : lastCount first.lineId rest with
      | none => simp
      | some counted =>
          obtain ⟨last, hmem, hsame, heq⟩ := mem_of_lastCount hlast
          obtain ⟨hcounted, hinserted⟩ := hstated last hmem hsame.symm
          have hfirstInserted : first.inserted = true := by
            simpa [Submission.files, hcounted] using hfirst
          have hlastCounted := hinserted hfirstInserted
          have hexpected := (hconsistent last hmem hsame.symm).1
          have hequal : counted = first.counted := by omega
          rw [hequal, Option.some_or]

theorem lastCount_cons_of_mem {first next : Submission} {rest : List Submission}
    (hnext : next ∈ rest) :
    lastCount next.lineId (first :: rest) = lastCount next.lineId rest := by
  obtain ⟨counted, hcounted⟩ := Option.isSome_iff_exists.mp (lastCount_isSome hnext rfl)
  rw [lastCount, hcounted, Option.some_or]

theorem statedOnce_iff {submissions : List Submission} (hconsistent : Consistent submissions) :
    StatedOnce submissions ↔
      (submissions.filter Submission.files).Pairwise (·.lineId ≠ ·.lineId) ∧
      ∀ submission ∈ submissions, submission.files = true →
        lastCount submission.lineId submissions = some submission.counted := by
  induction submissions with
  | nil => simp [StatedOnce]
  | cons first rest ih =>
      obtain ⟨hfirst, hrest⟩ := List.pairwise_cons.mp hconsistent
      rw [StatedOnce, List.pairwise_cons, ← filedOnce_cons hfirst, ← StatedOnce, ih hrest,
        List.forall_mem_cons]
      have hlater : (∀ next ∈ rest, next.files = true →
          lastCount next.lineId (first :: rest) = some next.counted) ↔
          ∀ next ∈ rest, next.files = true →
            lastCount next.lineId rest = some next.counted := by
        constructor
        · intro hlast next hnext hfiles
          rw [← lastCount_cons_of_mem hnext]
          exact hlast next hnext hfiles
        · intro hlast next hnext hfiles
          rw [lastCount_cons_of_mem hnext]
          exact hlast next hnext hfiles
      rw [hlater]
      cases hfiles : first.files with
      | false => simp [hfiles]
      | true =>
          have hothers : (∀ next ∈ rest, first.lineId = next.lineId → next.files = false) ↔
              ∀ next ∈ rest.filter Submission.files, first.lineId ≠ next.lineId := by
            simp only [List.mem_filter, and_imp]
            constructor
            · intro hnone next hnext hfiled hline
              rw [hnone next hnext hline] at hfiled
              cases hfiled
            · intro hne next hnext hline
              cases hfiled : next.files with
              | false => rfl
              | true => exact absurd hline (hne next hnext hfiled)
          rw [List.filter_cons_of_pos hfiles, List.pairwise_cons, ← hothers]
          tauto

/-! ## Running a payload -/

/-- What an accepted payload writes, entry by entry. -/
inductive Submits (countId : ℕ) (count : CycleCount) (username : String) :
    CountingStore → List Submission → CountingStore → Prop
  | nil (store : CountingStore) : Submits countId count username store [] store
  | insert {store after : CountingStore} {itemId counted : ℕ}
      {submissions : List Submission}
      (hnew : hasCountLine store.countLines countId itemId = false)
      (rest : Submits countId count username
        (insertUnexpected countId count username store itemId counted) submissions after) :
      Submits countId count username store
        (⟨store.countLines.next, itemId, 0, counted, true⟩ :: submissions) after
  | record {store after : CountingStore} {lineId counted : ℕ} {line : CountLine}
      {submissions : List Submission}
      (hline : (lineId, line) ∈ store.countLines.entries) (hcount : line.countId = countId)
      (rest : Submits countId count username
        (recordLine countId count username store (lineId, line) counted) submissions after) :
      Submits countId count username store
        (⟨lineId, line.itemId, line.expectedQuantity, counted, false⟩ :: submissions) after

/-- What a count and its item are called, and what is expected: the part of a line that
no submission changes. -/
def CountLine.name (line : CountLine) : ℕ × ℕ × ℤ :=
  (line.countId, line.itemId, line.expectedQuantity)

structure SameLines (lines lines' : Table CountLine) : Prop where
  next : lines'.next = lines.next
  get : ∀ key, (lines'.get? key).map CountLine.name = (lines.get? key).map CountLine.name

variable {countId : ℕ} {count : CycleCount} {username : String}
  {store after : CountingStore} {lines lines' : Table CountLine}

theorem SameLines.refl (lines : Table CountLine) : SameLines lines lines := ⟨rfl, fun _ => rfl⟩

theorem SameLines.insert (hsame : SameLines lines lines') {line line' : CountLine}
    (hname : line'.name = line.name) : SameLines (lines.insert line) (lines'.insert line') where
  next := congrArg (· + 1) hsame.next
  get := by
    intro key
    by_cases hkey : key = lines.next
    · rw [hkey, Table.get?_insert_self, ← hsame.next, Table.get?_insert_self]
      exact congrArg some hname
    · rw [Table.get?_insert_of_ne _ hkey,
        Table.get?_insert_of_ne _ (hsame.next.symm ▸ hkey)]
      exact hsame.get key

theorem SameLines.record (hsame : SameLines lines lines') (lineId counted : ℕ)
    (username : String) :
    SameLines lines (lines'.modify lineId (recordCount username counted)) where
  next := hsame.next
  get := by
    intro key
    rw [← hsame.get key, Table.modify, Table.get?_mapRows, Option.map_map]
    congr 1
    funext line
    rw [Function.comp_apply]
    split <;> rfl

theorem hasCountLine_eq_true {itemId : ℕ} :
    hasCountLine lines countId itemId = true ↔
      ∃ key line, lines.get? key = some line ∧ line.countId = countId ∧
        line.itemId = itemId := by
  simp [hasCountLine, CountLine.counts, List.any_eq_true]

theorem SameLines.hasCountLine (hsame : SameLines lines lines') (itemId : ℕ) :
    hasCountLine lines' countId itemId = hasCountLine lines countId itemId := by
  have hiff : Counting.hasCountLine lines' countId itemId = true ↔
      Counting.hasCountLine lines countId itemId = true := by
    rw [hasCountLine_eq_true, hasCountLine_eq_true]
    have hname : ∀ (table : Table CountLine) (key : ℕ),
        (∃ line, table.get? key = some line ∧ line.countId = countId ∧
          line.itemId = itemId) ↔
        ∃ name, (table.get? key).map CountLine.name = some name ∧ name.1 = countId ∧
          name.2.1 = itemId := by
      intro table key
      cases table.get? key <;> simp [CountLine.name]
    simp only [hname, hsame.get]
  exact Bool.eq_iff_iff.mpr hiff

theorem findCountLine_eq_some {countLineId : Option ℕ} {line : ℕ × CountLine} :
    findCountLine lines countId countLineId = some line ↔
      countLineId = some line.1 ∧ line ∈ lines.entries ∧ line.2.countId = countId := by
  cases countLineId with
  | none => simp [findCountLine]
  | some lineId =>
      rw [findCountLine, Option.bind_some, Option.bind_eq_some_iff, Option.some.injEq]
      constructor
      · rintro ⟨found, hget, hfound⟩
        split at hfound
        · next hcount =>
            rw [Option.some.injEq] at hfound
            rw [← hfound]
            exact ⟨rfl, lines.get?_eq_some.mp hget, hcount⟩
        · cases hfound
      · rintro ⟨rfl, hmem, hcount⟩
        exact ⟨line.2, lines.get?_eq_some.mpr hmem, if_pos hcount⟩

theorem SameLines.findCountLine (hsame : SameLines lines lines') {countLineId : Option ℕ}
    {line : ℕ × CountLine} (hfind : findCountLine lines' countId countLineId = some line) :
    ∃ named, findCountLine lines countId countLineId = some (line.1, named) ∧
      line.2.name = named.name := by
  obtain ⟨hkey, hmem, hcount⟩ := findCountLine_eq_some.mp hfind
  have hget := hsame.get line.1
  rw [lines'.get?_eq_some.mpr hmem, Option.map_some] at hget
  obtain ⟨named, hnamed, hname⟩ := Option.map_eq_some_iff.mp hget.symm
  have hnamedCount : named.countId = line.2.countId := congrArg Prod.fst hname
  exact ⟨named, findCountLine_eq_some.mpr
    ⟨hkey, lines.get?_eq_some.mp hnamed, hnamedCount.trans hcount⟩, hname.symm⟩

theorem submits_of_foldlM {entries : List CycleCountLineEntry} {differ differ' : ℕ}
    (hsame : SameLines lines store.countLines)
    (hfold : entries.foldlM (submitEntry countId count username) (store, differ) =
      .ok (after, differ')) :
    Submits countId count username store (submissions countId lines entries) after := by
  induction entries generalizing store lines differ with
  | nil =>
      cases hfold
      exact Submits.nil _
  | cons entry entries ih =>
      rw [List.foldlM_cons] at hfold
      obtain ⟨⟨middle, differing⟩, hentry, hrest⟩ := bind_eq_ok.mp hfold
      rw [submissions]
      rw [submitEntry] at hentry
      dsimp only at hentry
      cases hunexpected : entry.unexpected with
      | true =>
          rw [if_pos rfl]
          rw [hunexpected, if_pos rfl] at hentry
          cases hitem : entry.itemId with
          | none =>
              rw [hitem] at hentry
              cases hentry
          | some itemId =>
              rw [hitem] at hentry
              dsimp only at hentry ⊢
              rw [hsame.hasCountLine] at hentry
              cases hhas : hasCountLine lines countId itemId with
              | true =>
                  rw [hhas, if_pos rfl] at hentry
                  cases hentry
                  rw [if_pos rfl]
                  exact ih hsame hrest
              | false =>
                  rw [hhas, if_neg Bool.false_ne_true] at hentry
                  rw [if_neg Bool.false_ne_true, ← hsame.next]
                  split at hentry
                  · cases hentry
                  · cases hentry
                    refine Submits.insert (by rw [hsame.hasCountLine, hhas]) ?_
                    refine ih (SameLines.insert hsame rfl) hrest
      | false =>
          rw [if_neg Bool.false_ne_true]
          rw [hunexpected, if_neg Bool.false_ne_true] at hentry
          cases hfind : findCountLine store.countLines countId entry.countLineId with
          | none =>
              rw [hfind] at hentry
              cases hentry
          | some line =>
              rw [hfind] at hentry
              cases hentry
              obtain ⟨named, hnamed, hname⟩ := hsame.findCountLine hfind
              obtain ⟨-, hmem, hcount⟩ := findCountLine_eq_some.mp hfind
              rw [hnamed]
              dsimp only
              have hitem : named.itemId = line.2.itemId := congrArg (·.2.1) hname.symm
              have hexpected : named.expectedQuantity = line.2.expectedQuantity :=
                congrArg (·.2.2) hname.symm
              rw [hitem, hexpected]
              refine Submits.record hmem hcount (ih ?_ hrest)
              rw [recordLine]
              split
              · exact hsame.record _ _ _
              · exact hsame.record _ _ _

/-! ## What has been written -/

def CountingStore.countAdjustments (store : CountingStore) (countId : ℕ) :
    List (ℕ × Adjustment) :=
  store.adjustments.select fun row => row.cycleCountId == some countId

def OneLineEach (countId : ℕ) (lines : Table CountLine) : Prop :=
  ∀ {key key' : ℕ} {line line' : CountLine}, (key, line) ∈ lines.entries →
    (key', line') ∈ lines.entries → line.countId = countId → line'.countId = countId →
    line.itemId = line'.itemId → key = key'

variable {subs : List Submission}

theorem recordLine_toStore (line : ℕ × CountLine) (counted : ℕ) :
    (recordLine countId count username store line counted).toStore = store.toStore := by
  rw [recordLine]
  split <;> rfl

theorem recordLine_countLines (line : ℕ × CountLine) (counted : ℕ) :
    (recordLine countId count username store line counted).countLines =
      store.countLines.modify line.1 (recordCount username counted) := by
  rw [recordLine]
  split <;> rfl

theorem Submits.toStore (hsubmits : Submits countId count username store subs after) :
    after.toStore = store.toStore := by
  induction hsubmits with
  | nil store => rfl
  | insert hnew rest ih => exact ih
  | record hline hcount rest ih => rw [ih, recordLine_toStore]

theorem Submits.adjustments (hsubmits : Submits countId count username store subs after) :
    (after.countAdjustments countId).map
        (fun entry => (entry.2.itemId, entry.2.quantityChange)) =
      (store.countAdjustments countId).map
          (fun entry => (entry.2.itemId, entry.2.quantityChange)) ++
        (subs.filter Submission.files).map Submission.variance := by
  induction hsubmits with
  | nil store => simp
  | insert hnew rest ih =>
      rw [ih]
      simp [CountingStore.countAdjustments, insertUnexpected, Table.select_insert,
        countAdjustment, Submission.files, Submission.variance]
  | @record store after lineId counted line submissions hline hcount rest ih =>
      rw [ih]
      by_cases hvariance : (counted : ℤ) = line.expectedQuantity
      · simp [CountingStore.countAdjustments, recordLine, hvariance, Submission.files]
      · simp [CountingStore.countAdjustments, recordLine, sub_eq_zero, hvariance,
          Table.select_insert, countAdjustment, Submission.files, Submission.variance]

theorem Submits.pending (hsubmits : Submits countId count username store subs after)
    (hstore : ∀ entry ∈ store.countAdjustments countId,
      entry.2.status = .pending ∧ entry.2.binId = count.binId) :
    ∀ entry ∈ after.countAdjustments countId,
      entry.2.status = .pending ∧ entry.2.binId = count.binId := by
  have hinsert : ∀ (store : CountingStore) (itemId : ℕ) (change : ℤ) (detail : String),
      (∀ entry ∈ store.countAdjustments countId,
        entry.2.status = .pending ∧ entry.2.binId = count.binId) →
      ∀ entry ∈ (store.adjustments.insert
          (countAdjustment countId count username itemId change detail)).select
            (fun row => row.cycleCountId == some countId),
        entry.2.status = .pending ∧ entry.2.binId = count.binId := by
    intro store itemId change detail hstore entry hentry
    rw [Table.select_insert, List.mem_append] at hentry
    cases hentry with
    | inl hold => exact hstore entry hold
    | inr hnew =>
        simp only [countAdjustment, beq_self_eq_true, if_true, List.mem_singleton] at hnew
        rw [hnew]
        exact ⟨rfl, rfl⟩
  induction hsubmits with
  | nil store => exact hstore
  | insert hnew rest ih => exact ih (hinsert _ _ _ _ hstore)
  | record hline hcount rest ih =>
      apply ih
      rw [recordLine]
      split
      · exact hstore
      · exact hinsert _ _ _ _ hstore

theorem Submits.keeps (hsubmits : Submits countId count username store subs after)
    {key : ℕ} {line : CountLine} (hmem : (key, line) ∈ store.countLines.entries) :
    ∃ found, (key, found) ∈ after.countLines.entries ∧ found.name = line.name := by
  induction hsubmits generalizing line with
  | nil store => exact ⟨line, hmem, rfl⟩
  | insert hnew rest ih => exact ih ((Table.mem_insert _).mpr (.inl hmem))
  | @record store after lineId counted line' submissions hline hcount rest ih =>
      have hrecorded : (key, if key = lineId then recordCount username counted line else line)
          ∈ (recordLine countId count username store (lineId, line') counted
            ).countLines.entries := by
        rw [recordLine_countLines, Table.mem_modify]
        exact ⟨line, hmem, rfl⟩
      obtain ⟨found, hfound, hname⟩ := ih hrecorded
      refine ⟨found, hfound, hname.trans ?_⟩
      split <;> rfl

theorem Submits.line (hsubmits : Submits countId count username store subs after)
    {submission : Submission} (hmem : submission ∈ subs) :
    ∃ found, (submission.lineId, found) ∈ after.countLines.entries ∧
      found.name = (countId, submission.itemId, submission.expected) := by
  induction hsubmits with
  | nil store => cases hmem
  | @insert store after itemId counted submissions hnew rest ih =>
      cases List.mem_cons.mp hmem with
      | inl hfirst =>
          obtain ⟨found, hfound, hname⟩ := rest.keeps
            ((Table.mem_insert _).mpr (.inr rfl))
          rw [hfirst]
          exact ⟨found, hfound, hname⟩
      | inr hrest => exact ih hrest
  | @record store after lineId counted line submissions hline hcount rest ih =>
      cases List.mem_cons.mp hmem with
      | inl hfirst =>
          have hrecorded : (lineId, recordCount username counted line) ∈
              (recordLine countId count username store (lineId, line) counted
                ).countLines.entries := by
            rw [recordLine_countLines, Table.mem_modify]
            exact ⟨line, hline, if_pos rfl⟩
          obtain ⟨found, hfound, hname⟩ := rest.keeps hrecorded
          rw [hfirst, ← hcount]
          exact ⟨found, hfound, hname⟩
      | inr hrest => exact ih hrest

theorem Submits.counted (hsubmits : Submits countId count username store subs after)
    (key : ℕ) :
    (after.countLines.get? key).bind CountLine.countedQuantity =
      ((lastCount key subs).map Nat.cast).or
        ((store.countLines.get? key).bind CountLine.countedQuantity) := by
  induction hsubmits with
  | nil store => rfl
  | @insert store after itemId counted submissions hnew rest ih =>
      rw [ih, lastCount]
      cases lastCount key submissions with
      | some last => rfl
      | none =>
          by_cases hkey : key = store.countLines.next
          · rw [hkey]
            simp [insertUnexpected, Table.get?_insert_self]
          · simp [insertUnexpected, Table.get?_insert_of_ne _ hkey, Ne.symm hkey]
  | @record store after lineId counted line submissions hline hcount rest ih =>
      rw [ih, lastCount, recordLine_countLines]
      cases lastCount key submissions with
      | some last => rfl
      | none =>
          by_cases hkey : lineId = key
          · rw [← hkey]
            simp [Table.modify, store.countLines.get?_eq_some.mpr hline, recordCount]
          · rw [Table.get?_modify_of_ne _ (Ne.symm hkey)]
            simp [hkey]

theorem OneLineEach.modify (hone : OneLineEach countId lines) (lineId counted : ℕ)
    (username : String) :
    OneLineEach countId (lines.modify lineId (recordCount username counted)) := by
  intro key key' line line' hline hline' hcount hcount' hitem
  have hbefore : ∀ {key : ℕ} {line : CountLine},
      (key, line) ∈ (lines.modify lineId (recordCount username counted)).entries →
      ∃ before, (key, before) ∈ lines.entries ∧ before.countId = line.countId ∧
        before.itemId = line.itemId := by
    intro key line hmem
    obtain ⟨before, hmem, hrow⟩ := (Table.mem_modify _).mp hmem
    refine ⟨before, hmem, ?_, ?_⟩
    · rw [← hrow]
      split <;> rfl
    · rw [← hrow]
      split <;> rfl
  obtain ⟨before, hmem, hsame, hitemBefore⟩ := hbefore hline
  obtain ⟨before', hmem', hsame', hitemBefore'⟩ := hbefore hline'
  exact hone hmem hmem' (hsame.trans hcount) (hsame'.trans hcount')
    ((hitemBefore.trans hitem).trans hitemBefore'.symm)

theorem OneLineEach.insert (hone : OneLineEach countId lines) {line : CountLine}
    (hnew : hasCountLine lines countId line.itemId = false) :
    OneLineEach countId (lines.insert line) := by
  have hother : ∀ {key : ℕ} {line' : CountLine}, (key, line') ∈ lines.entries →
      line'.countId = countId → line'.itemId ≠ line.itemId := by
    intro key line' hmem hcount hitem
    have htrue : hasCountLine lines countId line.itemId = true :=
      hasCountLine_eq_true.mpr ⟨key, line', lines.get?_eq_some.mpr hmem, hcount, hitem⟩
    rw [hnew] at htrue
    cases htrue
  intro key key' first second hfirst hsecond hcount hcount' hitem
  cases (Table.mem_insert _).mp hfirst with
  | inl hold =>
      cases (Table.mem_insert _).mp hsecond with
      | inl hold' => exact hone hold hold' hcount hcount' hitem
      | inr hnew' =>
          cases hnew'
          exact absurd hitem (hother hold hcount)
  | inr hnew' =>
      cases hnew'
      cases (Table.mem_insert _).mp hsecond with
      | inl hold' => exact absurd hitem.symm (hother hold' hcount')
      | inr hnew'' => exact (congrArg Prod.fst hnew'').symm

theorem Submits.oneLineEach (hsubmits : Submits countId count username store subs after)
    (hone : OneLineEach countId store.countLines) : OneLineEach countId after.countLines := by
  induction hsubmits with
  | nil store => exact hone
  | insert hnew rest ih => exact ih (hone.insert hnew)
  | record hline hcount rest ih =>
      apply ih
      rw [recordLine_countLines]
      exact hone.modify _ _ _

theorem Submits.origin (hsubmits : Submits countId count username store subs after)
    {submission : Submission} (hmem : submission ∈ subs) :
    (∃ line, (submission.lineId, line) ∈ store.countLines.entries ∧
        line.name = (countId, submission.itemId, submission.expected)) ∨
      submission.expected = 0 ∧
        hasCountLine store.countLines countId submission.itemId = false := by
  induction hsubmits with
  | nil store => cases hmem
  | @insert store after itemId counted submissions hnew rest ih =>
      cases List.mem_cons.mp hmem with
      | inl hfirst =>
          rw [hfirst]
          exact .inr ⟨rfl, hnew⟩
      | inr hrest =>
          cases ih hrest with
          | inl hline =>
              obtain ⟨line, hline, hname⟩ := hline
              cases (Table.mem_insert _).mp hline with
              | inl hold => exact .inl ⟨line, hold, hname⟩
              | inr hinserted =>
                  have hrow : line.name = (countId, itemId, 0) := by
                    rw [(Prod.mk.inj hinserted).2]
                    rfl
                  rw [hrow, Prod.mk.injEq, Prod.mk.injEq] at hname
                  rw [← hname.2.1, ← hname.2.2]
                  exact .inr ⟨rfl, hnew⟩
          | inr hnone =>
              refine .inr ⟨hnone.1, ?_⟩
              have hafter := hnone.2
              rw [hasCountLine, List.any_eq_false] at hafter ⊢
              exact fun entry hentry => hafter entry ((Table.mem_insert _).mpr (.inl hentry))
  | @record store after lineId counted line submissions hline hcount rest ih =>
      have hsame : SameLines store.countLines
          (recordLine countId count username store (lineId, line) counted).countLines := by
        rw [recordLine_countLines]
        exact (SameLines.refl _).record _ _ _
      cases List.mem_cons.mp hmem with
      | inl hfirst =>
          rw [hfirst, ← hcount]
          exact .inl ⟨line, hline, rfl⟩
      | inr hrest =>
          cases ih hrest with
          | inl hfound =>
              obtain ⟨found, hfound, hname⟩ := hfound
              have hget := hsame.get submission.lineId
              rw [(Table.get?_eq_some _).mpr hfound, Option.map_some] at hget
              obtain ⟨before, hbefore, hsameName⟩ := Option.map_eq_some_iff.mp hget.symm
              exact .inl ⟨before, store.countLines.get?_eq_some.mp hbefore,
                hsameName.trans hname⟩
          | inr hnone => exact .inr ⟨hnone.1, by rw [← hsame.hasCountLine]; exact hnone.2⟩

theorem Submits.inserted (hsubmits : Submits countId count username store subs after)
    {submission : Submission} (hmem : submission ∈ subs)
    (hinserted : submission.inserted = true) : store.countLines.next ≤ submission.lineId := by
  induction hsubmits with
  | nil store => cases hmem
  | insert hnew rest ih =>
      cases List.mem_cons.mp hmem with
      | inl hfirst => rw [hfirst]
      | inr hrest => exact (Nat.le_succ _).trans (ih hrest)
  | record hline hcount rest ih =>
      cases List.mem_cons.mp hmem with
      | inl hfirst =>
          rw [hfirst] at hinserted
          cases hinserted
      | inr hrest =>
          have hnext := ih hrest
          rw [recordLine_countLines] at hnext
          exact hnext

theorem Submits.consistent (hsubmits : Submits countId count username store subs after) :
    Consistent subs := by
  have hexpected : ∀ {store after : CountingStore} {subs : List Submission},
      Submits countId count username store subs after → ∀ first ∈ subs, ∀ next ∈ subs,
      first.lineId = next.lineId → first.expected = next.expected := by
    intro store after subs hsubmits first hfirst next hnext hline
    obtain ⟨found, hfound, hname⟩ := hsubmits.line hfirst
    obtain ⟨found', hfound', hname'⟩ := hsubmits.line hnext
    rw [hline] at hfound
    rw [after.countLines.row_unique hfound hfound'] at hname
    rw [hname, Prod.mk.injEq, Prod.mk.injEq] at hname'
    exact hname'.2.2
  induction hsubmits with
  | nil store => exact List.Pairwise.nil
  | insert hnew rest ih =>
      refine List.pairwise_cons.mpr ⟨?_, ih⟩
      intro next hnext hline
      refine ⟨hexpected (Submits.insert hnew rest) _ List.mem_cons_self next
        (List.mem_cons_of_mem _ hnext) hline, ?_⟩
      by_contra hinserted
      rw [Bool.not_eq_false] at hinserted
      have hkey := rest.inserted hnext hinserted
      rw [← hline] at hkey
      exact absurd hkey (Nat.not_succ_le_self _)
  | @record store after lineId counted line submissions hline hcount rest ih =>
      refine List.pairwise_cons.mpr ⟨?_, ih⟩
      intro next hnext hsame
      refine ⟨hexpected (Submits.record hline hcount rest) _ List.mem_cons_self next
        (List.mem_cons_of_mem _ hnext) hsame, ?_⟩
      by_contra hinserted
      rw [Bool.not_eq_false] at hinserted
      have hkey := rest.inserted hnext hinserted
      rw [recordLine_countLines, ← hsame] at hkey
      exact absurd (store.countLines.lt_next_of_mem hline) (not_lt.mpr hkey)

end SentryWms.Counting
