import SentryWms.Packing.PackRequests

/-!
# A verification counts once

The counter that a verification writes is right only if the line still holds what was
read. Where that is so, every line has been packed as often as verifications of it were
accepted, never more than was picked; and once a completion has counted no unverified
line, no verification finds a line of the order as it has read it.
-/

namespace SentryWms.Packing

open Relational ReadCommitted Interleaving Transition

/-! ## The property -/

def Reply.verifiedOf (soLineId : ℕ) : Reply → ℤ
  | .verified line quantity => if line = soLineId then quantity else 0
  | _ => 0

def packedOf (db : Database) (soLineId : ℕ) : ℤ :=
  ((db.lines.get? soLineId).bind fun row => row.version.committed).getD 0

/-- Every line has its initial counter and what was verified of it, not more than was
picked, and an order is packed only if all its lines are. -/
structure CountedOnce (initial db : Database) (replies : List Reply) : Prop where
  lines : ∀ soLineId row packed, (soLineId, row) ∈ db.lines.entries →
    row.version.committed = some packed →
    packed = packedOf initial soLineId + (replies.map (Reply.verifiedOf soLineId)).sum ∧
      packed ≤ row.ident.quantityPicked
  orders : ∀ soId order, (soId, order) ∈ db.orders.entries →
    order.version.committed = some .packed →
    ∀ soLineId row, (soLineId, row) ∈ db.lines.entries → row.ident.soId = soId →
      row.version.committed = some row.ident.quantityPicked

/-! ## The condition -/

/-- A verification writes a line that still holds what was read. -/
def Allowed (db : Database) (_ : ℕ) : Statement → Prop
  | .setPacked line _ =>
      ((db.lines.get? line.soLineId).map fun row => row.version.latest) =
        some line.quantityPacked
  | _ => True

instance (db : Database) (txn : ℕ) (statement : Statement) :
    Decidable (Allowed db txn statement) := by
  cases statement <;> unfold Allowed <;> infer_instance

/-! ## Where a session stands -/

/-- What a session holds, the lines it has read, and the orders it has found verified. -/
structure Standing where
  lines : ℕ → Option (LineColumns × Option ℤ × ℤ)
  orders : ℕ → Option (OrderColumns × Option SoStatus × SoStatus)
  read : List LineRead
  verified : List ℕ

/-- A session that has done nothing. -/
def Standing.idle : Standing :=
  ⟨fun _ => none, fun _ => none, [], []⟩

/-- Every line of the order is verified, and nobody is writing one. -/
def AllVerified (db : Database) (soId : ℕ) : Prop :=
  ∀ entry ∈ db.lines.entries, entry.2.ident.soId = soId →
    entry.2.version = .stable entry.2.ident.quantityPicked

/-- A transaction stands where the session believes. -/
structure Agrees (db : Database) (txn : ℕ) (standing : Standing) : Prop where
  lines : own db.lines txn = standing.lines
  orders : own db.orders txn = standing.orders
  read : ∀ line ∈ standing.read,
    (db.lines.get? line.soLineId).map Row.ident = some line.columns
  verified : ∀ soId ∈ standing.verified, AllVerified db soId

/-- What a session has to know before a statement so that an assertion holds after it. -/
def Before (self : Standing) :
    (statement : Statement) → (Answer statement → Standing → Prop) → Prop
  | .readLines _, post => ∀ lines, post lines { self with read := lines }
  | .setPacked line quantityPacked, post =>
      line ∈ self.read ∧ line.quantityPacked < line.columns.quantityPicked ∧
        quantityPacked ≤ line.columns.quantityPicked ∧ self.lines = (fun _ => none) ∧
        post () { self with
          lines := Function.update (fun _ => none) line.soLineId
            (some (line.columns, some line.quantityPacked, quantityPacked)) }
  | .lockOrder _ soId, post =>
      post none self ∧ ∀ columns committed status, post (some status) { self with
        orders := Function.update self.orders soId (some (columns, committed, status)) }
  | .countUnverified soId, post =>
      self.lines = (fun _ => none) ∧
        ∀ unverified : ℕ, (0 < unverified → post unverified self) ∧
          (unverified = 0 → post unverified { self with verified := soId :: self.verified })
  | .markPacked soId, post =>
      ∃ columns committed status,
        self.orders soId = some (columns, committed, status) ∧
        post () { self with
          orders := Function.update self.orders soId (some (columns, committed, .packed)) }
  | _, post => ∀ answer, post answer self

def Commits (self : Standing) : Reply → Prop
  | .verified soLineId quantity =>
      self.orders = (fun _ => none) ∧ ∃ columns packed,
        self.lines = Function.update (fun _ => none) soLineId
          (some (columns, some packed, packed + quantity))
  | .packed soId =>
      self.lines = (fun _ => none) ∧ soId ∈ self.verified ∧ ∃ columns committed,
        self.orders = Function.update (fun _ => none) soId
          (some (columns, committed, .packed))
  | .refused _ => False

/-- From where a session stands, its program commits what it has changed and says so. -/
def Balanced (self : Standing) : PackProgram → Prop
  | .reply true value => Commits self value
  | .reply false value => ∃ refusal, value = .refused refusal
  | .exec statement next =>
      Before self statement fun answer after => Balanced after (next answer)

def Stands (db : Database) (txn : ℕ) : Option PackProgram → Prop
  | none => Agrees db txn .idle
  | some program => ∃ self, Agrees db txn self ∧ Balanced self program

/-! ## The invariant -/

/-- A line that is being written was not complete, and is not packed beyond what was
picked. -/
def Fits (row : Row LineColumns ℤ) : Prop :=
  match row.version with
  | .stable packed => packed ≤ row.ident.quantityPicked
  | .written _ none _ => False
  | .written _ (some committed) packed =>
      committed < row.ident.quantityPicked ∧ packed ≤ row.ident.quantityPicked

structure Invariant (initial db : Database) (replies : List Reply) : Prop where
  fits : ∀ entry ∈ db.lines.entries, Fits entry.2
  counted : ∀ entry ∈ db.lines.entries, entry.2.version.committed =
    some (packedOf initial entry.1 + (replies.map (Reply.verifiedOf entry.1)).sum)
  packed : ∀ entry ∈ db.orders.entries, entry.2.version.committed = some .packed →
    AllVerified db entry.1

variable {rowOrder : RowOrder LineRead} {initial db after : Database} {txn other : ℕ}
  {replies : List Reply} {self : Standing}

/-- A step keeps the invariant, and the other sessions stand where they stood. -/
structure Moves (initial db after : Database) (txn : ℕ) (replies : List Reply) : Prop where
  invariant : Invariant initial after replies
  others : ∀ other ≠ txn, ∀ self, Agrees db other self → Agrees after other self

theorem Moves.refl (hinvariant : Invariant initial db replies) :
    Moves initial db db txn replies :=
  ⟨hinvariant, fun _ _ _ hagrees => hagrees⟩

/-! ## Reading -/

variable {soId : ℕ}

theorem columns_of_linesSeen {line : LineRead} (hline : line ∈ linesSeen db txn soId) :
    (db.lines.get? line.soLineId).map Row.ident = some line.columns := by
  obtain ⟨row, hrow, hitem⟩ := List.mem_filterMap.mp hline
  obtain ⟨item, -, rfl⟩ := Option.map_eq_some_iff.mp hitem
  obtain ⟨entry, hentry, hview⟩ := List.mem_filterMap.mp (List.mem_filter.mp hrow).1
  obtain ⟨value, -, rfl⟩ := Option.map_eq_some_iff.mp hview
  dsimp only
  rw [(db.lines.get?_eq_some).mpr hentry]
  rfl

theorem allVerified_of_count (hinvariant : Invariant initial db replies)
    (hnone : own db.lines txn = fun _ => none)
    (hcount : (unverifiedLines db txn soId).length = 0) :
    AllVerified db soId := by
  intro entry hentry hso
  obtain ⟨soLineId, columns, version⟩ := entry
  have hverified : ∀ packed, version.view txn = some packed →
      ¬ packed < columns.quantityPicked := by
    intro packed hview hlt
    have hseen : (soLineId, columns, packed) ∈ unverifiedLines db txn soId := by
      refine List.mem_filter.mpr
        ⟨List.mem_filterMap.mpr ⟨_, hentry, by rw [hview]; rfl⟩, ?_⟩
      rw [Bool.and_eq_true]
      exact ⟨beq_iff_eq.mpr hso, decide_eq_true hlt⟩
    rw [List.length_eq_zero_iff.mp hcount] at hseen
    cases hseen
  have hfits := hinvariant.fits _ hentry
  cases version with
  | stable packed =>
      have hge := hverified packed rfl
      have hle : packed ≤ columns.quantityPicked := hfits
      exact congrArg Version.stable (le_antisymm hle (not_lt.mp hge))
  | written writer committed latest =>
      cases committed with
      | none => cases hfits
      | some committed =>
          have hwriter : writer ≠ txn := by
            rintro rfl
            have howned := own_eq_some.mpr hentry
            rw [hnone] at howned
            cases howned
          exact absurd hfits.1 (hverified committed (by simp [Version.view, hwriter]))

/-! ## Writing a line -/

theorem map_ident_writeWhere {κ ρ : Type} {table : Table (Row κ ρ)} {cond : ℕ → κ → Bool}
    {change : ρ → ρ} (key : ℕ) :
    ((writeWhere table txn cond change).get? key).map Row.ident =
      (table.get? key).map Row.ident := by
  rw [writeWhere, Table.get?_mapRows, Option.map_map]
  congr 1
  funext row
  dsimp only [Function.comp]
  split <;> rfl

section SetPacked

variable {line : LineRead} {quantityPacked : ℤ}

theorem line_of_allowed (hagrees : Agrees db txn self) (hread : line ∈ self.read)
    (hnone : self.lines = fun _ => none)
    (hallowed : Allowed db txn (.setPacked line quantityPacked))
    (hfree : ∀ {row}, (line.soLineId, row) ∈ db.lines.entries → row.version.free txn = true) :
    (line.soLineId, ⟨line.columns, .stable line.quantityPacked⟩) ∈ db.lines.entries := by
  obtain ⟨⟨columns, version⟩, hget, hlatest⟩ := Option.map_eq_some_iff.mp hallowed
  have hcolumns := hagrees.read line hread
  rw [hget, Option.map_some, Option.some.injEq] at hcolumns
  have hrow := (db.lines.get?_eq_some).mp hget
  rw [← hcolumns]
  cases version with
  | stable packed =>
      rw [← hlatest]
      exact hrow
  | written writer committed latest =>
      have hwriter : writer = txn := beq_iff_eq.mp (hfree hrow)
      rw [hwriter] at hrow
      have howned := own_eq_some.mpr hrow
      rw [hagrees.lines, hnone] at howned
      cases howned

variable (hrow : (line.soLineId, ⟨line.columns, .stable line.quantityPacked⟩) ∈
    db.lines.entries)
  (hbefore : line.quantityPacked < line.columns.quantityPicked)

include hrow hbefore

theorem AllVerified.setPacked {soId : ℕ} (hverified : AllVerified db soId) :
    AllVerified { db with
      lines := writeWhere db.lines txn (fun key _ => key == line.soLineId)
        fun _ => quantityPacked } soId := by
  have hother : line.columns.soId ≠ soId := by
    intro hso
    have hstable : line.quantityPacked = line.columns.quantityPicked :=
      Version.stable.inj (hverified _ hrow hso)
    omega
  intro entry hentry hso
  rcases mem_writeRow hrow hentry with ⟨hold, -⟩ | rfl
  · exact hverified entry hold hso
  · exact absurd hso hother

theorem Moves.setPacked (hinvariant : Invariant initial db replies)
    (hafter : quantityPacked ≤ line.columns.quantityPicked) :
    Moves initial db { db with
      lines := writeWhere db.lines txn (fun key _ => key == line.soLineId)
        fun _ => quantityPacked } txn replies where
  invariant := {
    fits := by
      intro entry hentry
      rcases mem_writeRow hrow hentry with ⟨hold, -⟩ | rfl
      · exact hinvariant.fits entry hold
      · exact ⟨hbefore, hafter⟩
    counted := by
      intro entry hentry
      rcases mem_writeRow hrow hentry with ⟨hold, -⟩ | rfl
      · exact hinvariant.counted entry hold
      · have hcommitted := hinvariant.counted _ hrow
        exact hcommitted
    packed := fun entry hentry hpacked =>
      (hinvariant.packed entry hentry hpacked).setPacked hrow hbefore }
  others := fun other hother self hagrees => {
    lines := (own_writeWhere_other (allFree_row hrow rfl) _ hother).trans hagrees.lines
    orders := hagrees.orders
    read := fun read hread => (map_ident_writeWhere _).trans (hagrees.read read hread)
    verified := fun soId hso => (hagrees.verified soId hso).setPacked hrow hbefore }

end SetPacked

theorem Agrees.setPacked {line : LineRead} {quantityPacked : ℤ}
    (hagrees : Agrees db txn self) (hnone : self.lines = fun _ => none)
    (hrow : (line.soLineId, ⟨line.columns, .stable line.quantityPacked⟩) ∈ db.lines.entries)
    (hmoves : ∀ soId, AllVerified db soId → AllVerified { db with
      lines := writeWhere db.lines txn (fun key _ => key == line.soLineId)
        fun _ => quantityPacked } soId) :
    Agrees { db with
      lines := writeWhere db.lines txn (fun key _ => key == line.soLineId)
        fun _ => quantityPacked } txn
      { self with
        lines := Function.update (fun _ => none) line.soLineId
          (some (line.columns, some line.quantityPacked, quantityPacked)) } where
  lines := (own_writeKey hrow rfl _).trans (by rw [hagrees.lines, hnone]; rfl)
  orders := hagrees.orders
  read := fun read hread => (map_ident_writeWhere _).trans (hagrees.read read hread)
  verified := fun soId hso => hmoves soId (hagrees.verified soId hso)

/-! ## Writing an order -/

section Orders

variable {soId : ℕ} {order : Row OrderColumns SoStatus} {change : SoStatus → SoStatus}
  (hrow : (soId, order) ∈ db.orders.entries) (hfree : order.version.free txn = true)

include hrow hfree

theorem Moves.writeOrder (hinvariant : Invariant initial db replies) :
    Moves initial db { db with
      orders := writeWhere db.orders txn (fun key _ => key == soId) change } txn replies where
  invariant := {
    hinvariant with
    packed := by
      intro entry hentry hpacked
      rcases mem_writeRow hrow hentry with ⟨hold, -⟩ | rfl
      · exact hinvariant.packed entry hold hpacked
      · rw [Version.committed_write] at hpacked
        have hverified := hinvariant.packed (soId, order) hrow hpacked
        exact hverified }
  others := fun other hother self hagrees => {
    hagrees with
    orders := (own_writeWhere_other (allFree_row hrow hfree) _ hother).trans hagrees.orders }

theorem Agrees.writeOrder (hagrees : Agrees db txn self) :
    Agrees { db with
      orders := writeWhere db.orders txn (fun key _ => key == soId) change } txn
      { self with
        orders := Function.update self.orders soId
          (some (order.ident, order.version.committed, change order.version.latest)) } := {
  hagrees with
  orders := (own_writeKey hrow hfree _).trans (by rw [hagrees.orders]) }

end Orders

/-! ## One statement -/

theorem lockOrder_spec {scope : WarehouseScope} {result : Database × Option SoStatus}
    (hlock : perform rowOrder db txn (.lockOrder scope soId) = some result) :
    result = (db, none) ∨ ∃ order, (soId, order) ∈ db.orders.entries ∧
      order.version.free txn = true ∧ result = ({ db with
        orders := writeWhere db.orders txn (fun key _ => key == soId) id },
        some order.version.latest) := by
  rw [perform] at hlock
  split at hlock
  · exact .inl (Option.some.inj hlock).symm
  · next status hfound =>
      obtain ⟨orders, hwrite, rfl⟩ := Option.map_eq_some_iff.mp hlock
      obtain ⟨rfl, hfree⟩ := writeKey_spec hwrite
      obtain ⟨seen, hseen, -⟩ := Option.map_eq_some_iff.mp hfound
      obtain ⟨order, hget, -⟩ := Option.bind_eq_some_iff.mp (Option.filter_eq_some_iff.mp hseen).1
      have hrow := (db.orders.get?_eq_some).mp hget
      refine .inr ⟨order, hrow, hfree hrow, ?_⟩
      have hview : (order.version.write txn order.version.latest).view txn =
          some order.version.latest := by
        cases hversion : order.version with
        | stable value => simp [Version.write, Version.view, Version.latest]
        | written writer committed latest =>
            have hwriter := hfree hrow
            rw [hversion] at hwriter
            simp [Version.write, Version.view, Version.latest]
      have hread : rowByKey (writeWhere db.orders txn (fun key _ => key == soId) id) txn soId =
          some (order.ident, order.version.latest) := by
        rw [rowByKey, (Table.get?_eq_some _).mpr (mem_writeRow_self hrow), Option.bind_some]
        exact congrArg (Option.map _) hview
      rw [hread]
      rfl

theorem perform_before {statement : Statement} {post : Answer statement → Standing → Prop}
    {result : Database × Answer statement} (hinvariant : Invariant initial db replies)
    (hagrees : Agrees db txn self) (hbefore : Before self statement post)
    (hallowed : Allowed db txn statement)
    (hperform : perform rowOrder db txn statement = some result) :
    Moves initial db result.1 txn replies ∧
      ∃ standing, Agrees result.1 txn standing ∧ post result.2 standing := by
  cases statement with
  | findOrder scope soId =>
      cases hperform
      exact ⟨.refl hinvariant, self, hagrees, hbefore _⟩
  | silentlyShort soId =>
      cases hperform
      exact ⟨.refl hinvariant, self, hagrees, hbefore _⟩
  | readLines soId =>
      cases hperform
      refine ⟨.refl hinvariant, { self with read := rowOrder.order (linesSeen db txn soId) },
        { hagrees with read := ?_ }, hbefore _⟩
      intro line hline
      exact columns_of_linesSeen ((rowOrder.perm _).mem_iff.mp hline)
  | countUnverified soId =>
      cases hperform
      obtain ⟨hnone, hpost⟩ := hbefore
      refine ⟨.refl hinvariant, ?_⟩
      rcases Nat.eq_zero_or_pos (unverifiedLines db txn soId).length with hzero | hpositive
      · refine ⟨{ self with verified := soId :: self.verified },
          { hagrees with verified := ?_ }, (hpost _).2 hzero⟩
        intro other hother
        cases List.mem_cons.mp hother with
        | inl hsame =>
            rw [hsame]
            exact allVerified_of_count hinvariant (hagrees.lines.trans hnone) hzero
        | inr hold => exact hagrees.verified other hold
      · exact ⟨self, hagrees, (hpost _).1 hpositive⟩
  | setPacked line quantityPacked =>
      obtain ⟨hread, hlt, hle, hnone, hpost⟩ := hbefore
      obtain ⟨lines, hwrite, rfl⟩ := Option.map_eq_some_iff.mp hperform
      obtain ⟨rfl, hfree⟩ := writeKey_spec hwrite
      have hrow := line_of_allowed hagrees hread hnone hallowed hfree
      exact ⟨.setPacked hrow hlt hinvariant hle, _,
        hagrees.setPacked hnone hrow fun soId hverified => hverified.setPacked hrow hlt, hpost⟩
  | lockOrder scope soId =>
      obtain ⟨hmissing, hfound⟩ := hbefore
      rcases lockOrder_spec hperform with rfl | ⟨order, hrow, hfree, rfl⟩
      · exact ⟨.refl hinvariant, self, hagrees, hmissing⟩
      · exact ⟨.writeOrder hrow hfree hinvariant, _, hagrees.writeOrder hrow hfree,
          hfound _ _ _⟩
  | markPacked soId =>
      obtain ⟨columns, committed, status, hheld, hpost⟩ := hbefore
      obtain ⟨orders, hwrite, rfl⟩ := Option.map_eq_some_iff.mp hperform
      obtain ⟨rfl, hfree⟩ := writeKey_spec hwrite
      rw [← hagrees.orders, own_eq_some] at hheld
      exact ⟨.writeOrder hheld (hfree hheld) hinvariant, _,
        hagrees.writeOrder hheld (hfree hheld), hpost⟩

/-! ## The end of a transaction -/

variable {row : Row LineColumns ℤ}

theorem Fits.undo (hfits : Fits row) (txn : ℕ) :
    Fits { row with version := row.version.undo txn } := by
  obtain ⟨columns, version⟩ := row
  cases version with
  | stable packed => exact hfits
  | written writer committed latest =>
      cases committed with
      | none => cases hfits
      | some committed =>
          by_cases hwriter : writer = txn
          · have hle : committed ≤ columns.quantityPicked := hfits.1.le
            simpa [Version.undo, hwriter, Fits] using hle
          · simpa [Version.undo, hwriter] using hfits

theorem Fits.settle (hfits : Fits row) (txn : ℕ) :
    Fits { row with version := row.version.settle txn } := by
  obtain ⟨columns, version⟩ := row
  cases version with
  | stable packed => exact hfits
  | written writer committed latest =>
      cases committed with
      | none => cases hfits
      | some committed =>
          by_cases hwriter : writer = txn
          · have hle : latest ≤ columns.quantityPicked := hfits.2
            simpa [Version.settle, hwriter, Fits] using hle
          · simpa [Version.settle, hwriter] using hfits

theorem Fits.not_insertedBy (hfits : Fits row) :
    row.version.insertedBy txn = false := by
  obtain ⟨columns, version⟩ := row
  cases version with
  | stable packed => rfl
  | written writer committed latest =>
      cases committed with
      | none => cases hfits
      | some committed => rfl

theorem AllVerified.rollback (hverified : AllVerified db soId) :
    AllVerified ((engine rowOrder).rollback db txn) soId := by
  intro entry hentry hso
  obtain ⟨before, hbefore, -, hrow⟩ := mem_rollbackRows hentry
  rw [hrow] at hso ⊢
  have hstable : before.version = .stable before.ident.quantityPicked :=
    hverified _ hbefore hso
  dsimp only
  rw [hstable]
  rfl

theorem AllVerified.commit (hverified : AllVerified db soId) :
    AllVerified ((engine rowOrder).commit db txn) soId := by
  intro entry hentry hso
  obtain ⟨before, hbefore, hrow⟩ := (Table.mem_mapRows _).mp hentry
  rw [← hrow] at hso ⊢
  have hstable : before.version = .stable before.ident.quantityPicked :=
    hverified _ hbefore hso
  dsimp only
  rw [hstable]
  rfl

theorem Invariant.rollback (hinvariant : Invariant initial db replies) (txn : ℕ) :
    Invariant initial ((engine rowOrder).rollback db txn) replies where
  fits := by
    intro entry hentry
    obtain ⟨before, hbefore, -, hrow⟩ := mem_rollbackRows hentry
    rw [hrow]
    exact (hinvariant.fits _ hbefore).undo txn
  counted := by
    intro entry hentry
    obtain ⟨before, hbefore, -, hrow⟩ := mem_rollbackRows hentry
    rw [hrow, Version.committed_undo]
    exact hinvariant.counted _ hbefore
  packed := by
    intro entry hentry hpacked
    obtain ⟨before, hbefore, -, hrow⟩ := mem_rollbackRows hentry
    rw [hrow, Version.committed_undo] at hpacked
    exact (hinvariant.packed _ hbefore hpacked).rollback

theorem Agrees.rollback_other (hinvariant : Invariant initial db replies)
    (hagrees : Agrees db other self) (hother : other ≠ txn) :
    Agrees ((engine rowOrder).rollback db txn) other self where
  lines := (own_rollbackRows_other _ hother).trans hagrees.lines
  orders := (own_rollbackRows_other _ hother).trans hagrees.orders
  read := by
    intro line hline
    obtain ⟨row, hget, hcolumns⟩ := Option.map_eq_some_iff.mp (hagrees.read line hline)
    have hrow := (db.lines.get?_eq_some).mp hget
    have hkept : (line.soLineId, { row with version := row.version.undo txn }) ∈
        (rollbackRows db.lines txn).entries :=
      mem_rollbackRows_of hrow (hinvariant.fits _ hrow).not_insertedBy
    change ((rollbackRows db.lines txn).get? line.soLineId).map Row.ident = _
    rw [(Table.get?_eq_some _).mpr hkept, ← hcolumns]
    rfl
  verified := fun soId hso => (hagrees.verified soId hso).rollback

theorem Agrees.commit_other (hagrees : Agrees db other self) (hother : other ≠ txn) :
    Agrees ((engine rowOrder).commit db txn) other self where
  lines := (own_commitRows_other _ hother).trans hagrees.lines
  orders := (own_commitRows_other _ hother).trans hagrees.orders
  read := by
    intro line hline
    rw [← hagrees.read line hline]
    change ((commitRows db.lines txn).get? line.soLineId).map Row.ident = _
    rw [commitRows, Table.get?_mapRows, Option.map_map]
    rfl
  verified := fun soId hso => (hagrees.verified soId hso).commit

theorem idle_rollback : Agrees ((engine rowOrder).rollback db txn) txn .idle :=
  ⟨own_rollbackRows _ _, own_rollbackRows _ _, nofun, nofun⟩

theorem idle_commit : Agrees ((engine rowOrder).commit db txn) txn .idle :=
  ⟨own_commitRows _ _, own_commitRows _ _, nofun, nofun⟩

/-! ## A commit -/

theorem verifiedOf_append (soLineId : ℕ) (replies : List Reply) (value : Reply) :
    ((replies ++ [value]).map (Reply.verifiedOf soLineId)).sum =
      (replies.map (Reply.verifiedOf soLineId)).sum + value.verifiedOf soLineId := by
  rw [List.map_append, List.sum_append, List.map_singleton, List.sum_singleton]

theorem counted_commit {soLineId : ℕ} {quantity packed : ℤ} {columns : LineColumns}
    (hinvariant : Invariant initial db replies)
    (hown : own db.lines txn = Function.update (fun _ => none) soLineId
      (some (columns, some packed, packed + quantity)))
    {entry : ℕ × Row LineColumns ℤ} (hentry : entry ∈ (commitRows db.lines txn).entries) :
    entry.2.version.committed = some (packedOf initial entry.1 +
      ((replies ++ [Reply.verified soLineId quantity]).map (Reply.verifiedOf entry.1)).sum) := by
  have hrow : (soLineId, ⟨columns, .written txn (some packed) (packed + quantity)⟩) ∈
      db.lines.entries := by
    rw [← own_eq_some, hown, Function.update_self]
  rw [verifiedOf_append, Reply.verifiedOf, ← add_assoc]
  rcases mem_commitRows hown hentry with ⟨hold, hunowned⟩ | rfl
  · have hne : soLineId ≠ entry.1 := by
      rintro rfl
      rw [db.lines.row_unique hold hrow] at hunowned
      simp [Version.ownedBy] at hunowned
    rw [if_neg hne, add_zero]
    exact hinvariant.counted entry hold
  · have hcommitted := Option.some.inj (hinvariant.counted _ hrow)
    rw [if_pos rfl, ← hcommitted]
    rfl

theorem Invariant.commit {value : Reply} (hinvariant : Invariant initial db replies)
    (hagrees : Agrees db txn self) (hcommits : Commits self value) :
    Invariant initial ((engine rowOrder).commit db txn) (replies ++ [value]) := by
  have hfits : ∀ entry ∈ (commitRows db.lines txn).entries, Fits entry.2 := by
    intro entry hentry
    obtain ⟨before, hbefore, hrow⟩ := (Table.mem_mapRows _).mp hentry
    rw [← hrow]
    exact (hinvariant.fits _ hbefore).settle txn
  cases value with
  | refused refusal => cases hcommits
  | verified soLineId quantity =>
      obtain ⟨horders, columns, packed, hlines⟩ := hcommits
      refine ⟨hfits, fun entry hentry =>
        counted_commit hinvariant (hagrees.lines.trans hlines) hentry, ?_⟩
      intro entry hentry hpacked
      have hsame : commitRows db.orders txn = db.orders :=
        commitRows_of_own_none (hagrees.orders.trans horders)
      change entry ∈ (commitRows db.orders txn).entries at hentry
      rw [hsame] at hentry
      exact (hinvariant.packed entry hentry hpacked).commit
  | packed soId =>
      obtain ⟨hlines, hverified, columns, committed, horders⟩ := hcommits
      refine ⟨hfits, ?_, ?_⟩
      · intro entry hentry
        have hsame : commitRows db.lines txn = db.lines :=
          commitRows_of_own_none (hagrees.lines.trans hlines)
        change entry ∈ (commitRows db.lines txn).entries at hentry
        rw [hsame] at hentry
        rw [verifiedOf_append]
        simpa only [Reply.verifiedOf, add_zero] using hinvariant.counted entry hentry
      · intro entry hentry hpacked
        rcases mem_commitRows (hagrees.orders.trans horders) hentry with ⟨hold, -⟩ | rfl
        · exact (hinvariant.packed entry hold hpacked).commit
        · exact (hagrees.verified soId hverified).commit

theorem Invariant.refuse (hinvariant : Invariant initial db replies) (refusal : Refusal) :
    Invariant initial db (replies ++ [.refused refusal]) where
  fits := hinvariant.fits
  counted := by
    intro entry hentry
    rw [verifiedOf_append]
    simpa only [Reply.verifiedOf, add_zero] using hinvariant.counted entry hentry
  packed := hinvariant.packed

/-! ## The requests -/

theorem verifyItem_balanced (scope : WarehouseScope) (request : VerifyPackItemRequest) :
    Balanced .idle (verifyItem scope request) := by
  intro (status : Option SoStatus)
  cases status with
  | none => exact ⟨_, rfl⟩
  | some status =>
      change Balanced .idle (if status ≠ .picked then _ else _)
      split
      · exact ⟨_, rfl⟩
      intro lines
      dsimp only
      cases hmatched : matchedLine request.scannedBarcode lines with
      | none => exact ⟨_, rfl⟩
      | some line =>
          change Balanced _ (if _ then _ else _)
          split
          · exact ⟨_, rfl⟩
          · next henough =>
              have hline := List.find?_some hmatched
              rw [Bool.and_eq_true, decide_eq_true_eq] at hline
              have hpositive := request.quantityPos
              refine ⟨List.mem_of_find?_eq_some hmatched, hline.2, ?_, rfl, rfl, _, _, rfl⟩
              omega

theorem completePacking_balanced (scope : WarehouseScope) (soId : ℕ) :
    Balanced .idle (completePacking scope soId) := by
  refine ⟨⟨_, rfl⟩, fun columns committed status => ?_⟩
  change Balanced _ (if status ≠ .picked then _ else _)
  split
  · exact ⟨_, rfl⟩
  refine ⟨rfl, fun (unverified : ℕ) => ⟨fun hpositive => ?_, fun hzero => ?_⟩⟩
  · change Balanced _ (if 0 < unverified then _ else _)
    rw [if_pos hpositive]
    exact ⟨_, rfl⟩
  · change Balanced _ (if 0 < unverified then _ else _)
    rw [if_neg (by omega)]
    intro (lines : List LineRead)
    cases lines with
    | cons first rest => exact ⟨_, rfl⟩
    | nil =>
        refine ⟨columns, committed, status, Function.update_self _ _ _, rfl,
          List.mem_cons_self, columns, committed, ?_⟩
        exact Function.update_idem _ _ _

theorem program_balanced (request : PackRequest) : Balanced .idle request.program := by
  cases request with
  | verify scope request => exact verifyItem_balanced scope request
  | complete scope soId => exact completePacking_balanced scope soId

/-! ## Runs -/

theorem Stands.mono {session : Option PackProgram}
    (hmono : ∀ self, Agrees db txn self → Agrees after txn self)
    (hstands : Stands db txn session) : Stands after txn session := by
  cases session with
  | none => exact hmono _ hstands
  | some program =>
      obtain ⟨self, hagrees, hbalanced⟩ := hstands
      exact ⟨self, hmono self hagrees, hbalanced⟩

theorem cooperating (rowOrder : RowOrder LineRead) (initial : Database) :
    Cooperating (engine rowOrder) PackRequest.program Allowed (Invariant initial) Stands where
  begins := fun _ hidle request => ⟨.idle, hidle, program_balanced request⟩
  performs := by
    intro db replies txn statement next result hinvariant hstands hallowed hperform
    obtain ⟨self, hagrees, hbefore⟩ := hstands
    obtain ⟨hmoves, standing, hafter, hpost⟩ :=
      perform_before hinvariant hagrees hbefore hallowed hperform
    exact ⟨hmoves.invariant, ⟨standing, hafter, hpost⟩, fun other hother session hstands =>
      hstands.mono fun self hagrees => hmoves.others other hother self hagrees⟩
  commits := by
    intro db replies txn value hinvariant hstands
    obtain ⟨self, hagrees, hcommits⟩ := hstands
    exact ⟨hinvariant.commit hagrees hcommits, idle_commit, fun other hother session hstands =>
      hstands.mono fun self hagrees => hagrees.commit_other hother⟩
  refuses := by
    intro db replies txn value hinvariant hstands
    obtain ⟨self, -, refusal, rfl⟩ := hstands
    exact (hinvariant.rollback txn).refuse refusal
  rollsBack := by
    intro db replies txn session hinvariant _
    exact ⟨hinvariant.rollback txn, idle_rollback, fun other hother session hstands =>
      hstands.mono fun self hagrees => hagrees.rollback_other hinvariant hother⟩

theorem Invariant.countedOnce (hinvariant : Invariant initial db replies) :
    CountedOnce initial db replies where
  lines := by
    intro soLineId row packed hrow hcommitted
    have hcounted : row.version.committed = _ := hinvariant.counted _ hrow
    rw [hcommitted] at hcounted
    refine ⟨Option.some.inj hcounted, ?_⟩
    have hfits := hinvariant.fits _ hrow
    obtain ⟨columns, version⟩ := row
    cases version with
    | stable value => exact Option.some.inj hcommitted ▸ hfits
    | written writer committed latest =>
        cases committed with
        | none => cases hcommitted
        | some committed => exact Option.some.inj hcommitted ▸ hfits.1.le
  orders := by
    intro soId order horder hpacked soLineId row hrow hso
    have hstable : row.version = .stable row.ident.quantityPicked :=
      hinvariant.packed _ horder hpacked _ hrow hso
    rw [hstable]
    rfl

/-- No transaction is open, no line is packed beyond what was picked, and a packed order has
all its lines verified. -/
structure AtRest (db : Database) : Prop where
  lines : ∀ entry ∈ db.lines.entries, ∃ packed ≤ entry.2.ident.quantityPicked,
    entry.2.version = .stable packed
  orders : ∀ entry ∈ db.orders.entries, ∃ status, entry.2.version = .stable status ∧
    (status = .packed → AllVerified db entry.1)

theorem AtRest.idle (hrest : AtRest db) (txn : ℕ) : Agrees db txn .idle := by
  refine ⟨own_stable txn fun entry hentry => ?_, own_stable txn fun entry hentry => ?_,
    nofun, nofun⟩
  · obtain ⟨packed, -, hstable⟩ := hrest.lines entry hentry
    exact ⟨packed, hstable⟩
  · obtain ⟨status, hstable, -⟩ := hrest.orders entry hentry
    exact ⟨status, hstable⟩

theorem AtRest.invariant (hrest : AtRest db) : Invariant db db [] where
  fits := by
    intro entry hentry
    obtain ⟨packed, hle, hstable⟩ := hrest.lines entry hentry
    rw [Fits, hstable]
    exact hle
  counted := by
    intro entry hentry
    obtain ⟨packed, -, hstable⟩ := hrest.lines entry hentry
    rw [packedOf, (db.lines.get?_eq_some).mpr hentry, Option.bind_some, hstable]
    simp [Version.committed]
  packed := by
    intro entry hentry hpacked
    obtain ⟨status, hstable, hverified⟩ := hrest.orders entry hentry
    rw [hstable] at hpacked
    exact hverified (Option.some.inj hpacked)

/-- In every run whose verifications write lines that still hold what was read, in every
state it reaches, every line has its initial counter and what was verified of it, not more
than was picked, and a packed order has all its lines packed. -/
theorem verifiedOnce_of_run (rowOrder : RowOrder LineRead) {db : Database}
    {acts : List (Act PackRequest)} {after : PackSystem} (hrest : AtRest db)
    (hrun : Run (Interleaving.step (engine rowOrder) PackRequest.program) (Guarded Allowed)
      ⟨db, fun _ => none, []⟩ acts after) :
    CountedOnce db after.db after.replies := by
  have hstart : Together (Invariant db) Stands (⟨db, fun _ => none, []⟩ : PackSystem) :=
    ⟨hrest.invariant, fun txn => hrest.idle txn⟩
  exact (run_together (cooperating rowOrder db) hstart hrun).inv.countedOnce

/-! ## Two scans of one line -/

/-- A picked order with two units of one item. -/
def pickedOrder : Database where
  items := .ofRows [⟨"SKU-1", some "5940001", [], true, none⟩]
  orders := ofCommitted [(⟨"SO-1", 1⟩, .picked)]
  lines := ofCommitted [(⟨1, 1, 2, 2⟩, 0)]
  shortMarked := []

def oneUnit : PackRequest :=
  .verify ⟨none⟩ ⟨1, "5940001", 1, by decide, by decide⟩

def scanInTurn : List (Act PackRequest) :=
  .start 1 oneUnit :: List.replicate 4 (.advance 1) ++
    .start 2 oneUnit :: List.replicate 4 (.advance 2) ++
    .start 3 (.complete ⟨none⟩ 1) :: List.replicate 5 (.advance 3)

/-- Both scans read the line before either writes it. -/
def scanAtOnce : List (Act PackRequest) :=
  [.start 1 oneUnit, .start 2 oneUnit, .advance 1, .advance 1, .advance 2, .advance 2,
    .advance 1, .advance 1, .advance 2, .advance 2]

def endOf (guard : PackSystem → Act PackRequest → Prop)
    [∀ system act, Decidable (guard system act)] (acts : List (Act PackRequest)) :
    PackSystem :=
  (execute (Interleaving.step (engine (.byKey _)) PackRequest.program) guard
    ⟨pickedOrder, fun _ => none, []⟩ acts).getD ⟨pickedOrder, fun _ => none, []⟩

theorem pickedOrder_atRest : AtRest pickedOrder where
  lines := by
    intro entry hentry
    rw [List.mem_singleton.mp hentry]
    exact ⟨0, by decide, rfl⟩
  orders := by
    intro entry hentry
    rw [List.mem_singleton.mp hentry]
    exact ⟨.picked, rfl, nofun⟩

theorem countedOnce_scanInTurn :
    CountedOnce pickedOrder (endOf (Guarded Allowed) scanInTurn).db
      (endOf (Guarded Allowed) scanInTurn).replies :=
  verifiedOnce_of_run (.byKey _) pickedOrder_atRest
    (Run.ofExecute (rfl : execute _ _ _ scanInTurn =
      some (endOf (Guarded Allowed) scanInTurn)))

example : (endOf (Guarded Allowed) scanInTurn).replies =
    [.verified 1 1, .verified 1 1, .packed 1] := by
  decide

/-- Both scans are accepted, and the line counts one. -/
theorem scans_at_once_count_one :
    Run (Interleaving.step (engine (.byKey _)) PackRequest.program) (fun _ _ => True)
        ⟨pickedOrder, fun _ => none, []⟩ scanAtOnce (endOf (fun _ _ => True) scanAtOnce) ∧
      (∀ txn ∈ [1, 2], (endOf (fun _ _ => True) scanAtOnce).sessions txn = none) ∧
      (endOf (fun _ _ => True) scanAtOnce).replies = [.verified 1 1, .verified 1 1] ∧
      packedOf (endOf (fun _ _ => True) scanAtOnce).db 1 = 1 ∧
      ¬ CountedOnce pickedOrder (endOf (fun _ _ => True) scanAtOnce).db
        (endOf (fun _ _ => True) scanAtOnce).replies := by
  refine ⟨Run.ofExecute rfl, ?_, by decide, by decide, fun hcounted => ?_⟩
  · intro txn htxn
    fin_cases htxn <;> rfl
  · have hline := hcounted.lines 1 ⟨⟨1, 1, 2, 2⟩, .stable 1⟩ 1 (by decide) rfl
    exact absurd hline.1 (by decide)

end SentryWms.Packing
