import SentryWms.Receiving.EntryRequests

/-!
# A mobile stock entry counts once

An entry is written under the lock of its idempotency key, once no row with that key is
seen. As long as the row is there a retry finds it; the reversal deletes it, so that a
retry after the reversal finds nothing and adds again. Where no entry is written under a
key that has been reversed, every key adds once and is removed once, and the stock that
the entries have brought to a bin is what their rows say.
-/

namespace SentryWms.EntryRequests

open Relational ReadCommitted Interleaving Transition Counting
open StockRequests (Place Quantities StockRow)

/-! ## The property -/

def onHandIn (region : ℕ → ℕ → Bool) (place : Place) (quantities : Quantities) : ℤ :=
  if region place.itemId place.binId then quantities.onHand else 0

def enteredIn (region : ℕ → ℕ → Bool) (columns : EntryColumns) (present : Option Unit) : ℤ :=
  present.elim 0 fun _ => if region columns.itemId columns.binId then columns.quantity else 0

def stockIn (db : Database) (region : ℕ → ℕ → Bool) : ℤ :=
  committedTotal (onHandIn region) db.stock

def entriesIn (db : Database) (region : ℕ → ℕ → Bool) : ℤ :=
  committedTotal (enteredIn region) db.entries

def ofBin (itemId binId item bin : ℕ) : Bool :=
  item == itemId && bin == binId

def Reply.addedKey : Reply → Option String
  | .added _ columns _ => some columns.idempotencyKey
  | _ => none

def Reply.removedKey : Reply → Option String
  | .removed _ columns _ => some columns.idempotencyKey
  | _ => none

def Reply.deltaIn (region : ℕ → ℕ → Bool) : Reply → ℤ
  | .added _ columns _ => if region columns.itemId columns.binId then columns.quantity else 0
  | .removed _ columns _ =>
      if region columns.itemId columns.binId then -columns.quantity else 0
  | _ => 0

def rememberedKeys (db : Database) : List String :=
  (committedRows db.entries).filterMap fun row => row.2.map fun _ => row.1.idempotencyKey

def reversedKeys (db : Database) : List String :=
  (committedRows db.reversals).map fun row => row.1.idempotencyKey

/-- Every key adds at most once and is removed at most once, what the requests have brought
to a bin is what the existing entries say, and no key adds after it was reversed. -/
structure CountedOnce (initial db : Database) (replies : List Reply) : Prop where
  addsOnce : (rememberedKeys initial ++ replies.filterMap Reply.addedKey).Nodup
  removesOnce : (replies.filterMap Reply.removedKey).Nodup
  stock : ∀ itemId binId,
    stockIn db (ofBin itemId binId) - stockIn initial (ofBin itemId binId) =
      entriesIn db (ofBin itemId binId) - entriesIn initial (ofBin itemId binId)
  contributed : ∀ itemId binId,
    (replies.map (Reply.deltaIn (ofBin itemId binId))).sum =
      entriesIn db (ofBin itemId binId) - entriesIn initial (ofBin itemId binId)
  staysReversed : ∀ earlier later, replies = earlier ++ later →
    ∀ key ∈ earlier.filterMap Reply.removedKey, key ∉ later.filterMap Reply.addedKey

/-! ## The condition -/

/-- An entry is not written under a key that has been reversed. -/
def Allowed (db : Database) (_ : ℕ) : Statement → Prop
  | .insertEntry columns => columns.idempotencyKey ∉ reversedKeys db
  | _ => True

instance (db : Database) (txn : ℕ) (statement : Statement) :
    Decidable (Allowed db txn statement) := by
  cases statement <;> unfold Allowed <;> infer_instance

/-! ## Where a session stands -/

/-- What a session holds and has changed, and the keys it knows to be free. -/
structure Standing where
  stock : ℕ → Option (Place × Option Quantities × Quantities)
  stockChange : (ℕ → ℕ → Bool) → ℤ
  entries : ℕ → Option (EntryColumns × Option (Option Unit) × Option Unit)
  entryChange : (ℕ → ℕ → Bool) → ℤ
  reversing : List (Reversal × Unit)
  locked : List ℤ
  fresh : List String

/-- A session that has done nothing. -/
def Standing.idle : Standing :=
  ⟨fun _ => none, fun _ => 0, fun _ => none, fun _ => 0, [], [], []⟩

/-- The session has moved a quantity, and holds other rows. -/
def Standing.move (self : Standing)
    (stock : ℕ → Option (Place × Option Quantities × Quantities)) (itemId binId : ℕ)
    (delta : ℤ) : Standing :=
  { self with
    stock
    stockChange := fun region => self.stockChange region +
      if region itemId binId then delta else 0 }

def Standing.write (self : Standing) (stockEntryId : ℕ) (columns : EntryColumns)
    (committed : Option (Option Unit)) (latest : Option Unit) (delta : ℤ) : Standing :=
  { self with
    entries := Function.update self.entries stockEntryId (some (columns, committed, latest))
    entryChange := fun region => self.entryChange region +
      if region columns.itemId columns.binId then delta else 0 }

variable (hashtext : String → ℤ)

/-- A row with the key is gone, or the transaction has inserted it; nobody else inserts
one. -/
def Fresh (db : Database) (txn : ℕ) (idempotencyKey : String) : Prop :=
  (txn, hashtext idempotencyKey) ∈ db.codeLocks ∧
    ∀ entry ∈ db.entries.entries, entry.2.ident.idempotencyKey = idempotencyKey →
      entry.2.version = .stable none ∨ entry.2.version.insertedBy txn = true

/-- A transaction stands where the session believes. -/
structure Agrees (db : Database) (txn : ℕ) (standing : Standing) : Prop where
  stock : own db.stock txn = standing.stock
  stockChange : ∀ region, changeTotal (onHandIn region) db.stock txn = standing.stockChange region
  entries : own db.entries txn = standing.entries
  entryChange : ∀ region,
    changeTotal (enteredIn region) db.entries txn = standing.entryChange region
  reversing : writtenBy db.reversals txn = standing.reversing
  locked : ∀ hash ∈ standing.locked, (txn, hash) ∈ db.codeLocks
  fresh : ∀ key ∈ standing.fresh, Fresh hashtext db txn key

/-- What a session has to know before a statement so that an assertion holds after it. -/
def Before (self : Standing) :
    (statement : Statement) → (Answer statement → Standing → Prop) → Prop
  | .lockCode hash, post => post () { self with locked := hash :: self.locked }
  | .entryByKey idempotencyKey, post =>
      hashtext idempotencyKey ∈ self.locked ∧ self.entries = (fun _ => none) ∧
        (∀ found, post (some found) self) ∧
        post none { self with fresh := idempotencyKey :: self.fresh }
  | .lockRows itemId binId _, post =>
      ∀ stock (answer : Option StockRow),
        (∀ found, answer = some found → found.2.1.inBin itemId binId = true ∧
          ∃ committed, stock found.1 = some (found.2.1, committed, found.2.2)) →
        post answer { self with stock }
  | .addOnHand inventoryId quantity, post =>
      ∃ place committed quantities,
        self.stock inventoryId = some (place, committed, quantities) ∧
        ∀ stock, post () (self.move stock place.itemId place.binId quantity)
  | .setOnHand inventoryId quantity, post =>
      ∃ place committed quantities,
        self.stock inventoryId = some (place, committed, quantities) ∧
        ∀ stock, post ()
          (self.move stock place.itemId place.binId (quantity - quantities.onHand))
  | .insertStock place quantity, post =>
      ∀ stock, post () (self.move stock place.itemId place.binId quantity)
  | .insertEntry columns, post =>
      columns.idempotencyKey ∈ self.fresh ∧ self.entries = (fun _ => none) ∧
        post none self ∧ ∀ stockEntryId, post (some stockEntryId)
          (self.write stockEntryId columns none (some ()) columns.quantity)
  | .lockEntry stockEntryId, post =>
      self.entries = (fun _ => none) ∧ post none self ∧ ∀ columns, post (some columns)
        (self.write stockEntryId columns (some (some ())) (some ()) 0)
  | .deleteEntry stockEntryId, post =>
      ∃ columns committed,
        self.entries stockEntryId = some (columns, committed, some ()) ∧
        post () (self.write stockEntryId columns committed none (-columns.quantity))
  | .logReversal reversal, post =>
      post () { self with reversing := self.reversing ++ [(reversal, ())] }
  | _, post => ∀ answer, post answer self

def Commits (self : Standing) : Reply → Prop
  | .added stockEntryId columns created =>
      (∀ region, self.stockChange region =
        (Reply.added stockEntryId columns created).deltaIn region) ∧
      (∀ region, self.entryChange region =
        (Reply.added stockEntryId columns created).deltaIn region) ∧
      self.entries = Function.update (fun _ => none) stockEntryId
        (some (columns, none, some ())) ∧
      self.reversing = []
  | .removed stockEntryId columns quantityInBin =>
      (∀ region, self.stockChange region =
        (Reply.removed stockEntryId columns quantityInBin).deltaIn region) ∧
      (∀ region, self.entryChange region =
        (Reply.removed stockEntryId columns quantityInBin).deltaIn region) ∧
      self.entries = Function.update (fun _ => none) stockEntryId
        (some (columns, some (some ()), none)) ∧
      self.reversing = [(⟨stockEntryId, columns.idempotencyKey⟩, ())]
  | _ => False

/-- A reply that is not followed by a commit. -/
def Reply.changesNothing : Reply → Prop
  | .refused _ | .repeated _ _ => True
  | _ => False

/-- From where a session stands, its program commits what it has changed and says so. -/
def Balanced (self : Standing) : EntryProgram → Prop
  | .reply true value => Commits self value
  | .reply false value => value.changesNothing
  | .exec statement next =>
      Before hashtext self statement fun answer after => Balanced after (next answer)

def Stands (db : Database) (txn : ℕ) : Option EntryProgram → Prop
  | none => Agrees hashtext db txn .idle
  | some program => ∃ self, Agrees hashtext db txn self ∧ Balanced hashtext self program

/-! ## The invariant -/

structure Remembered (initial : List String) (db : Database) (replies : List Reply) :
    Prop where
  exclusive : Exclusive db.codeLocks
  inserting : ∀ entry ∈ db.entries.entries, ∀ writer, entry.2.version.insertedBy writer = true →
    (writer, hashtext entry.2.ident.idempotencyKey) ∈ db.codeLocks
  distinct : ((idents db.entries).map EntryColumns.idempotencyKey).Nodup
  gone : ∀ entry ∈ db.entries.entries, entry.2.version.committed = some none →
    entry.2.version = .stable none ∧ entry.2.ident.idempotencyKey ∈ reversedKeys db
  known : ∀ key ∈ initial ++ replies.filterMap Reply.addedKey,
    ∃ entry ∈ db.entries.entries, entry.2.ident.idempotencyKey = key ∧
      entry.2.version.committed.isSome = true
  removed : ∀ key ∈ replies.filterMap Reply.removedKey,
    ∃ entry ∈ db.entries.entries, entry.2.ident.idempotencyKey = key ∧
      entry.2.version = .stable none
  addsOnce : (initial ++ replies.filterMap Reply.addedKey).Nodup
  removesOnce : (replies.filterMap Reply.removedKey).Nodup
  staysReversed : ∀ earlier later, replies = earlier ++ later →
    ∀ key ∈ earlier.filterMap Reply.removedKey, key ∉ later.filterMap Reply.addedKey

/-- What the requests have replied is what they have brought to every region. -/
structure Accounted (initial db : Database) (replies : List Reply) : Prop where
  stock : ∀ region, stockIn db region =
    stockIn initial region + (replies.map (Reply.deltaIn region)).sum
  entries : ∀ region, entriesIn db region =
    entriesIn initial region + (replies.map (Reply.deltaIn region)).sum

structure Invariant (initial db : Database) (replies : List Reply) : Prop where
  remembered : Remembered hashtext (rememberedKeys initial) db replies
  accounted : Accounted initial db replies

variable {hashtext} {fetchOne : FetchOne (Place × Quantities)} {initial db after : Database}
  {txn other : ℕ} {replies : List Reply} {self : Standing}

/-- A step keeps the invariant, and the other sessions stand where they stood. -/
structure Moves (hashtext : String → ℤ) (initial db after : Database) (txn : ℕ)
    (replies : List Reply) : Prop where
  invariant : Invariant hashtext initial after replies
  others : ∀ other ≠ txn, ∀ self, Agrees hashtext db other self → Agrees hashtext after other self

/-! ## Statements on other tables -/

theorem Agrees.congr (hagrees : Agrees hashtext db txn self) (hstock : after.stock = db.stock)
    (hentries : after.entries = db.entries) (hreversals : after.reversals = db.reversals)
    (hlocks : after.codeLocks = db.codeLocks) : Agrees hashtext after txn self where
  stock := by rw [hstock, hagrees.stock]
  stockChange := by
    rw [hstock]
    exact hagrees.stockChange
  entries := by rw [hentries, hagrees.entries]
  entryChange := by
    rw [hentries]
    exact hagrees.entryChange
  reversing := by rw [hreversals, hagrees.reversing]
  locked := by
    rw [hlocks]
    exact hagrees.locked
  fresh := by
    intro key hkey
    rw [Fresh, hlocks, hentries]
    exact hagrees.fresh key hkey

variable {keys : List String}

theorem Remembered.congr (hremembered : Remembered hashtext keys db replies)
    (hentries : after.entries = db.entries) (hreversals : after.reversals = db.reversals)
    (hlocks : after.codeLocks = db.codeLocks) : Remembered hashtext keys after replies where
  exclusive := hlocks ▸ hremembered.exclusive
  inserting := by
    rw [hentries, hlocks]
    exact hremembered.inserting
  distinct := hentries ▸ hremembered.distinct
  gone := by
    rw [hentries, reversedKeys, hreversals]
    exact hremembered.gone
  known := hentries ▸ hremembered.known
  removed := hentries ▸ hremembered.removed
  addsOnce := hremembered.addsOnce
  removesOnce := hremembered.removesOnce
  staysReversed := hremembered.staysReversed

theorem Accounted.congr (haccounted : Accounted initial db replies)
    (hstock : ∀ region, stockIn after region = stockIn db region)
    (hentries : ∀ region, entriesIn after region = entriesIn db region) :
    Accounted initial after replies where
  stock := fun region => (hstock region).trans (haccounted.stock region)
  entries := fun region => (hentries region).trans (haccounted.entries region)

theorem Moves.same (hinvariant : Invariant hashtext initial db replies)
    (hstock : after.stock = db.stock) (hentries : after.entries = db.entries)
    (hreversals : after.reversals = db.reversals) (hlocks : after.codeLocks = db.codeLocks) :
    Moves hashtext initial db after txn replies where
  invariant :=
    ⟨hinvariant.remembered.congr hentries hreversals hlocks,
      hinvariant.accounted.congr (fun _ => by rw [stockIn, hstock, stockIn])
        fun _ => by rw [entriesIn, hentries, entriesIn]⟩
  others := fun _ _ _ hagrees => hagrees.congr hstock hentries hreversals hlocks

/-! ## Statements on the inventory -/

theorem Moves.stock (hinvariant : Invariant hashtext initial db replies)
    (htotal : ∀ region, stockIn after region = stockIn db region)
    (hown : ∀ other ≠ txn, own after.stock other = own db.stock other)
    (hchange : ∀ other ≠ txn, ∀ region, changeTotal (onHandIn region) after.stock other =
      changeTotal (onHandIn region) db.stock other)
    (hentries : after.entries = db.entries) (hreversals : after.reversals = db.reversals)
    (hlocks : after.codeLocks = db.codeLocks) : Moves hashtext initial db after txn replies where
  invariant :=
    ⟨hinvariant.remembered.congr hentries hreversals hlocks,
      hinvariant.accounted.congr htotal fun _ => by rw [entriesIn, hentries, entriesIn]⟩
  others := by
    intro other hother self hagrees
    have hrest : Agrees hashtext { after with stock := db.stock } other self :=
      hagrees.congr rfl hentries hreversals hlocks
    exact { hrest with
      stock := (hown other hother).trans hagrees.stock
      stockChange := fun region => (hchange other hother region).trans
        (hagrees.stockChange region) }

variable {change : Quantities → Quantities}

theorem writeStock_spec {cond : ℕ → Place → Bool}
    (hwrite : writeStock db txn cond change = some after) :
    allFree db.stock txn cond = true ∧
      after = { db with stock := writeWhere db.stock txn cond change } := by
  rw [writeStock] at hwrite
  split at hwrite
  · next hfree => exact ⟨hfree, (Option.some.inj hwrite).symm⟩
  · cases hwrite

theorem Moves.writeStock (hinvariant : Invariant hashtext initial db replies)
    {cond : ℕ → Place → Bool} (hwrite : writeStock db txn cond change = some after) :
    Moves hashtext initial db after txn replies := by
  obtain ⟨hfree, rfl⟩ := writeStock_spec hwrite
  exact .stock hinvariant (fun _ => committedTotal_writeWhere change)
    (fun _ hother => own_writeWhere_other hfree change hother)
    (fun _ hother _ => changeTotal_writeWhere_other hfree change hother) rfl rfl rfl

theorem Moves.insertStock (hinvariant : Invariant hashtext initial db replies) (place : Place)
    (quantities : Quantities) :
    Moves hashtext initial db
      { db with stock := insertRow db.stock txn place quantities } txn replies :=
  .stock hinvariant (fun _ => committedTotal_insertRow _ _)
    (fun _ hother => own_insertRow_other hother _ _)
    (fun _ hother _ => changeTotal_insertRow_other hother _ _) rfl rfl rfl

variable {itemId binId : ℕ}

/-- The session after it has written to the inventory. -/
theorem Agrees.stocked (hagrees : Agrees hashtext db txn self)
    {stock : Table (Row Place Quantities)} {delta : ℤ}
    (hchange : ∀ region, changeTotal (onHandIn region) stock txn = changeTotal (onHandIn region) db.stock txn + if region itemId binId then delta else 0) :
    Agrees hashtext { db with stock } txn (self.move (own stock txn) itemId binId delta) where
  stock := rfl
  stockChange := fun region => by rw [hchange, hagrees.stockChange]; rfl
  entries := hagrees.entries
  entryChange := hagrees.entryChange
  reversing := hagrees.reversing
  locked := hagrees.locked
  fresh := hagrees.fresh

theorem Agrees.writeStock (hagrees : Agrees hashtext db txn self) {inventoryId : ℕ}
    {place : Place} {committed : Option Quantities} {quantities : Quantities}
    (hheld : self.stock inventoryId = some (place, committed, quantities))
    (hwrite : writeStock db txn (fun key _ => key == inventoryId) change = some after) :
    ∃ stock, Agrees hashtext after txn (self.move stock place.itemId place.binId
      ((change quantities).onHand - quantities.onHand)) := by
  obtain ⟨hfree, rfl⟩ := writeStock_spec hwrite
  rw [← hagrees.stock, own_eq_some] at hheld
  refine ⟨_, hagrees.stocked fun region => ?_⟩
  rw [changeTotal_writeKey hheld hfree]
  congr 1
  change (if region place.itemId place.binId then (change quantities).onHand else 0) -
    (if region place.itemId place.binId then quantities.onHand else 0) = _
  split
  · rfl
  · exact sub_self 0

theorem fetch_lockRows {keys : List ℕ} {found : StockRow}
    (hwrite : writeStock db txn (fun key place => keys.contains key && place.inBin itemId binId) id = some after)
    (hfetch : fetchOne.fetch ((stockRows after txn itemId binId).filter fun row => keys.contains row.1) = some found) :
    found.2.1.inBin itemId binId = true ∧
      ∃ committed, own after.stock txn found.1 = some (found.2.1, committed, found.2.2) := by
  obtain ⟨hmem, hkey⟩ := List.mem_filter.mp (fetchOne.mem hfetch)
  obtain ⟨hseen, hcond⟩ := List.mem_filter.mp hmem
  rw [Bool.and_eq_true] at hcond
  obtain ⟨⟨key, row⟩, hrow, hview⟩ := List.mem_filterMap.mp hseen
  obtain ⟨value, hvalue, rfl⟩ := Option.map_eq_some_iff.mp hview
  refine ⟨hcond.1, ?_⟩
  obtain ⟨hfree, rfl⟩ := writeStock_spec hwrite
  obtain ⟨before, hbefore, hafter⟩ := (Table.mem_mapRows _).mp hrow
  have hident : row.ident = before.ident := by
    rw [← hafter]
    split <;> rfl
  have hselected : (keys.contains key && before.ident.inBin itemId binId) = true := by
    rw [← hident, Bool.and_eq_true]
    exact ⟨hkey, hcond.1⟩
  rw [if_pos hselected] at hafter
  have hversion : row.version.ownedBy txn =
      some (before.version.committed, before.version.latest) := by
    rw [← hafter]
    exact Version.ownedBy_write (free_of_allFree hfree hbefore hselected) _
  rw [Version.ownedBy_eq_some] at hversion
  have hlatest : value = before.version.latest := by
    rw [hversion] at hvalue
    simpa [Version.view] using hvalue.symm
  refine ⟨before.version.committed, own_eq_some.mpr ?_⟩
  dsimp only
  rw [hlatest, ← hversion]
  exact hrow

/-! ## Locks and log rows -/

variable {key : String}

theorem Fresh.lock (hfresh : Fresh hashtext db txn key) {lock : ℕ × ℤ} :
    Fresh hashtext { db with codeLocks := lock :: db.codeLocks } txn key :=
  ⟨List.mem_cons_of_mem _ hfresh.1, hfresh.2⟩

theorem Agrees.lock (hagrees : Agrees hashtext db txn self) (lock : ℕ × ℤ) :
    Agrees hashtext { db with codeLocks := lock :: db.codeLocks } txn self :=
  { hagrees with
    locked := fun hash hhash => List.mem_cons_of_mem _ (hagrees.locked hash hhash)
    fresh := fun key hkey => (hagrees.fresh key hkey).lock }

theorem Moves.lockCode (hinvariant : Invariant hashtext initial db replies) {hash : ℤ}
    {codeLocks : List (ℕ × ℤ)} (htake : takeLock db.codeLocks txn hash = some codeLocks) :
    Moves hashtext initial db { db with codeLocks } txn replies := by
  have hexclusive := hinvariant.remembered.exclusive.take htake
  obtain ⟨rfl, -⟩ := takeLock_eq htake
  exact ⟨⟨{ hinvariant.remembered with
      exclusive := hexclusive
      inserting := fun entry hentry writer hwriter =>
        List.mem_cons_of_mem _ (hinvariant.remembered.inserting entry hentry writer hwriter) },
    hinvariant.accounted.congr (fun _ => rfl) fun _ => rfl⟩,
    fun other _ self hagrees => hagrees.lock _⟩

theorem Agrees.lockCode (hagrees : Agrees hashtext db txn self) {hash : ℤ}
    {codeLocks : List (ℕ × ℤ)} (htake : takeLock db.codeLocks txn hash = some codeLocks) :
    Agrees hashtext { db with codeLocks } txn { self with locked := hash :: self.locked } := by
  obtain ⟨rfl, -⟩ := takeLock_eq htake
  have hkept := hagrees.lock (txn, hash)
  exact { hkept with
    locked := by
      intro hash' hhash'
      cases List.mem_cons.mp hhash' with
      | inl hsame =>
          rw [hsame]
          exact List.mem_cons_self
      | inr hold => exact hkept.locked hash' hold }

theorem reversedKeys_insertRow (reversal : Reversal) :
    reversedKeys { db with reversals := insertRow db.reversals txn reversal () } =
      reversedKeys db := by
  rw [reversedKeys, reversedKeys, committedRows_insertRow]

theorem Moves.logReversal (hinvariant : Invariant hashtext initial db replies)
    (reversal : Reversal) :
    Moves hashtext initial db
      { db with reversals := insertRow db.reversals txn reversal () } txn replies where
  invariant :=
    ⟨{ hinvariant.remembered with
        gone := by
          rw [reversedKeys_insertRow]
          exact hinvariant.remembered.gone },
      hinvariant.accounted.congr (fun _ => rfl) fun _ => rfl⟩
  others := fun other hother self hagrees =>
    { hagrees with
      reversing := (writtenBy_insertRow_other hother _ _).trans hagrees.reversing }

theorem Agrees.logReversal (hagrees : Agrees hashtext db txn self) (reversal : Reversal) :
    Agrees hashtext { db with reversals := insertRow db.reversals txn reversal () } txn
      { self with reversing := self.reversing ++ [(reversal, ())] } :=
  { hagrees with
    reversing := (writtenBy_insertRow _ _).trans (by rw [hagrees.reversing]) }

/-! ## A new entry -/

theorem Fresh.stable_none (hfresh : Fresh hashtext db txn key)
    (hnone : own db.entries txn = fun _ => none) {entry : ℕ × Row EntryColumns (Option Unit)}
    (hentry : entry ∈ db.entries.entries)
    (hkey : entry.2.ident.idempotencyKey = key) : entry.2.version = .stable none := by
  rcases hfresh.2 entry hentry hkey with hgone | hinserted
  · exact hgone
  · exfalso
    obtain ⟨id, ident, version⟩ := entry
    cases version with
    | stable value => cases hinserted
    | written writer committed latest =>
        cases committed with
        | some value => cases hinserted
        | none =>
            have hwriter : writer = txn := beq_iff_eq.mp hinserted
            rw [hwriter] at hentry
            have howned := own_eq_some.mpr hentry
            rw [hnone] at howned
            cases howned

variable {columns : EntryColumns}

theorem mem_insertRow {entry : ℕ × Row EntryColumns (Option Unit)}
    (hentry : entry ∈ (insertRow db.entries txn columns (some ())).entries) :
    entry ∈ db.entries.entries ∨
      entry = (db.entries.next, ⟨columns, .written txn none (some ())⟩) :=
  (Table.mem_insert _).mp hentry

theorem insertedBy_written {writer : ℕ} {latest : Option Unit} :
    (Version.written txn none latest).insertedBy writer = true ↔ txn = writer :=
  beq_iff_eq

theorem Remembered.insertEntry (hremembered : Remembered hashtext keys db replies)
    (hfresh : Fresh hashtext db txn columns.idempotencyKey)
    (hnone : own db.entries txn = fun _ => none)
    (hallowed : columns.idempotencyKey ∉ reversedKeys db) :
    Remembered hashtext keys
      { db with entries := insertRow db.entries txn columns (some ()) } replies where
  exclusive := hremembered.exclusive
  inserting := by
    intro entry hentry writer hwriter
    rcases mem_insertRow hentry with hold | rfl
    · exact hremembered.inserting entry hold writer hwriter
    · rw [← insertedBy_written.mp hwriter]
      exact hfresh.1
  distinct := by
    rw [idents_insertRow, List.map_append, List.map_singleton, List.nodup_append]
    refine ⟨hremembered.distinct, List.nodup_singleton _, ?_⟩
    intro key hkey key' hkey' heq
    rw [List.mem_singleton.mp hkey'] at heq
    obtain ⟨ident, hident, rfl⟩ := List.mem_map.mp hkey
    obtain ⟨entry, hentry, rfl⟩ := List.mem_map.mp hident
    have hgone := hfresh.stable_none hnone hentry heq
    have hreversed := (hremembered.gone entry hentry (by rw [hgone]; rfl)).2
    rw [heq] at hreversed
    exact hallowed hreversed
  gone := by
    intro entry hentry hcommitted
    rcases mem_insertRow hentry with hold | rfl
    · exact hremembered.gone entry hold hcommitted
    · cases hcommitted
  known := by
    intro key hkey
    obtain ⟨entry, hentry, hrest⟩ := hremembered.known key hkey
    exact ⟨entry, (Table.mem_insert _).mpr (.inl hentry), hrest⟩
  removed := by
    intro key hkey
    obtain ⟨entry, hentry, hrest⟩ := hremembered.removed key hkey
    exact ⟨entry, (Table.mem_insert _).mpr (.inl hentry), hrest⟩
  addsOnce := hremembered.addsOnce
  removesOnce := hremembered.removesOnce
  staysReversed := hremembered.staysReversed

theorem Fresh.insertEntry (hfresh : Fresh hashtext db other key)
    (hinserted : columns.idempotencyKey = key → txn = other) :
    Fresh hashtext { db with entries := insertRow db.entries txn columns (some ()) } other
      key := by
  refine ⟨hfresh.1, fun entry hentry hkey => ?_⟩
  rcases mem_insertRow hentry with hold | rfl
  · exact hfresh.2 entry hold hkey
  · exact .inr (insertedBy_written.mpr (hinserted hkey))

theorem Moves.insertEntry (hinvariant : Invariant hashtext initial db replies)
    (hfresh : Fresh hashtext db txn columns.idempotencyKey)
    (hnone : own db.entries txn = fun _ => none)
    (hallowed : columns.idempotencyKey ∉ reversedKeys db) :
    Moves hashtext initial db
      { db with entries := insertRow db.entries txn columns (some ()) } txn replies where
  invariant :=
    ⟨hinvariant.remembered.insertEntry hfresh hnone hallowed,
      hinvariant.accounted.congr (fun _ => rfl) fun _ => committedTotal_insertRow _ _⟩
  others := fun other hother self hagrees =>
    { hagrees with
      entries := (own_insertRow_other hother _ _).trans hagrees.entries
      entryChange := fun region => (changeTotal_insertRow_other hother _ _).trans
        (hagrees.entryChange region)
      fresh := by
        intro key hkey
        apply (hagrees.fresh key hkey).insertEntry
        rintro rfl
        exact hinvariant.remembered.exclusive _ hfresh.1 _ (hagrees.fresh _ hkey).1 rfl }

theorem Agrees.insertEntry (hagrees : Agrees hashtext db txn self) (columns : EntryColumns) :
    Agrees hashtext { db with entries := insertRow db.entries txn columns (some ()) } txn
      (self.write db.entries.next columns none (some ()) columns.quantity) :=
  { hagrees with
    entries := (own_insertRow _ _).trans (by rw [hagrees.entries]; rfl)
    entryChange := fun region => by
      rw [changeTotal_insertRow, hagrees.entryChange]
      rfl
    fresh := fun key hkey => (hagrees.fresh key hkey).insertEntry fun _ => rfl }

/-! ## Writing an entry that is there -/

section WriteEntry

variable {stockEntryId : ℕ} {row : Row EntryColumns (Option Unit)}
  {change : Option Unit → Option Unit}

theorem insertedBy_write {writer : ℕ} {version : Version (Option Unit)} {value : Option Unit}
    (hfree : version.free txn = true) :
    (version.write txn value).insertedBy writer = version.insertedBy writer := by
  cases version with
  | stable before => rfl
  | written writer' committed latest =>
      have hwriter : writer' = txn := beq_iff_eq.mp hfree
      subst hwriter
      cases committed <;> rfl

variable (hrow : (stockEntryId, row) ∈ db.entries.entries)
  (hfree : row.version.free txn = true) (hthere : row.version ≠ .stable none)

include hrow hfree hthere

theorem Remembered.writeEntry {keys : List String}
    (hremembered : Remembered hashtext keys db replies) :
    Remembered hashtext keys { db with
      entries := writeWhere db.entries txn (fun key _ => key == stockEntryId) change }
      replies where
  exclusive := hremembered.exclusive
  inserting := by
    intro entry hentry writer hwriter
    rcases mem_writeRow hrow hentry with ⟨hold, -⟩ | rfl
    · exact hremembered.inserting entry hold writer hwriter
    · rw [insertedBy_write hfree] at hwriter
      exact hremembered.inserting _ hrow writer hwriter
  distinct := by
    rw [idents_writeWhere]
    exact hremembered.distinct
  gone := by
    intro entry hentry hcommitted
    rcases mem_writeRow hrow hentry with ⟨hold, -⟩ | rfl
    · exact hremembered.gone entry hold hcommitted
    · rw [Version.committed_write] at hcommitted
      exact absurd (hremembered.gone _ hrow hcommitted).1 hthere
  known := by
    intro key hkey
    obtain ⟨entry, hentry, hsame, hcommitted⟩ := hremembered.known key hkey
    by_cases hid : entry.1 = stockEntryId
    · obtain ⟨id, row'⟩ := entry
      subst hid
      rw [db.entries.row_unique hentry hrow] at hsame hcommitted
      refine ⟨_, mem_writeRow_self hrow, hsame, ?_⟩
      rw [Version.committed_write]
      exact hcommitted
    · exact ⟨entry, mem_writeRow_of_ne hentry hid, hsame, hcommitted⟩
  removed := by
    intro key hkey
    obtain ⟨entry, hentry, hsame, hgone⟩ := hremembered.removed key hkey
    have hid : entry.1 ≠ stockEntryId := by
      intro hid
      obtain ⟨id, row'⟩ := entry
      subst hid
      rw [db.entries.row_unique hentry hrow] at hgone
      exact hthere hgone
    exact ⟨entry, mem_writeRow_of_ne hentry hid, hsame, hgone⟩
  addsOnce := hremembered.addsOnce
  removesOnce := hremembered.removesOnce
  staysReversed := hremembered.staysReversed

theorem Fresh.writeEntry {key : String} (hfresh : Fresh hashtext db other key) :
    Fresh hashtext { db with
      entries := writeWhere db.entries txn (fun key _ => key == stockEntryId) change }
      other key := by
  refine ⟨hfresh.1, fun entry hentry hkey => ?_⟩
  rcases mem_writeRow hrow hentry with ⟨hold, -⟩ | rfl
  · exact hfresh.2 entry hold hkey
  · rw [insertedBy_write hfree]
    exact .inr ((hfresh.2 _ hrow hkey).resolve_left hthere)

theorem Moves.writeEntry (hinvariant : Invariant hashtext initial db replies) :
    Moves hashtext initial db { db with
      entries := writeWhere db.entries txn (fun key _ => key == stockEntryId) change }
      txn replies where
  invariant :=
    ⟨hinvariant.remembered.writeEntry hrow hfree hthere,
      hinvariant.accounted.congr (fun _ => rfl) fun _ => committedTotal_writeWhere change⟩
  others := fun _ hother _ hagrees =>
    { hagrees with
      entries := (own_writeWhere_other (allFree_row hrow hfree) change hother).trans
        hagrees.entries
      entryChange := fun region => (changeTotal_writeWhere_other
        (allFree_row hrow hfree) change hother).trans (hagrees.entryChange region)
      fresh := fun key hkey => (hagrees.fresh key hkey).writeEntry hrow hfree hthere }

theorem Agrees.writeEntry (hagrees : Agrees hashtext db txn self) {delta : ℤ}
    (hdelta : ∀ region, enteredIn region row.ident (change row.version.latest) -
      enteredIn region row.ident row.version.latest =
        if region row.ident.itemId row.ident.binId then delta else 0) :
    Agrees hashtext { db with
      entries := writeWhere db.entries txn (fun key _ => key == stockEntryId) change } txn
      (self.write stockEntryId row.ident row.version.committed (change row.version.latest)
        delta) :=
  { hagrees with
    entries := (own_writeKey hrow hfree change).trans (by rw [hagrees.entries]; rfl)
    entryChange := fun region => by
      rw [changeTotal_writeKey hrow (allFree_row hrow hfree), hagrees.entryChange,
        hdelta]
      rfl
    fresh := fun key hkey => (hagrees.fresh key hkey).writeEntry hrow hfree hthere }

end WriteEntry

theorem lockEntry_spec {stockEntryId : ℕ} {answer : Option EntryColumns}
    (hnone : own db.entries txn = fun _ => none)
    (hlock : lockEntry db txn stockEntryId = some (after, answer)) :
    (after = db ∧ answer = none) ∨ ∃ columns,
      (stockEntryId, ⟨columns, .stable (some ())⟩) ∈ db.entries.entries ∧
      answer = some columns ∧ after = { db with
        entries := writeWhere db.entries txn (fun key _ => key == stockEntryId) id } := by
  rw [lockEntry] at hlock
  split at hlock
  · cases hlock
    exact .inl ⟨rfl, rfl⟩
  · cases hlock
    exact .inl ⟨rfl, rfl⟩
  · next columns hseen =>
      obtain ⟨entries, hwrite, hafter⟩ := Option.map_eq_some_iff.mp hlock
      obtain ⟨rfl, hfree⟩ := writeKey_spec hwrite
      cases hafter
      obtain ⟨row, hget, hview⟩ := Option.bind_eq_some_iff.mp hseen
      obtain ⟨value, hvalue, hpair⟩ := Option.map_eq_some_iff.mp hview
      cases hpair
      have hrow := (Table.get?_eq_some _).mp hget
      refine .inr ⟨row.ident, ?_, rfl, rfl⟩
      have hstable : row.version = .stable (some ()) := by
        cases hversion : row.version with
        | stable value =>
            rw [hversion] at hvalue
            exact congrArg Version.stable (Option.some.inj hvalue)
        | written writer committed latest =>
            have hwriter : writer = txn := by
              have hrowFree := hfree hrow
              rw [hversion] at hrowFree
              exact beq_iff_eq.mp hrowFree
            have howned : own db.entries txn stockEntryId =
                some (row.ident, committed, latest) := by
              rw [own_eq_some, ← hwriter, ← hversion]
              exact hrow
            rw [hnone] at howned
            cases howned
      rw [← hstable]
      exact hrow

/-! ## One statement -/

theorem fresh_of_lookup (hremembered : Remembered hashtext keys db replies)
    {idempotencyKey : String} (hlocked : (txn, hashtext idempotencyKey) ∈ db.codeLocks)
    (hnone : own db.entries txn = fun _ => none)
    (hlookup : ((rowsSeen db.entries txn).find? fun row => row.2.1.idempotencyKey == idempotencyKey && row.2.2.isSome) = none) :
    Fresh hashtext db txn idempotencyKey := by
  refine ⟨hlocked, fun entry hentry hkey => ?_⟩
  obtain ⟨id, ident, version⟩ := entry
  have hunseen : version.view txn ≠ some (some ()) := by
    intro hview
    have hseen : (id, ident, some ()) ∈ rowsSeen db.entries txn :=
      List.mem_filterMap.mpr ⟨_, hentry, by rw [hview]; rfl⟩
    have hmissed := List.find?_eq_none.mp hlookup _ hseen
    rw [beq_iff_eq.mpr hkey] at hmissed
    exact hmissed rfl
  cases version with
  | stable value =>
      cases value with
      | none => exact .inl rfl
      | some present => exact absurd rfl hunseen
  | written writer committed latest =>
      cases committed with
      | none =>
          have hlock := hremembered.inserting _ hentry writer (beq_self_eq_true writer)
          dsimp only at hlock hkey
          rw [hkey] at hlock
          exact .inr (beq_iff_eq.mpr (hremembered.exclusive _ hlock _ hlocked rfl))
      | some value =>
          have hwriter : writer ≠ txn := by
            rintro rfl
            have howned := own_eq_some.mpr hentry
            rw [hnone] at howned
            cases howned
          cases value with
          | none => exact absurd (hremembered.gone _ hentry rfl).1 nofun
          | some present =>
              rw [Version.view, if_neg hwriter] at hunseen
              exact absurd rfl hunseen

theorem insertEntry_spec {answer : Option ℕ}
    (hinsert : insertEntry db txn columns = some (after, answer)) :
    (after = db ∧ answer = none) ∨ (answer = some db.entries.next ∧
      after = { db with entries := insertRow db.entries txn columns (some ()) }) := by
  rw [insertEntry] at hinsert
  split at hinsert
  · cases hinsert
  split at hinsert
  · cases hinsert
    exact .inl ⟨rfl, rfl⟩
  · cases hinsert
    exact .inr ⟨rfl, rfl⟩

theorem enteredIn_some (region : ℕ → ℕ → Bool) (columns : EntryColumns) :
    enteredIn region columns (some ()) =
      if region columns.itemId columns.binId then columns.quantity else 0 := rfl

theorem enteredIn_none (region : ℕ → ℕ → Bool) (columns : EntryColumns) :
    enteredIn region columns none = 0 := rfl

/-- A statement that writes neither the inventory nor entries, reversals or code locks. -/
def Statement.elsewhere : Statement → Bool
  | .lockBin _ _ | .matchItems _ | .lockItem _ _ | .freeSku _ | .insertItem _ | .setMpn _ _
  | .lockStock _ _ | .matchRows _ _ => true
  | _ => false

theorem lockItem_spec {key : Option ℕ} {answer : Option (ℕ × Item)}
    (hlock : lockItem db txn key = some (after, answer)) :
    after.stock = db.stock ∧ after.entries = db.entries ∧ after.reversals = db.reversals ∧
      after.codeLocks = db.codeLocks := by
  cases key with
  | none =>
      cases hlock
      exact ⟨rfl, rfl, rfl, rfl⟩
  | some key =>
      obtain ⟨items, -, hafter⟩ := Option.map_eq_some_iff.mp hlock
      cases hafter
      exact ⟨rfl, rfl, rfl, rfl⟩

variable {statement : Statement}

theorem perform_elsewhere {result : Database × Answer statement}
    (helsewhere : statement.elsewhere = true)
    (hperform : perform fetchOne db txn statement = some result) :
    result.1.stock = db.stock ∧ result.1.entries = db.entries ∧
      result.1.reversals = db.reversals ∧ result.1.codeLocks = db.codeLocks := by
  cases statement with
  | lockBin binId warehouseId =>
      rw [perform] at hperform
      split at hperform
      · cases hperform
        exact ⟨rfl, rfl, rfl, rfl⟩
      · obtain ⟨bins, -, rfl⟩ := Option.map_eq_some_iff.mp hperform
        exact ⟨rfl, rfl, rfl, rfl⟩
  | lockItem request keys =>
      obtain ⟨found, -, hlock⟩ := Option.bind_eq_some_iff.mp hperform
      exact lockItem_spec hlock
  | setMpn itemId productCode =>
      obtain ⟨items, -, rfl⟩ := Option.map_eq_some_iff.mp hperform
      exact ⟨rfl, rfl, rfl, rfl⟩
  | lockStock itemId binId =>
      obtain ⟨stockLocks, -, rfl⟩ := Option.map_eq_some_iff.mp hperform
      exact ⟨rfl, rfl, rfl, rfl⟩
  | matchItems request => cases hperform; exact ⟨rfl, rfl, rfl, rfl⟩
  | freeSku baseSku => cases hperform; exact ⟨rfl, rfl, rfl, rfl⟩
  | insertItem item => cases hperform; exact ⟨rfl, rfl, rfl, rfl⟩
  | matchRows itemId binId => cases hperform; exact ⟨rfl, rfl, rfl, rfl⟩
  | _ => cases helsewhere

theorem before_elsewhere {post : Answer statement → Standing → Prop}
    (helsewhere : statement.elsewhere = true) (hbefore : Before hashtext self statement post)
    (answer : Answer statement) : post answer self := by
  cases statement with
  | lockBin binId warehouseId => exact hbefore answer
  | matchItems request => exact hbefore answer
  | lockItem request keys => exact hbefore answer
  | freeSku baseSku => exact hbefore answer
  | insertItem item => exact hbefore answer
  | setMpn itemId productCode => exact hbefore answer
  | lockStock itemId binId => exact hbefore answer
  | matchRows itemId binId => exact hbefore answer
  | _ => cases helsewhere

theorem perform_before {post : Answer statement → Standing → Prop}
    {result : Database × Answer statement} (hinvariant : Invariant hashtext initial db replies)
    (hagrees : Agrees hashtext db txn self) (hbefore : Before hashtext self statement post)
    (hallowed : Allowed db txn statement)
    (hperform : perform fetchOne db txn statement = some result) :
    Moves hashtext initial db result.1 txn replies ∧
      ∃ standing, Agrees hashtext result.1 txn standing ∧ post result.2 standing := by
  cases helsewhere : statement.elsewhere with
  | true =>
      obtain ⟨hstock, hentries, hreversals, hlocks⟩ := perform_elsewhere helsewhere hperform
      exact ⟨.same hinvariant hstock hentries hreversals hlocks, self,
        hagrees.congr hstock hentries hreversals hlocks,
        before_elsewhere helsewhere hbefore result.2⟩
  | false =>
      cases statement with
      | lockCode hash =>
          obtain ⟨codeLocks, htake, rfl⟩ := Option.map_eq_some_iff.mp hperform
          exact ⟨.lockCode hinvariant htake, _, hagrees.lockCode htake, hbefore⟩
      | entryByKey idempotencyKey =>
          cases hperform
          obtain ⟨hlocked, hnone, hfound, hmissing⟩ := hbefore
          refine ⟨.same hinvariant rfl rfl rfl rfl, ?_⟩
          dsimp only
          cases hlookup : (rowsSeen db.entries txn).find? fun row =>
              row.2.1.idempotencyKey == idempotencyKey && row.2.2.isSome with
          | some row => exact ⟨self, hagrees, hfound _⟩
          | none =>
              have hfresh := fresh_of_lookup hinvariant.remembered (hagrees.locked _ hlocked)
                (hagrees.entries.trans hnone) hlookup
              refine ⟨{ self with fresh := idempotencyKey :: self.fresh },
                { hagrees with fresh := ?_ }, hmissing⟩
              intro key hkey
              cases List.mem_cons.mp hkey with
              | inl hsame =>
                  rw [hsame]
                  exact hfresh
              | inr hold => exact hagrees.fresh key hold
      | lockRows itemId binId keys =>
          obtain ⟨written, hwrite, rfl⟩ := Option.map_eq_some_iff.mp hperform
          refine ⟨.writeStock hinvariant hwrite, _, ?_,
            hbefore (own written.stock txn) _ fun found hfound => fetch_lockRows hwrite hfound⟩
          obtain ⟨hfree, rfl⟩ := writeStock_spec hwrite
          exact { hagrees with
            stock := rfl
            stockChange := fun region => (changeTotal_lock hfree).trans
              (hagrees.stockChange region) }
      | addOnHand inventoryId quantity =>
          obtain ⟨written, hwrite, rfl⟩ := Option.map_eq_some_iff.mp hperform
          obtain ⟨place, committed, quantities, hheld, hpost⟩ := hbefore
          obtain ⟨stock, hafter⟩ := hagrees.writeStock hheld hwrite
          rw [add_sub_cancel_left] at hafter
          exact ⟨.writeStock hinvariant hwrite, _, hafter, hpost stock⟩
      | setOnHand inventoryId quantity =>
          obtain ⟨written, hwrite, rfl⟩ := Option.map_eq_some_iff.mp hperform
          obtain ⟨place, committed, quantities, hheld, hpost⟩ := hbefore
          obtain ⟨stock, hafter⟩ := hagrees.writeStock hheld hwrite
          exact ⟨.writeStock hinvariant hwrite, _, hafter, hpost stock⟩
      | insertStock place quantity =>
          cases hperform
          exact ⟨.insertStock hinvariant place _, _,
            hagrees.stocked fun region => changeTotal_insertRow _ _, hbefore _⟩
      | insertEntry columns =>
          obtain ⟨hkey, hnone, hviolated, hinserted⟩ := hbefore
          obtain ⟨after, answer⟩ := result
          rcases insertEntry_spec hperform with ⟨rfl, rfl⟩ | ⟨rfl, rfl⟩
          · exact ⟨.same hinvariant rfl rfl rfl rfl, self, hagrees, hviolated⟩
          · exact ⟨.insertEntry hinvariant (hagrees.fresh _ hkey) (hagrees.entries.trans hnone)
              hallowed, _, hagrees.insertEntry columns, hinserted _⟩
      | lockEntry stockEntryId =>
          obtain ⟨hnone, hmissing, hfound⟩ := hbefore
          obtain ⟨after, answer⟩ := result
          rcases lockEntry_spec (hagrees.entries.trans hnone) hperform with
            ⟨rfl, rfl⟩ | ⟨columns, hrow, rfl, rfl⟩
          · exact ⟨.same hinvariant rfl rfl rfl rfl, self, hagrees, hmissing⟩
          · refine ⟨.writeEntry hrow rfl (by rintro ⟨⟩) hinvariant, _,
              hagrees.writeEntry hrow rfl (by rintro ⟨⟩) fun region => ?_, hfound columns⟩
            simp [Version.latest]
      | deleteEntry stockEntryId =>
          obtain ⟨columns, committed, hheld, hpost⟩ := hbefore
          obtain ⟨entries, hwrite, rfl⟩ := Option.map_eq_some_iff.mp hperform
          obtain ⟨rfl, hfree⟩ := writeKey_spec hwrite
          rw [← hagrees.entries, own_eq_some] at hheld
          refine ⟨.writeEntry hheld (hfree hheld) (by rintro ⟨⟩) hinvariant, _,
            hagrees.writeEntry hheld (hfree hheld) (by rintro ⟨⟩) fun region => ?_, hpost⟩
          dsimp only [Version.latest]
          rw [enteredIn_none, enteredIn_some]
          split <;> ring
      | logReversal reversal =>
          cases hperform
          exact ⟨.logReversal hinvariant reversal, _, hagrees.logReversal reversal, hbefore⟩
      | _ => cases helsewhere

/-! ## The end of a transaction -/

variable {version : Version (Option Unit)}

theorem insertedBy_undo (other : ℕ) :
    (version.undo txn).insertedBy other = version.insertedBy other := by
  cases version with
  | stable value => rfl
  | written writer committed latest =>
      cases committed with
      | none => rfl
      | some value => by_cases hwriter : writer = txn <;> simp [Version.undo, hwriter,
          Version.insertedBy]

theorem insertedBy_settle_other (hother : other ≠ txn)
    (hinserted : version.insertedBy other = true) :
    (version.settle txn).insertedBy other = true := by
  cases version with
  | stable value => cases hinserted
  | written writer committed latest =>
      cases committed with
      | some value => cases hinserted
      | none =>
          have hwriter : writer = other := beq_iff_eq.mp hinserted
          rw [Version.settle, if_neg (hwriter ▸ hother)]
          exact hinserted

theorem insertedBy_unique {writer : ℕ} (hinserted : version.insertedBy writer = true)
    (hother : version.insertedBy txn = false) :
    writer ≠ txn := by
  rintro rfl
  rw [hinserted] at hother
  cases hother

theorem insertedBy_of_ownedBy
    (hnone : version.ownedBy txn = none) : version.insertedBy txn = false := by
  cases version with
  | stable value => rfl
  | written writer committed latest =>
      by_cases hwriter : writer = txn
      · simp [Version.ownedBy, hwriter] at hnone
      · cases committed <;> simp [Version.insertedBy, hwriter]

theorem not_insertedBy
    (hcommitted : version.committed.isSome = true) : version.insertedBy txn = false := by
  cases version with
  | stable value => rfl
  | written writer committed latest =>
      cases committed with
      | none => cases hcommitted
      | some value => rfl

theorem Remembered.rollback (hremembered : Remembered hashtext keys db replies) (txn : ℕ) :
    Remembered hashtext keys ((engine fetchOne).rollback db txn) replies where
  exclusive := hremembered.exclusive.release txn
  inserting := by
    intro entry hentry writer hwriter
    obtain ⟨before, hbefore, hkept, hrow⟩ := mem_rollbackRows hentry
    rw [hrow] at hwriter ⊢
    rw [insertedBy_undo] at hwriter
    exact mem_releaseLocks_other (hremembered.inserting _ hbefore writer hwriter)
      (insertedBy_unique hwriter hkept)
  distinct := hremembered.distinct.sublist ((idents_rollbackRows _ _).map _)
  gone := by
    intro entry hentry hcommitted
    obtain ⟨before, hbefore, -, hrow⟩ := mem_rollbackRows hentry
    rw [hrow, Version.committed_undo] at hcommitted
    obtain ⟨hgone, hreversed⟩ := hremembered.gone _ hbefore hcommitted
    dsimp only at hgone
    refine ⟨by rw [hrow, hgone]; rfl, ?_⟩
    rw [hrow, reversedKeys]
    change _ ∈ (committedRows (rollbackRows db.reversals txn)).map _
    rw [committedRows_rollbackRows]
    exact hreversed
  known := by
    intro key hkey
    obtain ⟨entry, hentry, hsame, hcommitted⟩ := hremembered.known key hkey
    refine ⟨_, mem_rollbackRows_of hentry (not_insertedBy hcommitted), hsame, ?_⟩
    rw [Version.committed_undo]
    exact hcommitted
  removed := by
    intro key hkey
    obtain ⟨entry, hentry, hsame, hgone⟩ := hremembered.removed key hkey
    exact ⟨_, mem_rollbackRows_of hentry (by rw [hgone]; rfl), hsame, by rw [hgone]; rfl⟩
  addsOnce := hremembered.addsOnce
  removesOnce := hremembered.removesOnce
  staysReversed := hremembered.staysReversed

theorem Invariant.rollback (hinvariant : Invariant hashtext initial db replies) (txn : ℕ) :
    Invariant hashtext initial ((engine fetchOne).rollback db txn) replies :=
  ⟨hinvariant.remembered.rollback txn,
    hinvariant.accounted.congr (fun _ => committedTotal_rollbackRows _ _)
      fun _ => committedTotal_rollbackRows _ _⟩

theorem Agrees.rollback_other (hagrees : Agrees hashtext db other self) (hother : other ≠ txn) :
    Agrees hashtext ((engine fetchOne).rollback db txn) other self where
  stock := (own_rollbackRows_other _ hother).trans hagrees.stock
  stockChange := fun region => (changeTotal_rollbackRows_other _ hother).trans
    (hagrees.stockChange region)
  entries := (own_rollbackRows_other _ hother).trans hagrees.entries
  entryChange := fun region => (changeTotal_rollbackRows_other _ hother).trans
    (hagrees.entryChange region)
  reversing := (writtenBy_rollbackRows_other _ hother).trans hagrees.reversing
  locked := fun hash hhash => mem_releaseLocks_other (hagrees.locked hash hhash) hother
  fresh := by
    intro key hkey
    obtain ⟨hlock, hrows⟩ := hagrees.fresh key hkey
    refine ⟨mem_releaseLocks_other hlock hother, fun entry hentry hsame => ?_⟩
    obtain ⟨before, hbefore, -, hrow⟩ := mem_rollbackRows hentry
    rw [hrow] at hsame ⊢
    rw [insertedBy_undo]
    rcases hrows _ hbefore hsame with hgone | hinserted
    · dsimp only at hgone
      rw [hgone]
      exact .inl rfl
    · exact .inr hinserted

theorem Agrees.commit_other (hagrees : Agrees hashtext db other self) (hother : other ≠ txn) :
    Agrees hashtext ((engine fetchOne).commit db txn) other self where
  stock := (own_commitRows_other _ hother).trans hagrees.stock
  stockChange := fun region => (changeTotal_commitRows_other _ hother).trans
    (hagrees.stockChange region)
  entries := (own_commitRows_other _ hother).trans hagrees.entries
  entryChange := fun region => (changeTotal_commitRows_other _ hother).trans
    (hagrees.entryChange region)
  reversing := (writtenBy_commitRows_other _ hother).trans hagrees.reversing
  locked := fun hash hhash => mem_releaseLocks_other (hagrees.locked hash hhash) hother
  fresh := by
    intro key hkey
    obtain ⟨hlock, hrows⟩ := hagrees.fresh key hkey
    refine ⟨mem_releaseLocks_other hlock hother, fun entry hentry hsame => ?_⟩
    obtain ⟨before, hbefore, hrow⟩ := (Table.mem_mapRows _).mp hentry
    rw [← hrow] at hsame ⊢
    rcases hrows _ hbefore hsame with hgone | hinserted
    · dsimp only at hgone
      rw [hgone]
      exact .inl rfl
    · exact .inr (insertedBy_settle_other hother hinserted)

theorem agrees_idle {after : Database} (hstock : own after.stock txn = fun _ => none)
    (hstockChange : ∀ region, changeTotal (onHandIn region) after.stock txn = 0)
    (hentries : own after.entries txn = fun _ => none)
    (hentryChange : ∀ region, changeTotal (enteredIn region) after.entries txn = 0)
    (hreversing : writtenBy after.reversals txn = []) :
    Agrees hashtext after txn .idle :=
  ⟨hstock, hstockChange, hentries, hentryChange, hreversing, nofun, nofun⟩

theorem idle_rollback : Agrees hashtext ((engine fetchOne).rollback db txn) txn .idle :=
  agrees_idle (own_rollbackRows _ _) (fun _ => changeTotal_rollbackRows _ _)
    (own_rollbackRows _ _) (fun _ => changeTotal_rollbackRows _ _) (writtenBy_rollbackRows _ _)

theorem idle_commit : Agrees hashtext ((engine fetchOne).commit db txn) txn .idle :=
  agrees_idle (own_commitRows _ _) (fun _ => changeTotal_commitRows _ _)
    (own_commitRows _ _) (fun _ => changeTotal_commitRows _ _) (writtenBy_commitRows _ _)

/-! ## A commit -/

section Commit

variable {stockEntryId : ℕ} {columns : EntryColumns} {committed : Option (Option Unit)}
  {latest : Option Unit}

theorem committed_settle {version : Version (Option Unit)}
    (hcommitted : version.committed.isSome = true) :
    (version.settle txn).committed.isSome = true := by
  cases version with
  | stable value => rfl
  | written writer committed latest =>
      rw [Version.settle]
      split
      · rfl
      · exact hcommitted

theorem reversedKeys_commit {key : String} (hkey : key ∈ reversedKeys db) :
    key ∈ reversedKeys ((engine fetchOne).commit db txn) := by
  obtain ⟨row, hrow, rfl⟩ := List.mem_map.mp hkey
  have hident := committed_idents_commitRows db.reversals txn (List.mem_map_of_mem hrow)
  obtain ⟨row', hrow', hsame⟩ := List.mem_map.mp hident
  exact List.mem_map.mpr ⟨row', hrow', congrArg Reversal.idempotencyKey hsame⟩

variable {keys : List String}

theorem Remembered.row_unique (hremembered : Remembered hashtext keys db replies)
    {left right : ℕ × Row EntryColumns (Option Unit)} (hleft : left ∈ db.entries.entries)
    (hright : right ∈ db.entries.entries)
    (hkey : left.2.ident.idempotencyKey = right.2.ident.idempotencyKey) : left = right := by
  have hnodup := hremembered.distinct
  rw [idents, List.map_map] at hnodup
  exact List.inj_on_of_nodup_map hnodup hleft hright hkey

theorem nodup_concat (hnodup : keys.Nodup) {key : Option String}
    (hnew : ∀ found, key = some found → found ∉ keys) : (keys ++ key.toList).Nodup := by
  cases key with
  | none => simpa using hnodup
  | some found =>
      rw [Option.toList_some, List.nodup_append]
      refine ⟨hnodup, List.nodup_singleton _, ?_⟩
      intro known hknown new hsingle heq
      rw [List.mem_singleton.mp hsingle] at heq
      exact hnew found rfl (heq ▸ hknown)

theorem filterMap_concat (get : Reply → Option String) (replies : List Reply) (value : Reply) :
    (replies ++ [value]).filterMap get = replies.filterMap get ++ (get value).toList := by
  rw [List.filterMap_append]
  cases h : get value <;> simp [h]

variable {value : Reply}

theorem Remembered.commit (hremembered : Remembered hashtext keys db replies)
    (hown : own db.entries txn = Function.update (fun _ => none) stockEntryId (some (columns, committed, latest)))
    (hgone : latest = none → columns.idempotencyKey ∈ reversedKeys ((engine fetchOne).commit db txn))
    (hadded : ∀ key, value.addedKey = some key → key = columns.idempotencyKey ∧ committed = none)
    (hremoved : ∀ key, value.removedKey = some key → key = columns.idempotencyKey ∧ latest = none) :
    Remembered hashtext keys ((engine fetchOne).commit db txn) (replies ++ [value]) := by
  have hrow : (stockEntryId, ⟨columns, .written txn committed latest⟩) ∈
      db.entries.entries := by
    rw [← own_eq_some, hown, Function.update_self]
  have hcommitted : (stockEntryId, ⟨columns, .stable latest⟩) ∈
      (commitRows db.entries txn).entries := by
    have hsettled : (stockEntryId, _) ∈ (commitRows db.entries txn).entries :=
      mem_commitRows_of hrow
    simpa [Version.settle] using hsettled
  have hneverRemoved : columns.idempotencyKey ∉ replies.filterMap Reply.removedKey := by
    intro hkey
    obtain ⟨entry, hentry, hsame, hstable⟩ := hremembered.removed _ hkey
    rw [hremembered.row_unique hentry hrow hsame] at hstable
    cases hstable
  have hneverAdded : committed = none →
      columns.idempotencyKey ∉ keys ++ replies.filterMap Reply.addedKey := by
    intro hnone hkey
    obtain ⟨entry, hentry, hsame, hsome⟩ := hremembered.known _ hkey
    rw [hremembered.row_unique hentry hrow hsame, hnone] at hsome
    cases hsome
  exact {
    exclusive := hremembered.exclusive.release txn
    inserting := by
      intro entry hentry writer hwriter
      rcases mem_commitRows hown hentry with ⟨hold, hother⟩ | rfl
      · exact mem_releaseLocks_other (hremembered.inserting entry hold writer hwriter)
          (insertedBy_unique hwriter (insertedBy_of_ownedBy hother))
      · cases hwriter
    distinct := by
      change ((idents (commitRows db.entries txn)).map _).Nodup
      rw [idents_commitRows]
      exact hremembered.distinct
    gone := by
      intro entry hentry hnone
      rcases mem_commitRows hown hentry with ⟨hold, -⟩ | rfl
      · obtain ⟨hstable, hreversed⟩ := hremembered.gone entry hold hnone
        exact ⟨hstable, reversedKeys_commit hreversed⟩
      · have hlatest : latest = none := Option.some.inj hnone
        exact ⟨by rw [hlatest], hgone hlatest⟩
    known := by
      intro key hkey
      rw [filterMap_concat, ← List.append_assoc] at hkey
      rcases List.mem_append.mp hkey with hold | hnew
      · obtain ⟨entry, hentry, hsame, hsome⟩ := hremembered.known key hold
        exact ⟨_, mem_commitRows_of hentry, hsame, committed_settle hsome⟩
      · rw [Option.mem_toList] at hnew
        exact ⟨_, hcommitted, (hadded key hnew).1.symm, rfl⟩
    removed := by
      intro key hkey
      rw [filterMap_concat] at hkey
      rcases List.mem_append.mp hkey with hold | hnew
      · obtain ⟨entry, hentry, hsame, hstable⟩ := hremembered.removed key hold
        exact ⟨_, mem_commitRows_of hentry, hsame, by rw [hstable]; rfl⟩
      · rw [Option.mem_toList] at hnew
        obtain ⟨hsame, hlatest⟩ := hremoved key hnew
        exact ⟨_, hcommitted, hsame.symm, by rw [hlatest]⟩
    addsOnce := by
      rw [filterMap_concat, ← List.append_assoc]
      apply nodup_concat hremembered.addsOnce
      intro key hkey
      obtain ⟨rfl, hnone⟩ := hadded key hkey
      exact hneverAdded hnone
    removesOnce := by
      rw [filterMap_concat]
      apply nodup_concat hremembered.removesOnce
      intro key hkey
      rw [(hremoved key hkey).1]
      exact hneverRemoved
    staysReversed := by
      intro earlier later hsplit key hkey hlater
      rcases List.eq_nil_or_concat' later with rfl | ⟨before, last, rfl⟩
      · cases hlater
      · rw [← List.append_assoc] at hsplit
        obtain ⟨hreplies, hlast⟩ := List.append_inj' hsplit rfl
        rw [filterMap_concat] at hlater
        rcases List.mem_append.mp hlater with hold | hnew
        · exact hremembered.staysReversed earlier before hreplies key hkey hold
        · rw [Option.mem_toList, ← (List.singleton_inj.mp hlast)] at hnew
          rw [(hadded key hnew).1] at hkey
          apply hneverRemoved
          rw [hreplies, List.filterMap_append]
          exact List.mem_append_left _ hkey }

theorem Accounted.commit (haccounted : Accounted initial db replies)
    (hagrees : Agrees hashtext db txn self)
    (hstock : ∀ region, self.stockChange region = value.deltaIn region)
    (hentries : ∀ region, self.entryChange region = value.deltaIn region) :
    Accounted initial ((engine fetchOne).commit db txn) (replies ++ [value]) where
  stock := by
    intro region
    rw [List.map_append, List.sum_append, ← add_assoc, ← haccounted.stock, List.map_singleton,
      List.sum_singleton, ← hstock, ← hagrees.stockChange]
    exact committedTotal_commitRows _ _
  entries := by
    intro region
    rw [List.map_append, List.sum_append, ← add_assoc, ← haccounted.entries, List.map_singleton,
      List.sum_singleton, ← hentries, ← hagrees.entryChange]
    exact committedTotal_commitRows _ _

theorem Invariant.commit (hinvariant : Invariant hashtext initial db replies)
    (hagrees : Agrees hashtext db txn self) (hcommits : Commits self value) :
    Invariant hashtext initial ((engine fetchOne).commit db txn) (replies ++ [value]) := by
  cases value with
  | added stockEntryId columns created =>
      obtain ⟨hstock, hentryChange, hentries, hreversing⟩ := hcommits
      refine ⟨hinvariant.remembered.commit (hagrees.entries.trans hentries) nofun ?_ nofun,
        hinvariant.accounted.commit hagrees hstock hentryChange⟩
      intro key hkey
      exact ⟨(Option.some.inj hkey).symm, rfl⟩
  | removed stockEntryId columns quantityInBin =>
      obtain ⟨hstock, hentryChange, hentries, hreversing⟩ := hcommits
      refine ⟨hinvariant.remembered.commit (hagrees.entries.trans hentries) ?_ nofun ?_,
        hinvariant.accounted.commit hagrees hstock hentryChange⟩
      · intro _
        have hwritten : (⟨stockEntryId, columns.idempotencyKey⟩, ()) ∈
            writtenBy db.reversals txn := by
          rw [hagrees.reversing, hreversing]
          exact List.mem_singleton_self _
        exact List.mem_map.mpr ⟨_, committed_of_writtenBy hwritten, rfl⟩
      · intro key hkey
        exact ⟨(Option.some.inj hkey).symm, rfl⟩
  | refused refusal => cases hcommits
  | repeated stockEntryId columns => cases hcommits

theorem Invariant.reply (hinvariant : Invariant hashtext initial db replies)
    (hnothing : value.changesNothing) :
    Invariant hashtext initial db (replies ++ [value]) := by
  have hkeys : value.addedKey = none ∧ value.removedKey = none ∧
      ∀ region, value.deltaIn region = 0 := by
    cases value with
    | refused refusal => exact ⟨rfl, rfl, fun _ => rfl⟩
    | repeated stockEntryId columns => exact ⟨rfl, rfl, fun _ => rfl⟩
    | added stockEntryId columns created => cases hnothing
    | removed stockEntryId columns quantityInBin => cases hnothing
  obtain ⟨hadded, hremoved, hdelta⟩ := hkeys
  have haddedKeys : (replies ++ [value]).filterMap Reply.addedKey =
      replies.filterMap Reply.addedKey := by
    rw [filterMap_concat, hadded, Option.toList_none, List.append_nil]
  have hremovedKeys : (replies ++ [value]).filterMap Reply.removedKey =
      replies.filterMap Reply.removedKey := by
    rw [filterMap_concat, hremoved, Option.toList_none, List.append_nil]
  have hsum : ∀ region, ((replies ++ [value]).map (Reply.deltaIn region)).sum =
      (replies.map (Reply.deltaIn region)).sum := by
    intro region
    rw [List.map_append, List.sum_append, List.map_singleton, List.sum_singleton, hdelta,
      add_zero]
  have hremembered := hinvariant.remembered
  exact {
    remembered := { hremembered with
      known := by
        rw [haddedKeys]
        exact hremembered.known
      removed := by
        rw [hremovedKeys]
        exact hremembered.removed
      addsOnce := by
        rw [haddedKeys]
        exact hremembered.addsOnce
      removesOnce := by
        rw [hremovedKeys]
        exact hremembered.removesOnce
      staysReversed := by
        intro earlier later hsplit key hkey hlater
        rcases List.eq_nil_or_concat' later with rfl | ⟨before, last, rfl⟩
        · cases hlater
        · rw [← List.append_assoc] at hsplit
          obtain ⟨hreplies, hlast⟩ := List.append_inj' hsplit rfl
          rw [filterMap_concat, ← List.singleton_inj.mp hlast, hadded, Option.toList_none,
            List.append_nil] at hlater
          exact hremembered.staysReversed earlier before hreplies key hkey hlater }
    accounted :=
      ⟨fun region => by rw [hsum]; exact hinvariant.accounted.stock region,
        fun region => by rw [hsum]; exact hinvariant.accounted.entries region⟩ }

end Commit

/-! ## The requests -/

theorem ids_of_inBin {place : Place} (hplace : place.inBin itemId binId = true) :
    place.itemId = itemId ∧ place.binId = binId := by
  rwa [Place.inBin, Bool.and_eq_true, beq_iff_eq, beq_iff_eq] at hplace

theorem forUpdate_balanced {next : Option StockRow → EntryProgram}
    (hnext : ∀ stock (answer : Option StockRow), (∀ found, answer = some found → found.2.1.inBin itemId binId = true ∧ ∃ committed, stock found.1 = some (found.2.1, committed, found.2.2)) → Balanced hashtext { self with stock } (next answer)) :
    Balanced hashtext self (forUpdate itemId binId next) := by
  intro keys stock answer hanswer
  exact hnext stock answer hanswer

theorem addInventory_balanced (warehouseId : ℕ) {quantity : ℤ} {next : EntryProgram}
    (hnext : ∀ stock, Balanced hashtext (self.move stock itemId binId quantity) next) :
    Balanced hashtext self (addInventory itemId binId warehouseId quantity next) := by
  intro _
  apply forUpdate_balanced
  intro stock answer hanswer
  cases answer with
  | none =>
      intro stock
      exact hnext stock
  | some existing =>
      obtain ⟨inventoryId, place, quantities⟩ := existing
      obtain ⟨hplace, committed, hheld⟩ := hanswer _ rfl
      obtain ⟨rfl, rfl⟩ := ids_of_inBin hplace
      exact ⟨place, committed, quantities, hheld, fun stock => hnext stock⟩

theorem findOrCreateItem_balanced (sha256 : String → String) (request : StockEntryRequest)
    {next : ℕ → Bool → EntryProgram}
    (hnext : ∀ itemId created, Balanced hashtext self (next itemId created)) :
    Balanced hashtext self (findOrCreateItem sha256 request next) := by
  intro keys item
  cases item with
  | some item =>
      change Balanced hashtext self (if _ then _ else _)
      split
      · intro _
        exact hnext item.1 false
      · exact hnext item.1 false
  | none =>
      intro sku
      cases sku with
      | none => trivial
      | some sku =>
          intro itemId
          exact hnext itemId true

theorem enterStock_balanced {request : StockEntryRequest} (actor : String) (itemId : ℕ)
    (created : Bool) (hstock : ∀ region, self.stockChange region = 0)
    (hentryChange : ∀ region, self.entryChange region = 0)
    (hentries : self.entries = fun _ => none) (hreversing : self.reversing = [])
    (hfresh : request.idempotencyKey ∈ self.fresh) :
    Balanced hashtext self (enterStock request actor itemId created) := by
  apply addInventory_balanced
  intro stock
  refine ⟨hfresh, hentries, trivial, fun stockEntryId => ?_⟩
  refine ⟨fun region => ?_, fun region => ?_, ?_, hreversing⟩
  · simp only [Standing.write, Standing.move, hstock, zero_add, Reply.deltaIn]
  · simp only [Standing.write, Standing.move, hentryChange, zero_add, Reply.deltaIn]
  · simp only [Standing.write, Standing.move, hentries]

theorem stockEntry_balanced (sha256 : String → String) (caller : Caller)
    (request : StockEntryRequest) :
    Balanced hashtext .idle (stockEntry sha256 hashtext caller request) := by
  rw [stockEntry]
  split
  · trivial
  · refine ⟨List.mem_cons_self, rfl, fun found => trivial, ?_⟩
    intro bin
    cases bin with
    | none => trivial
    | some bin =>
        apply findOrCreateItem_balanced
        intro itemId created
        exact enterStock_balanced caller.actor itemId created (fun _ => rfl) (fun _ => rfl) rfl
          rfl List.mem_cons_self

theorem reverseStockEntry_balanced (caller : Caller) (stockEntryId : ℕ) :
    Balanced hashtext .idle (reverseStockEntry caller stockEntryId) := by
  rw [reverseStockEntry]
  split
  · trivial
  refine ⟨rfl, trivial, fun columns => ?_⟩
  change Balanced hashtext _ (if _ then _ else _)
  split
  · trivial
  split
  · trivial
  apply forUpdate_balanced
  intro stock answer hanswer
  cases answer with
  | none => trivial
  | some inventoryRow =>
      obtain ⟨inventoryId, place, quantities⟩ := inventoryRow
      obtain ⟨hplace, committed, hheld⟩ := hanswer _ rfl
      obtain ⟨hitem, hbin⟩ := ids_of_inBin hplace
      change Balanced hashtext _ (if _ then _ else _)
      split
      · trivial
      refine ⟨place, committed, quantities, hheld, fun stock => ?_⟩
      refine ⟨columns, some (some ()), Function.update_self _ _ _, ?_⟩
      rw [hitem, hbin]
      refine ⟨fun region => ?_, fun region => ?_, ?_, rfl⟩
      · simp only [Standing.write, Standing.move, Standing.idle, Reply.deltaIn, zero_add,
          sub_sub_cancel_left]
      · simp only [Standing.write, Standing.move, Standing.idle, Reply.deltaIn, zero_add,
          ite_self]
      · simp only [Standing.write, Standing.move, Standing.idle, Function.update_idem]

theorem program_balanced (sha256 : String → String) (request : EntryRequest) :
    Balanced hashtext .idle (request.program sha256 hashtext) := by
  cases request with
  | enter caller request => exact stockEntry_balanced sha256 caller request
  | reverse caller stockEntryId => exact reverseStockEntry_balanced caller stockEntryId

/-! ## Runs -/

theorem Stands.mono {session : Option EntryProgram}
    (hmono : ∀ self, Agrees hashtext db txn self → Agrees hashtext after txn self)
    (hstands : Stands hashtext db txn session) : Stands hashtext after txn session := by
  cases session with
  | none => exact hmono _ hstands
  | some program =>
      obtain ⟨self, hagrees, hbalanced⟩ := hstands
      exact ⟨self, hmono self hagrees, hbalanced⟩

theorem cooperating (fetchOne : FetchOne (Place × Quantities)) (sha256 : String → String)
    (hashtext : String → ℤ) (initial : Database) :
    Cooperating (engine fetchOne) (EntryRequest.program sha256 hashtext) Allowed
      (Invariant hashtext initial) (Stands hashtext) where
  begins := fun _ hidle request => ⟨.idle, hidle, program_balanced sha256 request⟩
  performs := by
    intro db replies txn statement next result hinvariant hstands hallowed hperform
    obtain ⟨self, hagrees, hbefore⟩ := hstands
    obtain ⟨hmoves, standing, hafter, hpost⟩ :=
      perform_before hinvariant hagrees hbefore hallowed hperform
    exact ⟨hmoves.invariant, ⟨standing, hafter, hpost⟩, fun other hother session hstands =>
      hstands.mono fun self hagrees => hmoves.others other hother self hagrees⟩
  commits := by
    intro db replies txn value hinvariant hstands
    obtain ⟨self, hagrees, hcommits⟩ := hstands
    exact ⟨hinvariant.commit hagrees hcommits, idle_commit, fun other hother session hstands =>
      hstands.mono fun self hagrees => hagrees.commit_other hother⟩
  refuses := by
    intro db replies txn value hinvariant hstands
    obtain ⟨self, -, hnothing⟩ := hstands
    exact (hinvariant.rollback txn).reply hnothing
  rollsBack := by
    intro db replies txn session hinvariant _
    exact ⟨hinvariant.rollback txn, idle_rollback, fun other hother session hstands =>
      hstands.mono fun self hagrees => hagrees.rollback_other hother⟩

theorem Invariant.countedOnce (hinvariant : Invariant hashtext initial db replies) :
    CountedOnce initial db replies where
  addsOnce := hinvariant.remembered.addsOnce
  removesOnce := hinvariant.remembered.removesOnce
  stock := by
    intro itemId binId
    rw [hinvariant.accounted.stock, hinvariant.accounted.entries]
    ring
  contributed := by
    intro itemId binId
    rw [hinvariant.accounted.entries]
    ring
  staysReversed := hinvariant.remembered.staysReversed

/-- No transaction is open, the keys of the entries are unique, and no lock is held. -/
structure AtRest (db : Database) : Prop where
  stock : ∀ entry ∈ db.stock.entries, ∃ quantities, entry.2.version = .stable quantities
  entries : ∀ entry ∈ db.entries.entries, entry.2.version = .stable (some ())
  unique : ((idents db.entries).map EntryColumns.idempotencyKey).Nodup
  reversals : ∀ entry ∈ db.reversals.entries, entry.2.version = .stable ()
  codeLocks : db.codeLocks = []

theorem AtRest.idle (hrest : AtRest db) (txn : ℕ) : Agrees hashtext db txn .idle := by
  have hentries : ∀ entry ∈ db.entries.entries, ∃ value, entry.2.version = .stable value :=
    fun entry hentry => ⟨_, hrest.entries entry hentry⟩
  apply agrees_idle (own_stable txn hrest.stock) (fun _ => changeTotal_stable txn hrest.stock _)
    (own_stable txn hentries) fun _ => changeTotal_stable txn hentries _
  apply List.filterMap_eq_nil_iff.mpr
  intro entry hentry
  rw [hrest.reversals entry hentry]
  rfl

theorem AtRest.rememberedKeys (hrest : AtRest db) :
    rememberedKeys db = (idents db.entries).map EntryColumns.idempotencyKey := by
  have hrows := hrest.entries
  rw [EntryRequests.rememberedKeys, committedRows, idents, List.filterMap_filterMap, List.map_map]
  generalize db.entries.entries = entries at hrows
  induction entries with
  | nil => rfl
  | cons entry rest ih =>
      have hversion := hrows entry List.mem_cons_self
      rw [List.filterMap_cons, ih fun entry hentry => hrows entry (List.mem_cons_of_mem _ hentry),
        hversion]
      rfl

theorem AtRest.invariant (hrest : AtRest db) : Invariant hashtext db db [] where
  remembered := {
    exclusive := by
      rw [hrest.codeLocks]
      exact .nil
    inserting := by
      intro entry hentry writer hwriter
      rw [hrest.entries entry hentry] at hwriter
      cases hwriter
    distinct := hrest.unique
    gone := by
      intro entry hentry hnone
      rw [hrest.entries entry hentry] at hnone
      cases hnone
    known := by
      intro key hkey
      rw [List.filterMap_nil, List.append_nil, hrest.rememberedKeys] at hkey
      obtain ⟨ident, hident, rfl⟩ := List.mem_map.mp hkey
      obtain ⟨entry, hentry, rfl⟩ := List.mem_map.mp hident
      exact ⟨entry, hentry, rfl, by rw [hrest.entries entry hentry]; rfl⟩
    removed := nofun
    addsOnce := by
      rw [List.filterMap_nil, List.append_nil, hrest.rememberedKeys]
      exact hrest.unique
    removesOnce := List.nodup_nil
    staysReversed := by
      intro earlier later hsplit key hkey
      obtain ⟨rfl, -⟩ := List.append_eq_nil_iff.mp hsplit.symm
      cases hkey }
  accounted := ⟨fun _ => (add_zero _).symm, fun _ => (add_zero _).symm⟩

/-- In every run in which no entry is written under a key that has been reversed, in every
state it reaches, each key has added at most once and was removed at most once, a bin
holds what the existing entries say, and no key has added after its reversal. -/
theorem countedOnce_of_run (fetchOne : FetchOne (Place × Quantities))
    (sha256 : String → String) (hashtext : String → ℤ) {db : Database}
    {acts : List (Act EntryRequest)} {after : EntrySystem} (hrest : AtRest db)
    (hrun : Run (Interleaving.step (engine fetchOne) (EntryRequest.program sha256 hashtext))
      (Guarded Allowed) ⟨db, fun _ => none, []⟩ acts after) :
    CountedOnce db after.db after.replies := by
  have hstart : Together (Invariant hashtext db) (Stands hashtext)
      (⟨db, fun _ => none, []⟩ : EntrySystem) :=
    ⟨hrest.invariant, fun txn => hrest.idle txn⟩
  exact (run_together (cooperating fetchOne sha256 hashtext db) hstart hrun).inv.countedOnce

/-! ## A retry after the reversal -/

def emptyBin : Database where
  items := ofCommitted [((), ⟨"SKU-1", some "5940001", [], true, none⟩)]
  bins := ofCommitted [(⟨1, "A-1", .pickable, 1, true⟩, ())]
  stock := .empty
  entries := .empty
  reversals := .empty
  codeLocks := []
  stockLocks := []

def administrator : Caller := ⟨⟨none⟩, true, "ana"⟩

def fiveUnits : EntryRequest := .enter administrator ⟨1, 1, 5, "key-1", "5940001", ""⟩

def enterAndReverse : List (Act EntryRequest) :=
  .start 1 fiveUnits :: List.replicate 12 (.advance 1) ++
    .start 2 fiveUnits :: List.replicate 3 (.advance 2) ++
    .start 3 (.reverse administrator 1) :: List.replicate 7 (.advance 3)

def retryAfterReversal : List (Act EntryRequest) :=
  enterAndReverse ++ .start 4 fiveUnits :: List.replicate 12 (.advance 4)

/-- The program of a request, where both hash functions are simple ones. -/
def demoProgram : EntryRequest → EntryProgram :=
  EntryRequest.program id fun text => text.length

def endOf (guard : EntrySystem → Act EntryRequest → Prop)
    [∀ system act, Decidable (guard system act)] (acts : List (Act EntryRequest)) :
    EntrySystem :=
  (execute (Interleaving.step (engine (.first _)) demoProgram) guard
    ⟨emptyBin, fun _ => none, []⟩ acts).getD ⟨emptyBin, fun _ => none, []⟩

theorem emptyBin_atRest : AtRest emptyBin where
  stock := nofun
  entries := nofun
  unique := List.nodup_nil
  reversals := nofun
  codeLocks := rfl

theorem countedOnce_enterAndReverse :
    CountedOnce emptyBin (endOf (Guarded Allowed) enterAndReverse).db
      (endOf (Guarded Allowed) enterAndReverse).replies :=
  countedOnce_of_run (.first _) id (fun text => text.length) emptyBin_atRest
    (Run.ofExecute (rfl : execute _ _ _ enterAndReverse =
      some (endOf (Guarded Allowed) enterAndReverse)))

/-- After the reversal the key is forgotten, and the retry adds the five units again. -/
theorem reversed_key_adds_again :
    Run (Interleaving.step (engine (.first _)) demoProgram) (fun _ _ => True)
        ⟨emptyBin, fun _ => none, []⟩ retryAfterReversal
        (endOf (fun _ _ => True) retryAfterReversal) ∧
      (∀ txn ∈ [1, 2, 3, 4], (endOf (fun _ _ => True) retryAfterReversal).sessions txn = none) ∧
      (endOf (fun _ _ => True) retryAfterReversal).replies.filterMap Reply.addedKey =
        ["key-1", "key-1"] ∧
      stockIn (endOf (fun _ _ => True) retryAfterReversal).db (ofBin 1 1) = 5 ∧
      ¬ CountedOnce emptyBin (endOf (fun _ _ => True) retryAfterReversal).db
        (endOf (fun _ _ => True) retryAfterReversal).replies := by
  refine ⟨Run.ofExecute rfl, ?_, by decide, by decide, fun hcounted => ?_⟩
  · intro txn htxn
    fin_cases htxn <;> rfl
  · exact absurd hcounted.addsOnce (by decide)

end SentryWms.EntryRequests
