import SentryWms.Moving.MoveRequests

/-!
# Stock is conserved

A move that locks its source before it reads takes from it exactly what it puts in the
destination. The transfer between warehouses does not lock, so what it writes is right
only if the row still holds what was read; a pick takes its quantity from every row of
the bin and cuts each off at zero; and a bin is emptied by others between the count of its
stock and the deletion of its rows. Where none of these happens, the stock of every
region of the warehouse is the initial one plus what the committed requests moved.
-/

namespace SentryWms.Moving

open Relational ReadCommitted Interleaving Transition Counting
open StockRequests (Place Quantities StockRow TaskColumns TaskProgress)

/-! ## The property -/

def onHandIn (region : ℕ → ℕ → Bool) (place : Place) (quantities : Option Quantities) : ℤ :=
  if region place.itemId place.binId then quantities.elim 0 Quantities.onHand else 0

def totalIn (db : Database) (region : ℕ → ℕ → Bool) : ℤ :=
  committedTotal (onHandIn region) db.stock

def ofItem (itemId : ℕ) (item _ : ℕ) : Bool :=
  item == itemId

def ofBin (itemId binId item bin : ℕ) : Bool :=
  item == itemId && bin == binId

def Reply.deltas : Reply → List (ℕ × ℕ × ℤ)
  | .moved itemId fromBinId toBinId quantity =>
      [(itemId, fromBinId, -quantity), (itemId, toBinId, quantity)]
  | .added itemId binId quantity => [(itemId, binId, quantity)]
  | .picked itemId binId quantity => [(itemId, binId, -quantity)]
  | _ => []

def Reply.deltaIn (region : ℕ → ℕ → Bool) (reply : Reply) : ℤ :=
  (reply.deltas.map fun delta => if region delta.1 delta.2.1 then delta.2.2 else 0).sum

def Reply.addedOf (itemId : ℕ) : Reply → ℤ
  | .added item _ quantity => if item = itemId then quantity else 0
  | _ => 0

def Reply.pickedOf (itemId : ℕ) : Reply → ℤ
  | .picked item _ quantity => if item = itemId then quantity else 0
  | _ => 0

/-- No stock vanishes or appears: the total of an item is the initial one with the
additions and without the picks, a bin has gained and lost what the requests moved, and
no row was deleted with stock in it. -/
structure NothingVanishes (initial db : Database) (replies : List Reply) : Prop where
  items : ∀ itemId, totalIn db (ofItem itemId) = totalIn initial (ofItem itemId) +
    (replies.map (Reply.addedOf itemId)).sum - (replies.map (Reply.pickedOf itemId)).sum
  bins : ∀ itemId binId, totalIn db (ofBin itemId binId) =
    totalIn initial (ofBin itemId binId) +
      (replies.map (Reply.deltaIn (ofBin itemId binId))).sum
  deletes : ∀ row ∈ db.deleted, row.2.onHand ≤ 0

/-! ## The condition -/

def stillReads (db : Database) (existing : StockRow) : Bool :=
  (db.stock.get? existing.1).any fun current =>
    current.ident == existing.2.1 &&
      current.version.latest.any fun quantities => quantities.onHand == existing.2.2.onHand

def givenUp (db : Database) (itemId binId : ℕ) (keys : List ℕ) (picked : ℤ) : ℤ :=
  db.stock.total fun key row =>
    if keys.contains key && row.ident.inBin itemId binId then
      row.version.latest.elim 0 fun quantities => min quantities.onHand picked
    else 0

/-- When a transfer writes its source, the row still holds what was read; the rows of a bin
give up together what is picked from it; and a row is deleted empty. -/
def allows (db : Database) : Statement → Bool
  | .overwrite existing _ => stillReads db existing
  | .decrement itemId binId keys picked _ => givenUp db itemId binId keys picked == picked
  | .deleteStock binId keys => (taken db binId keys).all fun row => row.2.onHand == 0
  | _ => true

/-- The statements of a run meet the condition. -/
def Allowed (db : Database) (_ : ℕ) (statement : Statement) : Prop :=
  allows db statement = true

instance (db : Database) (txn : ℕ) (statement : Statement) :
    Decidable (Allowed db txn statement) :=
  inferInstanceAs (Decidable (_ = true))

/-! ## Where a session stands -/

/-- What a session holds and has changed. -/
@[ext]
structure Standing where
  held : ℕ → Option (Place × Option Quantities)
  changed : (ℕ → ℕ → Bool) → ℤ

def standing (db : Database) (txn : ℕ) : Standing where
  held := held db.stock txn
  changed := fun region => changeTotal (onHandIn region) db.stock txn

/-- The session holds other rows. -/
def Standing.hold (self : Standing) (held : ℕ → Option (Place × Option Quantities)) :
    Standing where
  held := held
  changed := self.changed

/-- The session has moved a quantity, and holds other rows. -/
def Standing.move (self : Standing) (held : ℕ → Option (Place × Option Quantities))
    (itemId binId : ℕ) (delta : ℤ) : Standing where
  held := held
  changed := fun region => self.changed region + if region itemId binId then delta else 0

/-- What a session has to know before a statement so that an assertion holds after it. -/
def Before (self : Standing) :
    (statement : Statement) → (Answer statement → Standing → Prop) → Prop
  | .readStock itemId binId, post =>
      ∀ read : Option StockRow,
        (∀ found, read = some found → found.2.1.inBin itemId binId = true) → post read self
  | .overwrite existing quantity, post =>
      ∀ held, post () (self.move held existing.2.1.itemId existing.2.1.binId
        (quantity - existing.2.2.onHand))
  | .lockRows itemId binId _, post =>
      ∀ held (answer : Option StockRow),
        (∀ found, answer = some found → held found.1 = some (found.2.1, some found.2.2) ∧
          found.2.1.inBin itemId binId = true) →
        post answer (self.hold held)
  | .setOnHand inventoryId quantity, post =>
      ∃ place quantities, self.held inventoryId = some (place, some quantities) ∧
        ∀ held, post ()
          (self.move held place.itemId place.binId (quantity - quantities.onHand))
  | .addOnHand inventoryId quantity, post =>
      ∃ place quantities, self.held inventoryId = some (place, some quantities) ∧
        ∀ held, post () (self.move held place.itemId place.binId quantity)
  | .insertStock place quantity, post =>
      (∀ held, post true (self.move held place.itemId place.binId quantity)) ∧
        post false self
  | .decrement itemId binId _ picked _, post =>
      ∀ held, post () (self.move held itemId binId (-picked))
  | .deleteStock _ _, post => ∀ held, post () (self.hold held)
  | _, post => ∀ answer, post answer self

/-- From where a session stands, its program commits exactly what it has changed. -/
def Balanced (self : Standing) : MoveProgram → Prop
  | .reply true value => ∀ region, self.changed region = value.deltaIn region
  | .reply false value => value.deltas = []
  | .exec statement next =>
      Before self statement fun answer after => Balanced after (next answer)

variable {fetchOne : FetchOne (Place × Quantities)} {db after : Database} {txn other : ℕ}

/-! ## Statements leave other sessions where they stand -/

theorem standing_congr (hstock : after.stock = db.stock) :
    standing after txn = standing db txn := by
  rw [standing, standing, hstock]

variable {cond : ℕ → Place → Bool} {change : Option Quantities → Option Quantities}

theorem writeStock_spec (hwrite : writeStock db txn cond change = some after) :
    allFree db.stock txn (fun key place => cond key place && !gone db key) = true ∧
      after = { db with
        stock := writeWhere db.stock txn (fun key place => cond key place && !gone db key)
          change } := by
  rw [writeStock] at hwrite
  split at hwrite
  · next hfree => exact ⟨hfree, (Option.some.inj hwrite).symm⟩
  · cases hwrite

theorem writeStock_other (hwrite : writeStock db txn cond change = some after)
    (hother : other ≠ txn) :
    standing after other = standing db other := by
  obtain ⟨hfree, rfl⟩ := writeStock_spec hwrite
  apply Standing.ext
  · exact held_writeWhere_other hfree change hother
  · funext region
    exact changeTotal_writeWhere_other hfree change hother

theorem insertRow_other (place : Place) (quantities : Option Quantities)
    (hstock : after.stock = insertRow db.stock txn place quantities) (hother : other ≠ txn) :
    standing after other = standing db other := by
  rw [standing, standing, hstock]
  apply Standing.ext
  · exact held_insertRow_other hother _ _
  · funext region
    exact changeTotal_insertRow_other hother _ _

variable {place : Place} {quantity : ℤ}

theorem insertStock_spec {inserted : Bool}
    (hinsert : insertStock db txn place quantity = some (after, inserted)) :
    (inserted = false ∧ after = db) ∨
      (inserted = true ∧ after.deleted = db.deleted ∧
        after.stock = insertRow db.stock txn place (some ⟨quantity, 0⟩)) := by
  unfold insertStock at hinsert
  split at hinsert
  · cases hinsert
  split at hinsert
  · cases hinsert
    exact .inl ⟨rfl, rfl⟩
  · cases hinsert
    exact .inr ⟨rfl, rfl, rfl⟩

variable {binId : ℕ}

theorem removeBin_spec {removed : Bool}
    (hremove : removeBin db txn binId = some (after, removed)) :
    after.stock = db.stock ∧ after.deleted = db.deleted := by
  unfold removeBin at hremove
  split at hremove
  · cases hremove
  split at hremove
  · cases hremove
    exact ⟨rfl, rfl⟩
  split at hremove
  · cases hremove
    exact ⟨rfl, rfl⟩
  · cases hremove
    exact ⟨rfl, rfl⟩

/-- A statement that writes no inventory row. -/
def Statement.reads : Statement → Bool
  | .overwrite _ _ | .lockRows _ _ _ | .setOnHand _ _ | .addOnHand _ _ | .insertStock _ _
  | .decrement _ _ _ _ _ | .deleteStock _ _ => false
  | _ => true

variable {statement : Statement}

theorem perform_reads {result : Database × Answer statement} (hreads : statement.reads = true)
    (hperform : perform fetchOne db txn statement = some result) :
    result.1.stock = db.stock ∧ result.1.deleted = db.deleted := by
  cases statement with
  | markPicked pickTaskId quantityPicked =>
      obtain ⟨pickTasks, -, rfl⟩ := Option.map_eq_some_iff.mp hperform
      exact ⟨rfl, rfl⟩
  | advisoryLock itemId binId =>
      rw [perform] at hperform
      split at hperform
      · cases hperform
      · cases hperform
        exact ⟨rfl, rfl⟩
  | deleteBin binId => exact removeBin_spec hperform
  | itemById itemId => cases hperform; exact ⟨rfl, rfl⟩
  | binById binId => cases hperform; exact ⟨rfl, rfl⟩
  | readStock itemId binId => cases hperform; exact ⟨rfl, rfl⟩
  | matchRows itemId binId lot => cases hperform; exact ⟨rfl, rfl⟩
  | taskById pickTaskId => cases hperform; exact ⟨rfl, rfl⟩
  | countStock binId => cases hperform; exact ⟨rfl, rfl⟩
  | countPreferred binId => cases hperform; exact ⟨rfl, rfl⟩
  | matchBin binId => cases hperform; exact ⟨rfl, rfl⟩
  | overwrite existing quantity => cases hreads
  | lockRows itemId binId keys => cases hreads
  | setOnHand inventoryId quantity => cases hreads
  | addOnHand inventoryId quantity => cases hreads
  | insertStock place quantity => cases hreads
  | decrement itemId binId keys picked allocated => cases hreads
  | deleteStock binId keys => cases hreads

theorem perform_writes {result : Database × Answer statement}
    (hwrites : statement.reads = false)
    (hperform : perform fetchOne db txn statement = some result) :
    result.1.stock = db.stock ∨
      (∃ cond change written, writeStock db txn cond change = some written ∧
        result.1.stock = written.stock) ∨
      ∃ place quantities, result.1.stock = insertRow db.stock txn place quantities := by
  cases statement with
  | overwrite existing quantity =>
      obtain ⟨written, hwrite, rfl⟩ := Option.map_eq_some_iff.mp hperform
      exact .inr (.inl ⟨_, _, written, hwrite, rfl⟩)
  | lockRows itemId binId keys =>
      obtain ⟨written, hwrite, rfl⟩ := Option.map_eq_some_iff.mp hperform
      exact .inr (.inl ⟨_, _, written, hwrite, rfl⟩)
  | setOnHand inventoryId quantity =>
      obtain ⟨written, hwrite, rfl⟩ := Option.map_eq_some_iff.mp hperform
      exact .inr (.inl ⟨_, _, written, hwrite, rfl⟩)
  | addOnHand inventoryId quantity =>
      obtain ⟨written, hwrite, rfl⟩ := Option.map_eq_some_iff.mp hperform
      exact .inr (.inl ⟨_, _, written, hwrite, rfl⟩)
  | decrement itemId binId keys picked allocated =>
      obtain ⟨written, hwrite, rfl⟩ := Option.map_eq_some_iff.mp hperform
      exact .inr (.inl ⟨_, _, written, hwrite, rfl⟩)
  | deleteStock binId keys =>
      obtain ⟨written, hwrite, rfl⟩ := Option.map_eq_some_iff.mp hperform
      exact .inr (.inl ⟨_, _, written, hwrite, rfl⟩)
  | insertStock place quantity =>
      rcases insertStock_spec hperform with ⟨-, hsame⟩ | ⟨-, -, hstock⟩
      · exact .inl (congrArg Database.stock hsame)
      · exact .inr (.inr ⟨place, _, hstock⟩)
  | _ => cases hwrites

theorem perform_other {result : Database × Answer statement}
    (hperform : perform fetchOne db txn statement = some result) (hother : other ≠ txn) :
    standing result.1 other = standing db other := by
  cases hreads : statement.reads with
  | true => exact standing_congr (perform_reads hreads hperform).1
  | false =>
      rcases perform_writes hreads hperform with
        hsame | ⟨cond, change, written, hwrite, hstock⟩ | ⟨place, quantities, hstock⟩
      · exact standing_congr hsame
      · rw [← writeStock_other hwrite hother]
        exact standing_congr hstock
      · exact insertRow_other place quantities hstock hother

theorem commit_other (hother : other ≠ txn) :
    standing ((engine fetchOne).commit db txn) other = standing db other := by
  apply Standing.ext
  · exact held_commitRows_other _ hother
  · funext region
    exact changeTotal_commitRows_other _ hother

theorem rollback_other (hother : other ≠ txn) :
    standing ((engine fetchOne).rollback db txn) other = standing db other := by
  apply Standing.ext
  · exact held_rollbackRows_other _ hother
  · funext region
    exact changeTotal_rollbackRows_other _ hother

/-! ## What a statement does to its own session -/

theorem onHandIn_some (region : ℕ → ℕ → Bool) (place : Place) (quantities : Quantities) :
    onHandIn region place (some quantities) =
      if region place.itemId place.binId then quantities.onHand else 0 := rfl

theorem onHandIn_none (region : ℕ → ℕ → Bool) (place : Place) :
    onHandIn region place none = 0 := by
  simp [onHandIn]

variable {inventoryId : ℕ} {row : Row Place (Option Quantities)} {quantities : Quantities}

theorem gone_eq_false (hrow : (inventoryId, row) ∈ db.stock.entries)
    (hlatest : row.version.latest = some quantities) : gone db inventoryId = false := by
  rw [gone, db.stock.get?_eq_some.mpr hrow, Option.any_some, beq_eq_false_iff_ne]
  intro hstable
  rw [hstable] at hlatest
  cases hlatest

theorem latest_of_gone (hrow : (inventoryId, row) ∈ db.stock.entries)
    (hgone : gone db inventoryId = true) :
    row.version = .stable none := by
  rw [gone, db.stock.get?_eq_some.mpr hrow, Option.any_some, beq_iff_eq] at hgone
  exact hgone

theorem writeStock_key (hrow : (inventoryId, row) ∈ db.stock.entries) {before : Quantities}
    (hlatest : row.version.latest = some before) {change : Quantities → Quantities}
    (hwrite : writeStock db txn (fun key _ => key == inventoryId) (Option.map change) = some after) :
    standing after txn = (standing db txn).move (held after.stock txn) row.ident.itemId
      row.ident.binId ((change before).onHand - before.onHand) := by
  obtain ⟨hfree, rfl⟩ := writeStock_spec hwrite
  apply Standing.ext
  · rfl
  · funext region
    refine Eq.trans (changeTotal_writeWhere hfree _) ?_
    refine congrArg (changeTotal (onHandIn region) db.stock txn + ·) ?_
    calc (db.stock.total fun key row => if (key == inventoryId && !gone db key) = true then
          onHandIn region row.ident (row.version.latest.map change) -
            onHandIn region row.ident row.version.latest else 0)
        = db.stock.total fun key row => if key == inventoryId then
            onHandIn region row.ident (row.version.latest.map change) -
              onHandIn region row.ident row.version.latest else 0 := by
          apply Table.total_congr
          intro key row' _
          by_cases hkey : key = inventoryId
          · simp [hkey, gone_eq_false hrow hlatest]
          · simp [hkey]
      _ = onHandIn region row.ident (row.version.latest.map change) -
            onHandIn region row.ident row.version.latest :=
          total_key hrow fun row =>
            onHandIn region row.ident (row.version.latest.map change) -
              onHandIn region row.ident row.version.latest
      _ = if region row.ident.itemId row.ident.binId then
            (change before).onHand - before.onHand else 0 := by
          rw [hlatest, Option.map_some, onHandIn_some, onHandIn_some]
          split
          · rfl
          · rfl

theorem writeStock_hold
    (hsame : ∀ key row, (key, row) ∈ db.stock.entries → cond key row.ident = true → (change row.version.latest).elim 0 Quantities.onHand = row.version.latest.elim 0 Quantities.onHand)
    (hwrite : writeStock db txn cond change = some after) :
    standing after txn = (standing db txn).hold (held after.stock txn) := by
  obtain ⟨hfree, rfl⟩ := writeStock_spec hwrite
  apply Standing.ext
  · rfl
  · funext region
    refine Eq.trans (changeTotal_writeWhere hfree change) ?_
    have hzero : (db.stock.total fun key row => if (cond key row.ident && !gone db key) = true
        then onHandIn region row.ident (change row.version.latest) -
          onHandIn region row.ident row.version.latest else 0) = 0 := by
      apply db.stock.total_eq_zero
      intro key row hrow
      split
      · next hselected =>
          have hcond := (Bool.and_eq_true _ _ ▸ hselected).1
          rw [onHandIn, onHandIn, hsame key row hrow hcond, sub_self]
      · rfl
    rw [hzero, add_zero]
    rfl

theorem mem_seen :
    (inventoryId, place, quantities) ∈ seen db txn ↔
      ∃ row, (inventoryId, row) ∈ db.stock.entries ∧ row.ident = place ∧
        row.version.view txn = some (some quantities) := by
  simp only [seen, rowsSeen, List.mem_filterMap, Option.map_eq_some_iff, Prod.exists,
    Prod.mk.injEq]
  constructor
  · rintro ⟨key, ident, value, ⟨key', row, hrow, value', hview, rfl, rfl, rfl⟩, held, rfl, rfl,
      rfl, rfl⟩
    exact ⟨row, hrow, rfl, hview⟩
  · rintro ⟨row, hrow, rfl, hview⟩
    exact ⟨inventoryId, row.ident, some quantities,
      ⟨inventoryId, row, hrow, some quantities, hview, rfl, rfl, rfl⟩, quantities, rfl, rfl, rfl,
      rfl⟩

variable {itemId : ℕ} {keys : List ℕ}

theorem fetch_lockRows {found : StockRow}
    (hwrite : writeStock db txn (fun key place => keys.contains key && place.inBin itemId binId) id = some after)
    (hfetch : fetchOne.fetch ((stockRows after txn itemId binId none).filter fun row => keys.contains row.1) = some found) :
    held after.stock txn found.1 = some (found.2.1, some found.2.2) ∧
      found.2.1.inBin itemId binId = true := by
  obtain ⟨inventoryId, place, quantities⟩ := found
  obtain ⟨hmem, hkey⟩ := List.mem_filter.mp (fetchOne.mem hfetch)
  obtain ⟨hseen, hcond⟩ := List.mem_filter.mp hmem
  rw [Bool.and_eq_true] at hcond
  obtain ⟨row, hrow, rfl, hview⟩ := mem_seen.mp hseen
  refine ⟨?_, hcond.1⟩
  obtain ⟨hfree, rfl⟩ := writeStock_spec hwrite
  obtain ⟨before, hbefore, hafter⟩ := (Table.mem_mapRows _).mp hrow
  have hident : row.ident = before.ident := by
    rw [← hafter]
    split <;> rfl
  -- A row that is gone is not seen after the lock either.
  have hlive : gone db inventoryId = false := by
    rw [← Bool.not_eq_true]
    intro hgone
    have hstable := latest_of_gone hbefore hgone
    have hsame : before = row := by simpa [hgone] using hafter
    rw [← hsame, hstable] at hview
    cases hview
  have hselected : (keys.contains inventoryId && before.ident.inBin itemId binId &&
      !gone db inventoryId) = true := by
    rw [hlive, ← hident, hcond.1, hkey]
    rfl
  rw [if_pos hselected] at hafter
  dsimp only
  rw [held_writeWhere hbefore hselected, ← hafter]
  rw [← hafter] at hview
  cases hversion : before.version with
  | stable latest =>
      rw [hversion] at hview
      simp only [Version.write, Version.view, if_true, Option.some.injEq] at hview
      rw [← hview]
  | written writer committed latest =>
      rw [hversion] at hview
      simp only [Version.write, Version.view, if_true, Option.some.injEq] at hview
      rw [← hview]

theorem place_of_inBin (hplace : place.inBin itemId binId = true) :
    place.itemId = itemId ∧ place.binId = binId := by
  rwa [Place.inBin, Bool.and_eq_true, beq_iff_eq, beq_iff_eq] at hplace

theorem standing_decrement {picked allocated : ℤ}
    (hgiven : givenUp db itemId binId keys picked = picked)
    (hwrite : writeStock db txn (fun key place => keys.contains key && place.inBin itemId binId) (Option.map fun quantities => ⟨max 0 (quantities.onHand - picked), max 0 (quantities.allocated - allocated)⟩) = some after) :
    standing after txn =
      (standing db txn).move (held after.stock txn) itemId binId (-picked) := by
  obtain ⟨hfree, rfl⟩ := writeStock_spec hwrite
  apply Standing.ext
  · rfl
  · funext region
    refine Eq.trans (changeTotal_writeWhere hfree _) ?_
    refine congrArg (changeTotal (onHandIn region) db.stock txn + ·) ?_
    calc _ = db.stock.total fun key row => (if region itemId binId then -1 else 0) *
            if (keys.contains key && row.ident.inBin itemId binId) = true then
              row.version.latest.elim 0 fun quantities => min quantities.onHand picked
            else 0 := by
          apply Table.total_congr
          intro key row hrow
          by_cases hcond : (keys.contains key && row.ident.inBin itemId binId) = true
          · obtain ⟨hitem, hbin⟩ := place_of_inBin (Bool.and_eq_true _ _ ▸ hcond).2
            cases hlatest : row.version.latest with
            | none => simp [onHandIn_none]
            | some quantities =>
                rw [hcond, gone_eq_false hrow hlatest, Bool.not_false, Bool.and_true,
                  Option.map_some, onHandIn_some, onHandIn_some, hitem, hbin, if_pos rfl,
                  if_pos rfl, Option.elim_some]
                split
                · dsimp only
                  omega
                · ring
          · rw [Bool.not_eq_true] at hcond
            rw [hcond, Bool.false_and, if_neg Bool.false_ne_true, if_neg Bool.false_ne_true,
              mul_zero]
      _ = (if region itemId binId then -1 else 0) * givenUp db itemId binId keys picked :=
          (Table.mul_total _ _ _).symm
      _ = if region itemId binId then -picked else 0 := by
          rw [hgiven]
          split <;> ring

theorem mem_taken (hrow : (inventoryId, row) ∈ db.stock.entries)
    (hcond : (keys.contains inventoryId && row.ident.binId == binId) = true)
    (hlatest : row.version.latest = some quantities) :
    (row.ident, quantities) ∈ taken db binId keys := by
  apply List.mem_filterMap.mpr
  exact ⟨(inventoryId, row), List.mem_filter.mpr ⟨hrow, hcond⟩, by rw [hlatest]; rfl⟩

theorem perform_before {result : Database × Answer statement}
    {post : Answer statement → Standing → Prop} (hallowed : Allowed db txn statement)
    (hbefore : Before (standing db txn) statement post)
    (hperform : perform fetchOne db txn statement = some result) :
    post result.2 (standing result.1 txn) := by
  cases statement with
  | readStock itemId binId =>
      cases hperform
      apply hbefore
      intro found hfetch
      have hmem := (List.mem_filter.mp (fetchOne.mem hfetch)).2
      exact (Bool.and_eq_true _ _ ▸ hmem).1
  | overwrite existing quantity =>
      obtain ⟨written, hwrite, rfl⟩ := Option.map_eq_some_iff.mp hperform
      rw [Allowed, allows, stillReads, Option.any_eq_true] at hallowed
      obtain ⟨current, hget, hreads⟩ := hallowed
      rw [Bool.and_eq_true, beq_iff_eq, Option.any_eq_true] at hreads
      obtain ⟨hident, before, hlatest, honHand⟩ := hreads
      rw [writeStock_key (db.stock.get?_eq_some.mp hget) hlatest hwrite, hident,
        beq_iff_eq.mp honHand]
      exact hbefore _
  | lockRows itemId binId keys =>
      obtain ⟨written, hwrite, rfl⟩ := Option.map_eq_some_iff.mp hperform
      rw [writeStock_hold (fun _ _ _ _ => rfl) hwrite]
      exact hbefore _ _ fun found hfetch => fetch_lockRows hwrite hfetch
  | setOnHand inventoryId quantity =>
      obtain ⟨written, hwrite, rfl⟩ := Option.map_eq_some_iff.mp hperform
      obtain ⟨place, quantities, hheld, hafter⟩ := hbefore
      obtain ⟨row, hrow, rfl, hlatest, -⟩ := mem_of_held hheld
      rw [writeStock_key hrow hlatest hwrite]
      exact hafter _
  | addOnHand inventoryId quantity =>
      obtain ⟨written, hwrite, rfl⟩ := Option.map_eq_some_iff.mp hperform
      obtain ⟨place, quantities, hheld, hafter⟩ := hbefore
      obtain ⟨row, hrow, rfl, hlatest, -⟩ := mem_of_held hheld
      rw [writeStock_key hrow hlatest hwrite]
      dsimp only
      rw [add_sub_cancel_left]
      exact hafter _
  | insertStock place quantity =>
      obtain ⟨hinserted, hrefused⟩ := hbefore
      obtain ⟨next, inserted⟩ := result
      rcases insertStock_spec hperform with ⟨hfalse, hsame⟩ | ⟨htrue, -, hstock⟩
      · rw [hfalse, hsame]
        exact hrefused
      · have hmoved : standing next txn = (standing db txn).move (held next.stock txn)
            place.itemId place.binId quantity := by
          apply Standing.ext
          · rfl
          · funext region
            rw [standing, hstock]
            exact changeTotal_insertRow _ _
        rw [htrue, hmoved]
        exact hinserted _
  | decrement itemId binId keys picked allocated =>
      obtain ⟨written, hwrite, rfl⟩ := Option.map_eq_some_iff.mp hperform
      rw [standing_decrement (beq_iff_eq.mp hallowed) hwrite]
      exact hbefore _
  | deleteStock binId keys =>
      obtain ⟨written, hwrite, rfl⟩ := Option.map_eq_some_iff.mp hperform
      have hempty : ∀ key row, (key, row) ∈ db.stock.entries →
          (keys.contains key && row.ident.binId == binId) = true →
          (none : Option Quantities).elim 0 Quantities.onHand =
            row.version.latest.elim 0 Quantities.onHand := by
        intro key row hrow hcond
        cases hlatest : row.version.latest with
        | none => rfl
        | some quantities =>
            have hzero := List.all_eq_true.mp hallowed _ (mem_taken hrow hcond hlatest)
            exact (beq_iff_eq.mp hzero).symm
      have hheld : standing { written with deleted := db.deleted ++ taken db binId keys } txn =
          (standing db txn).hold (held written.stock txn) := by
        rw [← writeStock_hold hempty hwrite]
        exact standing_congr rfl
      rw [hheld]
      exact hbefore _
  | markPicked pickTaskId quantityPicked =>
      obtain ⟨pickTasks, -, rfl⟩ := Option.map_eq_some_iff.mp hperform
      exact hbefore _
  | advisoryLock itemId binId =>
      rw [perform] at hperform
      split at hperform
      · cases hperform
      · cases hperform
        exact hbefore _
  | deleteBin binId =>
      rw [standing_congr (removeBin_spec hperform).1]
      exact hbefore _
  | itemById itemId => cases hperform; exact hbefore _
  | binById binId => cases hperform; exact hbefore _
  | matchRows itemId binId lot => cases hperform; exact hbefore _
  | taskById pickTaskId => cases hperform; exact hbefore _
  | countStock binId => cases hperform; exact hbefore _
  | countPreferred binId => cases hperform; exact hbefore _
  | matchBin binId => cases hperform; exact hbefore _

/-! ## The requests are balanced -/

variable {self : Standing} {next : MoveProgram}

theorem forUpdate_balanced {lot : Option (Option String)}
    {next : Option StockRow → MoveProgram}
    (hnext : ∀ held (answer : Option StockRow), (∀ found, answer = some found → held found.1 = some (found.2.1, some found.2.2) ∧ found.2.1.inBin itemId binId = true) → Balanced (self.hold held) (next answer)) :
    Balanced self (forUpdate itemId binId lot next) :=
  fun _ held answer hanswer => hnext held answer hanswer

theorem addInventory_balanced {warehouseId : ℕ} {lotNumber : Option String}
    (hnext : ∀ held, Balanced (self.move held itemId binId quantity) next) :
    Balanced self (addInventory itemId binId warehouseId quantity lotNumber next) := by
  intro _
  apply forUpdate_balanced
  intro held answer hanswer
  cases answer with
  | some existing =>
      obtain ⟨hheld, hplace⟩ := hanswer existing rfl
      obtain ⟨hitem, hbin⟩ := place_of_inBin hplace
      refine ⟨existing.2.1, existing.2.2, hheld, fun held => ?_⟩
      rw [hitem, hbin]
      exact hnext held
  | none => exact ⟨fun held => hnext held, rfl⟩

theorem moved_balanced (hchanged : ∀ region, self.changed region = 0) {fromBinId toBinId : ℕ}
    {delta : ℤ} (hdelta : delta = -quantity)
    (first second : ℕ → Option (Place × Option Quantities)) :
    Balanced ((self.move first itemId fromBinId delta).move second itemId toBinId quantity)
      (.reply true (.moved itemId fromBinId toBinId quantity)) := by
  intro region
  simp only [Standing.move, hchanged, zero_add, hdelta, Reply.deltaIn, Reply.deltas,
    List.map_cons, List.map_nil, List.sum_cons, List.sum_nil, add_zero]

section Programs

variable (hchanged : ∀ region, self.changed region = 0)

include hchanged

theorem moveInventory_balanced (itemId fromBinId toBinId warehouseId : ℕ) (quantity : ℤ)
    (lotNumber : Option String) :
    Balanced self
      (moveInventory itemId fromBinId toBinId warehouseId quantity lotNumber) := by
  apply forUpdate_balanced
  intro held answer hanswer
  cases answer with
  | none => exact rfl
  | some source =>
      obtain ⟨hheld, hplace⟩ := hanswer _ rfl
      obtain ⟨hitem, hbin⟩ := place_of_inBin hplace
      change Balanced _ (if source.2.2.onHand < quantity then _ else _)
      split
      · exact rfl
      · refine ⟨source.2.1, source.2.2, hheld, fun held => ?_⟩
        rw [hitem, hbin]
        apply addInventory_balanced
        intro held
        exact moved_balanced hchanged (by ring) _ _

theorem createInterWarehouseTransfer_balanced
    (itemId fromBinId fromWarehouseId toBinId toWarehouseId : ℕ) (quantity : ℤ) :
    Balanced self (createInterWarehouseTransfer itemId fromBinId fromWarehouseId toBinId
      toWarehouseId quantity) := by
  intro item
  cases item with
  | none => exact rfl
  | some item =>
      intro (fromBin : Option Bin)
      change Balanced self (if !fromBin.any _ then _ else _)
      split
      · exact rfl
      intro (toBin : Option Bin)
      change Balanced self (if !toBin.any _ then _ else _)
      split
      · exact rfl
      intro source hplace
      cases source with
      | none => exact rfl
      | some existing =>
          obtain ⟨hitem, hbin⟩ := place_of_inBin (hplace _ rfl)
          change Balanced self (if existing.2.2.onHand < quantity then _ else _)
          split
          · exact rfl
          · intro held
            rw [hitem, hbin]
            apply addInventory_balanced
            intro held
            exact moved_balanced hchanged (by ring) _ _

theorem confirmPick_balanced (pickTaskId : ℕ) (scannedBarcode : String)
    (quantityPicked : ℤ) :
    Balanced self (confirmPick pickTaskId scannedBarcode quantityPicked) := by
  have hnothing : ∀ region, self.changed region =
      Reply.pickedForTransfer.deltaIn region := hchanged
  intro task
  cases task with
  | none => exact rfl
  | some found =>
      obtain ⟨task, progress⟩ := found
      change Balanced self (if progress.status ≠ .pending then _ else _)
      split
      · exact rfl
      split
      · exact rfl
      intro (item : Option Item)
      change Balanced self (if !item.any (barcodeMatches scannedBarcode) then _ else _)
      split
      · exact rfl
      intro _
      change Balanced self (if task.transfer then _ else _)
      split
      · exact hnothing
      · intro _ held region
        simp only [Standing.move, hchanged, zero_add, Reply.deltaIn, Reply.deltas,
          List.map_cons, List.map_nil, List.sum_cons, List.sum_nil, add_zero]

theorem deleteBin_balanced (binId : ℕ) : Balanced self (deleteBin binId) := by
  have hnothing : ∀ region, self.changed region = Reply.binDeleted.deltaIn region := hchanged
  intro existing
  cases existing with
  | none => exact rfl
  | some bin =>
      intro (inv : ℕ)
      change Balanced self (if 0 < inv then _ else _)
      split
      · exact rfl
      intro (pref : ℕ)
      change Balanced self (if 0 < pref then _ else _)
      split
      · exact rfl
      intro _ held (deleted : Bool)
      change Balanced (self.hold held) (if deleted then _ else _)
      split
      · exact hnothing
      · exact rfl

theorem program_balanced (request : MoveRequest) : Balanced self request.program := by
  cases request with
  | move itemId fromBinId toBinId warehouseId quantity lotNumber =>
      exact moveInventory_balanced hchanged _ _ _ _ _ _
  | transfer itemId fromBinId fromWarehouseId toBinId toWarehouseId quantity quantity_pos =>
      exact createInterWarehouseTransfer_balanced hchanged _ _ _ _ _ _
  | add itemId binId warehouseId quantity lotNumber =>
      apply addInventory_balanced
      intro held region
      simp only [Standing.move, hchanged, zero_add, Reply.deltaIn, Reply.deltas,
        List.map_cons, List.map_nil, List.sum_cons, List.sum_nil, add_zero]
  | pick pickTaskId scannedBarcode quantityPicked =>
      exact confirmPick_balanced hchanged _ _ _
  | deleteBin binId => exact deleteBin_balanced hchanged binId

end Programs

/-! ## Conservation -/

/-- In every region the stock is the initial one plus what the replies say was moved into
it, and what was deleted was empty. -/
structure Conserved (initial : (ℕ → ℕ → Bool) → ℤ) (db : Database) (replies : List Reply) :
    Prop where
  total : ∀ region, totalIn db region =
    initial region + (replies.map (Reply.deltaIn region)).sum
  deletes : ∀ row ∈ db.deleted, row.2.onHand ≤ 0

variable {initial : (ℕ → ℕ → Bool) → ℤ} {replies : List Reply}

theorem Conserved.congr (hconserved : Conserved initial db replies)
    (htotal : ∀ region, totalIn after region = totalIn db region)
    (hdeleted : after.deleted = db.deleted) : Conserved initial after replies where
  total := fun region => (htotal region).trans (hconserved.total region)
  deletes := by
    rw [hdeleted]
    exact hconserved.deletes

theorem totalIn_writeStock (hwrite : writeStock db txn cond change = some after)
    (region : ℕ → ℕ → Bool) :
    totalIn after region = totalIn db region := by
  obtain ⟨-, rfl⟩ := writeStock_spec hwrite
  exact committedTotal_writeWhere change

theorem perform_totalIn {result : Database × Answer statement}
    (hperform : perform fetchOne db txn statement = some result) (region : ℕ → ℕ → Bool) :
    totalIn result.1 region = totalIn db region := by
  cases hreads : statement.reads with
  | true => rw [totalIn, (perform_reads hreads hperform).1, totalIn]
  | false =>
      rcases perform_writes hreads hperform with
        hsame | ⟨cond, change, written, hwrite, hstock⟩ | ⟨place, quantities, hstock⟩
      · rw [totalIn, hsame, totalIn]
      · rw [totalIn, hstock, ← totalIn_writeStock hwrite region, totalIn]
      · rw [totalIn, hstock]
        exact committedTotal_insertRow _ _

theorem perform_deleted {result : Database × Answer statement}
    (hallowed : Allowed db txn statement)
    (hperform : perform fetchOne db txn statement = some result) {row : Place × Quantities}
    (hrow : row ∈ result.1.deleted) : row ∈ db.deleted ∨ row.2.onHand ≤ 0 := by
  have hwritten : ∀ {cond change written}, writeStock db txn cond change = some written →
      written.deleted = db.deleted := by
    intro cond change written hwrite
    obtain ⟨-, rfl⟩ := writeStock_spec hwrite
    rfl
  cases hreads : statement.reads with
  | true =>
      rw [(perform_reads hreads hperform).2] at hrow
      exact .inl hrow
  | false =>
      cases statement with
      | deleteStock binId keys =>
          obtain ⟨written, hwrite, rfl⟩ := Option.map_eq_some_iff.mp hperform
          rcases List.mem_append.mp hrow with hold | htaken
          · exact .inl hold
          · have hzero := List.all_eq_true.mp hallowed _ htaken
            exact .inr (beq_iff_eq.mp hzero).le
      | insertStock place quantity =>
          rcases insertStock_spec hperform with ⟨-, hsame⟩ | ⟨-, hdeleted, -⟩
          · exact .inl (hsame ▸ hrow)
          · exact .inl (hdeleted ▸ hrow)
      | overwrite existing quantity =>
          obtain ⟨written, hwrite, rfl⟩ := Option.map_eq_some_iff.mp hperform
          exact .inl (hwritten hwrite ▸ hrow)
      | lockRows itemId binId keys =>
          obtain ⟨written, hwrite, rfl⟩ := Option.map_eq_some_iff.mp hperform
          exact .inl (hwritten hwrite ▸ hrow)
      | setOnHand inventoryId quantity =>
          obtain ⟨written, hwrite, rfl⟩ := Option.map_eq_some_iff.mp hperform
          exact .inl (hwritten hwrite ▸ hrow)
      | addOnHand inventoryId quantity =>
          obtain ⟨written, hwrite, rfl⟩ := Option.map_eq_some_iff.mp hperform
          exact .inl (hwritten hwrite ▸ hrow)
      | decrement itemId binId keys picked allocated =>
          obtain ⟨written, hwrite, rfl⟩ := Option.map_eq_some_iff.mp hperform
          exact .inl (hwritten hwrite ▸ hrow)
      | _ => cases hreads

theorem Conserved.rollback (hconserved : Conserved initial db replies) (txn : ℕ) :
    Conserved initial ((engine fetchOne).rollback db txn) replies :=
  hconserved.congr (fun _ => committedTotal_rollbackRows _ _) rfl

theorem deltaIn_of_nothing {value : Reply} (hnothing : value.deltas = [])
    (region : ℕ → ℕ → Bool) : value.deltaIn region = 0 := by
  rw [Reply.deltaIn, hnothing]
  rfl

theorem undisturbed (fetchOne : FetchOne (Place × Quantities))
    (initial : (ℕ → ℕ → Bool) → ℤ) :
    Undisturbed (engine fetchOne) MoveRequest.program Allowed (Conserved initial)
      (fun db txn program => Balanced (standing db txn) program)
      (fun db txn => ∀ region, (standing db txn).changed region = 0) where
  begins := fun hidle request => program_balanced hidle request
  performs := by
    intro db replies txn statement next result hconserved hbalanced hallowed hperform
    refine ⟨⟨fun region => ?_, fun row hrow => ?_⟩,
      perform_before hallowed hbalanced hperform⟩
    · rw [perform_totalIn hperform]
      exact hconserved.total region
    · rcases perform_deleted hallowed hperform hrow with hold | hempty
      · exact hconserved.deletes row hold
      · exact hempty
  commits := by
    intro db replies txn value hconserved hbalanced
    refine ⟨⟨fun region => ?_, hconserved.deletes⟩,
      fun _ => changeTotal_commitRows _ _⟩
    have hmoved : changeTotal (onHandIn region) db.stock txn = value.deltaIn region :=
      hbalanced region
    rw [List.map_append, List.sum_append, ← add_assoc, ← hconserved.total, List.map_singleton,
      List.sum_singleton, ← hmoved]
    exact committedTotal_commitRows _ _
  refuses := by
    intro db replies txn value hconserved hbalanced
    refine ⟨fun region => ?_, hconserved.deletes⟩
    rw [List.map_append, List.sum_append, List.map_singleton, List.sum_singleton,
      deltaIn_of_nothing hbalanced, add_zero, ← hconserved.total]
    exact committedTotal_rollbackRows _ _
  rollsBack := fun hconserved txn => ⟨hconserved.rollback txn, fun _ =>
    changeTotal_rollbackRows _ _⟩
  owns_others := by
    intro db txn other program hbalanced hother
    refine ⟨fun hperform => ?_, ?_, ?_⟩
    · rw [perform_other hperform hother]
      exact hbalanced
    · rw [commit_other hother]
      exact hbalanced
    · rw [rollback_other hother]
      exact hbalanced
  idle_others := by
    intro db txn other hidle hother
    refine ⟨fun hperform => ?_, ?_, ?_⟩
    · rw [perform_other hperform hother]
      exact hidle
    · rw [commit_other hother]
      exact hidle
    · rw [rollback_other hother]
      exact hidle

/-! ## Runs -/

theorem deltaIn_ofItem (itemId : ℕ) (reply : Reply) :
    reply.deltaIn (ofItem itemId) = reply.addedOf itemId - reply.pickedOf itemId := by
  cases reply with
  | moved item fromBinId toBinId quantity =>
      simp only [Reply.deltaIn, Reply.deltas, Reply.addedOf, Reply.pickedOf, ofItem,
        List.map_cons, List.map_nil, List.sum_cons, List.sum_nil, beq_iff_eq]
      by_cases hitem : item = itemId
      · rw [if_pos hitem, if_pos hitem]
        ring
      · rw [if_neg hitem, if_neg hitem]
        ring
  | added item binId quantity =>
      simp [Reply.deltaIn, Reply.deltas, Reply.addedOf, Reply.pickedOf, ofItem]
  | picked item binId quantity =>
      simp only [Reply.deltaIn, Reply.deltas, Reply.addedOf, Reply.pickedOf, ofItem,
        List.map_cons, List.map_nil, List.sum_cons, List.sum_nil, beq_iff_eq]
      split <;> ring
  | refused refusal => rfl
  | pickedForTransfer => rfl
  | binDeleted => rfl

theorem deltasIn_ofItem (itemId : ℕ) (replies : List Reply) :
    (replies.map (Reply.deltaIn (ofItem itemId))).sum =
      (replies.map (Reply.addedOf itemId)).sum - (replies.map (Reply.pickedOf itemId)).sum := by
  induction replies with
  | nil => rfl
  | cons reply replies ih =>
      simp only [List.map_cons, List.sum_cons, ih, deltaIn_ofItem]
      ring

theorem Conserved.nothingVanishes {first : Database}
    (hconserved : Conserved (totalIn first) db replies) : NothingVanishes first db replies where
  items := by
    intro itemId
    rw [hconserved.total, deltasIn_ofItem, add_sub_assoc]
  bins := fun itemId binId => hconserved.total (ofBin itemId binId)
  deletes := hconserved.deletes

/-- No transaction is open, and nothing has been deleted yet. -/
structure AtRest (db : Database) : Prop where
  stock : ∀ entry ∈ db.stock.entries, ∃ quantities, entry.2.version = .stable quantities
  deleted : db.deleted = []

theorem AtRest.idle (hrest : AtRest db) (txn : ℕ) (region : ℕ → ℕ → Bool) :
    (standing db txn).changed region = 0 := by
  change changeTotal (onHandIn region) db.stock txn = 0
  apply Table.total_eq_zero
  intro key row hrow
  obtain ⟨quantities, hstable⟩ := hrest.stock _ hrow
  have hversion : row.version = .stable quantities := hstable
  rw [hversion]
  rfl

/-- In every run whose statements meet the condition, in every state it reaches, the total
of every item is the initial one with the committed additions and without the committed
picks, every bin has gained and lost what the committed requests moved, and no row was
deleted with stock in it. -/
theorem nothingVanishes_of_run (fetchOne : FetchOne (Place × Quantities)) {db : Database}
    {acts : List (Act MoveRequest)} {after : MoveSystem} (hrest : AtRest db)
    (hrun : Run (Interleaving.step (engine fetchOne) MoveRequest.program) (Guarded Allowed)
      ⟨db, fun _ => none, []⟩ acts after) :
    NothingVanishes db after.db after.replies := by
  have hstart : Holds (Conserved (totalIn db))
      (fun db txn program => Balanced (standing db txn) program)
      (fun db txn => ∀ region, (standing db txn).changed region = 0)
      (⟨db, fun _ => none, []⟩ : MoveSystem) := by
    refine ⟨⟨fun region => (add_zero _).symm, ?_⟩, nofun, fun txn _ => hrest.idle txn⟩
    rw [hrest.deleted]
    rintro _ ⟨⟩
  exact (run_holds (undisturbed fetchOne (totalIn db)) hstart hrun).inv.nothingVanishes

/-! ## Two transfers from one bin -/

def tenUnits : Database where
  items := .ofRows [⟨"SKU-1", none, [], true, none⟩]
  bins := ofCommitted [(⟨1, "A-1", .pickable, 1, true⟩, some ()),
    (⟨2, "B-1", .pickable, 1, true⟩, some ())]
  preferredBins := []
  referencedBins := []
  stock := ofCommitted [(⟨1, 1, 1, none⟩, some ⟨10, 0⟩)]
  pickTasks := .empty
  advisoryLocks := []
  keyShares := []
  deleted := []

def sixUnits : MoveRequest := .transfer 1 1 1 2 2 6 (by decide)

def moveThenTransfer : List (Act MoveRequest) :=
  .start 1 (.move 1 1 2 2 4 none) :: List.replicate 8 (.advance 1) ++
    .start 2 sixUnits :: List.replicate 10 (.advance 2)

/-- Two transfers read the bin before either writes. -/
def twoTransfers : List (Act MoveRequest) :=
  .start 1 sixUnits :: .start 2 sixUnits :: List.replicate 4 (.advance 1) ++
    List.replicate 4 (.advance 2) ++ List.replicate 6 (.advance 1) ++
    List.replicate 6 (.advance 2)

def endOf (guard : MoveSystem → Act MoveRequest → Prop)
    [∀ system act, Decidable (guard system act)] (acts : List (Act MoveRequest)) :
    MoveSystem :=
  (execute (Interleaving.step (engine (.first _)) MoveRequest.program) guard
    ⟨tenUnits, fun _ => none, []⟩ acts).getD ⟨tenUnits, fun _ => none, []⟩

theorem tenUnits_atRest : AtRest tenUnits where
  stock := by
    intro entry hentry
    have hsingle : entry ∈ [(1, ⟨⟨1, 1, 1, none⟩, .stable (some ⟨10, 0⟩)⟩)] := hentry
    rw [List.mem_singleton.mp hsingle]
    exact ⟨_, rfl⟩
  deleted := rfl

theorem nothingVanishes_moveThenTransfer :
    NothingVanishes tenUnits (endOf (Guarded Allowed) moveThenTransfer).db
      (endOf (Guarded Allowed) moveThenTransfer).replies :=
  nothingVanishes_of_run (.first _) tenUnits_atRest
    (Run.ofExecute (rfl : execute _ _ _ moveThenTransfer =
      some (endOf (Guarded Allowed) moveThenTransfer)))

/-- Both transfers read ten units in the first bin and leave four there, and both put six
into the second: the ten units have become sixteen. -/
theorem transfers_make_stock :
    Run (Interleaving.step (engine (.first _)) MoveRequest.program) (fun _ _ => True)
        ⟨tenUnits, fun _ => none, []⟩ twoTransfers (endOf (fun _ _ => True) twoTransfers) ∧
      (∀ txn ∈ [1, 2], (endOf (fun _ _ => True) twoTransfers).sessions txn = none) ∧
      totalIn tenUnits (ofItem 1) = 10 ∧
      totalIn (endOf (fun _ _ => True) twoTransfers).db (ofItem 1) = 16 ∧
      ¬ NothingVanishes tenUnits (endOf (fun _ _ => True) twoTransfers).db
        (endOf (fun _ _ => True) twoTransfers).replies := by
  refine ⟨Run.ofExecute rfl, ?_, by decide, by decide, fun hvanishes => ?_⟩
  · intro txn htxn
    fin_cases htxn <;> rfl
  · exact absurd (hvanishes.items 1) (by decide)

end SentryWms.Moving
