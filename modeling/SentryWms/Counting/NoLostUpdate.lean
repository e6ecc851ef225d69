import SentryWms.Counting.StockRequests

/-!
# No stock movement is lost

Requests move stock in statements that interleave. A row that is locked before it is read
cannot change under its reader; an approval does not lock, so what it writes is right only
if the row still holds what was read. Where that is so, nothing is cut off at zero and a
pick finds its units in the bin, the stock of every bin is the initial one plus what the
committed requests meant to move.
-/

namespace SentryWms.StockRequests

open Relational ReadCommitted Interleaving Transition Counting

/-! ## The property -/

def totalOnHand (db : Database) (itemId binId : ℕ) : ℤ :=
  committedTotal (onHandAt itemId binId) db.stock

def deltaAt (itemId binId : ℕ) (deltas : List (ℕ × ℕ × ℤ)) : ℤ :=
  (deltas.map fun delta =>
    if delta.1 = itemId ∧ delta.2.1 = binId then delta.2.2 else 0).sum

/-- What a reply says was moved. -/
def Reply.deltas : Reply → List (ℕ × ℕ × ℤ)
  | .refused _ => []
  | .done deltas => deltas

def repliedAt (itemId binId : ℕ) (replies : List Reply) : ℤ :=
  (replies.map fun reply => deltaAt itemId binId reply.deltas).sum

/-- Nothing is lost: the stock is the initial one plus the deltas of the committed
requests, and every event says what its approval made of the bin. -/
structure NothingLost (initial : ℕ → ℕ → ℤ) (db : Database) (replies : List Reply) :
    Prop where
  onHand : ∀ itemId binId,
    totalOnHand db itemId binId = initial itemId binId + repliedAt itemId binId replies
  events : ∀ entry ∈ db.outbox.entries,
    entry.2.ident.event.quantityDelta = entry.2.ident.made

/-! ## The condition -/

/-- The row still holds what was read, and the change does not take it below zero. -/
def stillReads (db : Database) (row : FiledAdjustment) (existing : StockRow) : Bool :=
  (db.stock.get? existing.1).any fun current =>
    current.ident == existing.2.1 &&
      current.version.latest.onHand == existing.2.2.onHand &&
      decide (0 ≤ existing.2.2.onHand + row.quantityChange)

/-- What the rows of a bin can give of a quantity to be picked. -/
def givenUp (db : Database) (itemId binId : ℕ) (keys : List ℕ) (picked : ℤ) : ℤ :=
  db.stock.total fun key row =>
    if keys.contains key && row.ident.inBin itemId binId then
      min row.version.latest.onHand picked
    else 0

/-- When an approval reads, there is a row, or nothing to take away; when it writes, the
row still holds what was read and does not fall below zero; and the rows of a bin give up
together what is picked from it. -/
def allows (db : Database) (txn : ℕ) : Statement → Bool
  | .readStock row =>
      !(stockRows db txn row.itemId row.binId none).isEmpty ||
        decide (0 ≤ row.quantityChange)
  | .applyChange row existing => stillReads db row existing
  | .decrement itemId binId keys picked _ =>
      givenUp db itemId binId keys picked == picked
  | _ => true

/-- The statements of a run meet the condition. -/
def Allowed (db : Database) (txn : ℕ) (statement : Statement) : Prop :=
  allows db txn statement = true

instance (db : Database) (txn : ℕ) (statement : Statement) :
    Decidable (Allowed db txn statement) :=
  inferInstanceAs (Decidable (_ = true))

/-! ## Where a session stands -/

/-- What a session holds, has changed, and has announced. -/
structure Standing where
  held : ℕ → Option (Place × Quantities)
  changed : ℕ → ℕ → ℤ
  accounted : ℕ → ℕ → ℤ

def standing (db : Database) (txn : ℕ) : Standing where
  held := held db.stock txn
  changed := fun itemId binId => changeTotal (onHandAt itemId binId) db.stock txn
  accounted := fun itemId binId => changeTotal (madeAt itemId binId) db.outbox txn

/-- The session has moved a quantity, and holds other rows. -/
def Standing.move (self : Standing) (held : ℕ → Option (Place × Quantities))
    (itemId binId : ℕ) (delta : ℤ) : Standing where
  held := held
  changed := fun itemId' binId' => self.changed itemId' binId' +
    if itemId = itemId' ∧ binId = binId' then delta else 0
  accounted := self.accounted

/-- The session has announced an event. -/
def Standing.account (self : Standing) (event : EmittedEvent) : Standing where
  held := self.held
  changed := self.changed
  accounted := fun itemId binId => self.accounted itemId binId +
    if event.itemId = itemId ∧ event.binId = binId then event.quantityDelta else 0

/-- What a session has to know before a statement so that an assertion holds after it. -/
def Before (self : Standing) :
    (statement : Statement) → (Answer statement → Standing → Prop) → Prop
  | .readStock row, post =>
      ∀ read : Option StockRow,
        (∀ found, read = some found → found.2.1.inBin row.itemId row.binId = true) →
        (read = none → 0 ≤ row.quantityChange) → post read self
  | .applyChange row existing, post =>
      existing.2.1.inBin row.itemId row.binId = true ∧
        ∀ held, post () (self.move held row.itemId row.binId row.quantityChange)
  | .lockRows itemId binId _, post =>
      ∀ held (answer : Option StockRow),
        (∀ found, answer = some found → held found.1 = some found.2 ∧
          found.2.1.inBin itemId binId = true) →
        post answer { self with held }
  | .setOnHand inventoryId quantity, post =>
      ∃ place quantities, self.held inventoryId = some (place, quantities) ∧
        ∀ held, post ()
          (self.move held place.itemId place.binId (quantity - quantities.onHand))
  | .addOnHand inventoryId quantity, post =>
      ∃ place quantities, self.held inventoryId = some (place, quantities) ∧
        ∀ held, post () (self.move held place.itemId place.binId quantity)
  | .insertStock place quantity, post =>
      ∀ held, post () (self.move held place.itemId place.binId quantity)
  | .decrement itemId binId _ picked _, post =>
      ∀ held, post () (self.move held itemId binId (-picked))
  | .emit event, post =>
      event.quantityDelta =
          self.changed event.itemId event.binId - self.accounted event.itemId event.binId ∧
        post () (self.account event)
  | _, post => ∀ answer, post answer self

/-- From where a session stands, its program commits exactly what it has changed, and
announces each change as it is. -/
def Balanced (self : Standing) : StockProgram → Prop
  | .reply true value => ∀ itemId binId,
      self.changed itemId binId = deltaAt itemId binId value.deltas
  | .reply false value => value.deltas = []
  | .exec statement next =>
      Before self statement fun answer after => Balanced after (next answer)

variable {fetchOne : FetchOne (Place × Quantities)} {db after : Database} {txn other : ℕ}

@[ext]
theorem Standing.ext {left right : Standing} (hheld : left.held = right.held)
    (hchanged : ∀ itemId binId, left.changed itemId binId = right.changed itemId binId)
    (haccounted : ∀ itemId binId, left.accounted itemId binId = right.accounted itemId binId) :
    left = right := by
  cases left
  cases right
  simp only [Standing.mk.injEq]
  exact ⟨hheld, funext₂ hchanged, funext₂ haccounted⟩

/-! ## Statements leave other sessions where they stand -/

theorem standing_congr (hstock : after.stock = db.stock) (houtbox : after.outbox = db.outbox) :
    standing after txn = standing db txn := by
  rw [standing, standing, hstock, houtbox]

variable {cond : ℕ → Place → Bool} {change : Quantities → Quantities}

theorem writeStock_spec (hwrite : writeStock db txn cond change = some after) :
    allFree db.stock txn cond = true ∧
      after = { db with stock := writeWhere db.stock txn cond change } := by
  rw [writeStock] at hwrite
  split at hwrite
  · next hfree => exact ⟨hfree, (Option.some.inj hwrite).symm⟩
  · cases hwrite

theorem writeStock_other (hwrite : writeStock db txn cond change = some after)
    (hother : other ≠ txn) :
    standing after other = standing db other := by
  obtain ⟨hfree, rfl⟩ := writeStock_spec hwrite
  apply Standing.ext
  · exact held_writeWhere_other hfree change hother
  · intro itemId binId
    exact changeTotal_writeWhere_other hfree change hother
  · intro itemId binId
    rfl

/-- A statement that writes neither stock nor events. -/
def Statement.reads : Statement → Bool
  | .applyChange _ _ | .lockRows _ _ _ | .setOnHand _ _ | .addOnHand _ _ | .insertStock _ _
  | .decrement _ _ _ _ _ | .emit _ => false
  | _ => true

variable {statement : Statement}

theorem perform_reads {result : Database × Answer statement} (hreads : statement.reads = true)
    (hperform : perform fetchOne db txn statement = some result) :
    result.1.stock = db.stock ∧ result.1.outbox = db.outbox := by
  cases statement with
  | lockAdjustment adjustmentId =>
      obtain ⟨adjustments, -, rfl⟩ := Option.map_eq_some_iff.mp hperform
      exact ⟨rfl, rfl⟩
  | setAdjustmentStatus adjustmentId status =>
      obtain ⟨adjustments, -, rfl⟩ := Option.map_eq_some_iff.mp hperform
      exact ⟨rfl, rfl⟩
  | markPicked pickTaskId quantityPicked =>
      obtain ⟨pickTasks, -, rfl⟩ := Option.map_eq_some_iff.mp hperform
      exact ⟨rfl, rfl⟩
  | advisoryLock itemId binId =>
      rw [perform] at hperform
      split at hperform
      · cases hperform
      · cases hperform
        exact ⟨rfl, rfl⟩
  | itemById itemId => cases hperform; exact ⟨rfl, rfl⟩
  | binInWarehouse binId warehouseId => cases hperform; exact ⟨rfl, rfl⟩
  | separationRequired => cases hperform; exact ⟨rfl, rfl⟩
  | insertAdjustment row status => cases hperform; exact ⟨rfl, rfl⟩
  | readStock row => cases hperform; exact ⟨rfl, rfl⟩
  | matchRows itemId binId lot => cases hperform; exact ⟨rfl, rfl⟩
  | taskById pickTaskId => cases hperform; exact ⟨rfl, rfl⟩
  | applyChange row existing => cases hreads
  | lockRows itemId binId keys => cases hreads
  | setOnHand inventoryId quantity => cases hreads
  | addOnHand inventoryId quantity => cases hreads
  | insertStock place quantity => cases hreads
  | decrement itemId binId keys picked allocated => cases hreads
  | emit event => cases hreads

theorem perform_other {result : Database × Answer statement}
    (hperform : perform fetchOne db txn statement = some result) (hother : other ≠ txn) :
    standing result.1 other = standing db other := by
  cases hreads : statement.reads with
  | true =>
      obtain ⟨hstock, houtbox⟩ := perform_reads hreads hperform
      exact standing_congr hstock houtbox
  | false =>
      cases statement with
      | applyChange row existing =>
          obtain ⟨written, hwrite, rfl⟩ := Option.map_eq_some_iff.mp hperform
          exact writeStock_other hwrite hother
      | lockRows itemId binId keys =>
          obtain ⟨written, hwrite, rfl⟩ := Option.map_eq_some_iff.mp hperform
          exact writeStock_other hwrite hother
      | setOnHand inventoryId quantity =>
          obtain ⟨written, hwrite, rfl⟩ := Option.map_eq_some_iff.mp hperform
          exact writeStock_other hwrite hother
      | addOnHand inventoryId quantity =>
          obtain ⟨written, hwrite, rfl⟩ := Option.map_eq_some_iff.mp hperform
          exact writeStock_other hwrite hother
      | decrement itemId binId keys picked allocated =>
          obtain ⟨written, hwrite, rfl⟩ := Option.map_eq_some_iff.mp hperform
          exact writeStock_other hwrite hother
      | insertStock place quantity =>
          cases hperform
          apply Standing.ext
          · exact held_insertRow_other hother _ _
          · intro itemId binId
            exact changeTotal_insertRow_other hother _ _
          · intro itemId binId
            rfl
      | emit event =>
          cases hperform
          apply Standing.ext
          · rfl
          · intro itemId binId
            rfl
          · intro itemId binId
            exact changeTotal_insertRow_other hother _ _
      | _ => cases hreads

theorem commit_other (hother : other ≠ txn) :
    standing ((engine fetchOne).commit db txn) other = standing db other := by
  apply Standing.ext
  · exact held_commitRows_other _ hother
  · intro itemId binId
    exact changeTotal_commitRows_other _ hother
  · intro itemId binId
    exact changeTotal_commitRows_other _ hother

theorem rollback_other (hother : other ≠ txn) :
    standing ((engine fetchOne).rollback db txn) other = standing db other := by
  apply Standing.ext
  · exact held_rollbackRows_other _ hother
  · intro itemId binId
    exact changeTotal_rollbackRows_other _ hother
  · intro itemId binId
    exact changeTotal_rollbackRows_other _ hother

/-! ## What a statement does to its own session -/

variable {itemId binId : ℕ}

theorem onHandAt_inBin {place : Place} (hplace : place.inBin itemId binId = true)
    (itemId' binId' : ℕ) (quantities : Quantities) :
    onHandAt itemId' binId' place quantities =
      if itemId = itemId' ∧ binId = binId' then quantities.onHand else 0 := by
  rw [Place.inBin, Bool.and_eq_true, beq_iff_eq, beq_iff_eq] at hplace
  simp [onHandAt, Place.inBin, hplace.1, hplace.2]

theorem inBin_self (place : Place) : place.inBin place.itemId place.binId = true := by
  simp [Place.inBin]

theorem writeStock_key {inventoryId : ℕ} {row : Row Place Quantities}
    (hrow : (inventoryId, row) ∈ db.stock.entries)
    (hwrite : writeStock db txn (fun key _ => key == inventoryId) change = some after)
    (hplace : row.ident.inBin itemId binId = true) {delta : ℤ}
    (hdelta : (change row.version.latest).onHand - row.version.latest.onHand = delta) :
    standing after txn =
      (standing db txn).move (held after.stock txn) itemId binId delta := by
  obtain ⟨hfree, rfl⟩ := writeStock_spec hwrite
  apply Standing.ext
  · rfl
  · intro itemId' binId'
    refine Eq.trans (changeTotal_writeWhere hfree change) ?_
    refine congrArg (changeTotal (onHandAt itemId' binId') db.stock txn + ·) ?_
    rw [total_key hrow fun row =>
      onHandAt itemId' binId' row.ident (change row.version.latest) -
        onHandAt itemId' binId' row.ident row.version.latest,
      onHandAt_inBin hplace, onHandAt_inBin hplace, ← hdelta]
    split
    · rfl
    · rfl
  · intro itemId' binId'
    rfl

theorem fetch_lockRows {keys : List ℕ} {found : StockRow}
    (hwrite : writeStock db txn (fun key place => keys.contains key && place.inBin itemId binId) id = some after)
    (hfetch : fetchOne.fetch ((stockRows after txn itemId binId none).filter fun row => keys.contains row.1) = some found) :
    held after.stock txn found.1 = some found.2 ∧ found.2.1.inBin itemId binId = true := by
  obtain ⟨hmem, hkey⟩ := List.mem_filter.mp (fetchOne.mem hfetch)
  obtain ⟨hseen, hcond⟩ := List.mem_filter.mp hmem
  rw [Bool.and_eq_true] at hcond
  obtain ⟨⟨key, row⟩, hrow, hview⟩ := List.mem_filterMap.mp hseen
  obtain ⟨value, hvalue, rfl⟩ := Option.map_eq_some_iff.mp hview
  refine ⟨?_, hcond.1⟩
  obtain ⟨hfree, rfl⟩ := writeStock_spec hwrite
  obtain ⟨before, hbefore, hafter⟩ := (Table.mem_mapRows _).mp hrow
  have hselected : (keys.contains key && before.ident.inBin itemId binId) = true := by
    rw [Bool.and_eq_true]
    refine ⟨hkey, ?_⟩
    have hident : row.ident = before.ident := by
      rw [← hafter]
      split <;> rfl
    rw [← hident]
    exact hcond.1
  rw [if_pos hselected] at hafter
  dsimp only
  rw [held_writeWhere hbefore hselected, ← hafter]
  rw [← hafter] at hvalue
  cases hversion : before.version with
  | stable latest =>
      rw [hversion] at hvalue
      simp only [Version.write, Version.view, if_true, Option.some.injEq] at hvalue
      rw [← hvalue]
  | written writer committed latest =>
      rw [hversion] at hvalue
      simp only [Version.write, Version.view, if_true, Option.some.injEq] at hvalue
      rw [← hvalue]

theorem standing_lockRows (hwrite : writeStock db txn cond id = some after) :
    standing after txn = { standing db txn with held := held after.stock txn } := by
  obtain ⟨hfree, rfl⟩ := writeStock_spec hwrite
  apply Standing.ext
  · rfl
  · intro itemId binId
    refine Eq.trans (changeTotal_writeWhere hfree id) ?_
    have hzero : (db.stock.total fun key row => if cond key row.ident then
        onHandAt itemId binId row.ident (id row.version.latest) -
          onHandAt itemId binId row.ident row.version.latest else 0) = 0 :=
      db.stock.total_eq_zero fun key row _ => by simp
    rw [hzero, add_zero]
    rfl
  · intro itemId binId
    rfl

theorem standing_decrement {keys : List ℕ} {picked allocated : ℤ}
    (hgiven : givenUp db itemId binId keys picked = picked)
    (hwrite : writeStock db txn (fun key place => keys.contains key && place.inBin itemId binId) (fun quantities => ⟨max 0 (quantities.onHand - picked), max 0 (quantities.allocated - allocated)⟩) = some after) :
    standing after txn =
      (standing db txn).move (held after.stock txn) itemId binId (-picked) := by
  obtain ⟨hfree, rfl⟩ := writeStock_spec hwrite
  apply Standing.ext
  · rfl
  · intro itemId' binId'
    refine Eq.trans (changeTotal_writeWhere hfree _) ?_
    refine congrArg (changeTotal (onHandAt itemId' binId') db.stock txn + ·) ?_
    by_cases hsame : itemId = itemId' ∧ binId = binId'
    · have hnegate : -picked = db.stock.total fun key row => -1 *
          if (keys.contains key && row.ident.inBin itemId binId) = true then
            min row.version.latest.onHand picked else 0 := by
        rw [← Table.mul_total, neg_one_mul]
        exact congrArg Neg.neg hgiven.symm
      rw [if_pos hsame, hnegate]
      apply Table.total_congr
      intro key row _
      split
      · next hcond =>
          have hplace := (Bool.and_eq_true _ _ ▸ hcond).2
          rw [onHandAt_inBin hplace, onHandAt_inBin hplace, if_pos hsame, if_pos hsame,
            neg_one_mul]
          dsimp only
          omega
      · ring
    · rw [if_neg hsame]
      apply Table.total_eq_zero
      intro key row _
      split
      · next hcond =>
          have hplace := (Bool.and_eq_true _ _ ▸ hcond).2
          rw [onHandAt_inBin hplace, onHandAt_inBin hplace, if_neg hsame, if_neg hsame]
          rfl
      · rfl
  · intro itemId' binId'
    rfl

theorem perform_before {result : Database × Answer statement}
    {post : Answer statement → Standing → Prop} (hallowed : Allowed db txn statement)
    (hbefore : Before (standing db txn) statement post)
    (hperform : perform fetchOne db txn statement = some result) :
    post result.2 (standing result.1 txn) := by
  cases statement with
  | readStock row =>
      cases hperform
      apply hbefore
      · intro found hfetch
        have hmem := (List.mem_filter.mp (fetchOne.mem hfetch)).2
        exact (Bool.and_eq_true _ _ ▸ hmem).1
      · intro hnone
        rw [Allowed, allows, Bool.or_eq_true, decide_eq_true_eq] at hallowed
        refine hallowed.resolve_left fun hrows => ?_
        have hread : fetchOne.fetch (stockRows db txn row.itemId row.binId none) = none := hnone
        have hsome := fetchOne.isSome (List.isEmpty_eq_false_iff.mp (by simpa using hrows))
        rw [hread] at hsome
        cases hsome
  | applyChange row existing =>
      obtain ⟨written, hwrite, rfl⟩ := Option.map_eq_some_iff.mp hperform
      rw [Allowed, allows, stillReads, Option.any_eq_true] at hallowed
      obtain ⟨current, hget, hreads⟩ := hallowed
      simp only [Bool.and_eq_true, beq_iff_eq, decide_eq_true_eq] at hreads
      obtain ⟨⟨hident, honHand⟩, hnonneg⟩ := hreads
      have hplace : current.ident.inBin row.itemId row.binId = true := by
        rw [hident]
        exact hbefore.1
      have hdelta : max 0 (existing.2.2.onHand + row.quantityChange) -
          current.version.latest.onHand = row.quantityChange := by
        rw [honHand, max_eq_right hnonneg]
        ring
      rw [writeStock_key (db.stock.get?_eq_some.mp hget) hwrite hplace hdelta]
      exact hbefore.2 _
  | lockRows itemId binId keys =>
      obtain ⟨written, hwrite, rfl⟩ := Option.map_eq_some_iff.mp hperform
      rw [standing_lockRows hwrite]
      exact hbefore _ _ fun found hfetch => fetch_lockRows hwrite hfetch
  | setOnHand inventoryId quantity =>
      obtain ⟨written, hwrite, rfl⟩ := Option.map_eq_some_iff.mp hperform
      obtain ⟨place, quantities, hheld, hafter⟩ := hbefore
      obtain ⟨row, hrow, hident, hlatest, -⟩ := mem_of_held hheld
      have hplace : row.ident.inBin place.itemId place.binId = true := by
        rw [hident]
        exact inBin_self place
      rw [writeStock_key hrow hwrite hplace rfl, hlatest]
      exact hafter _
  | addOnHand inventoryId quantity =>
      obtain ⟨written, hwrite, rfl⟩ := Option.map_eq_some_iff.mp hperform
      obtain ⟨place, quantities, hheld, hafter⟩ := hbefore
      obtain ⟨row, hrow, hident, hlatest, -⟩ := mem_of_held hheld
      have hplace : row.ident.inBin place.itemId place.binId = true := by
        rw [hident]
        exact inBin_self place
      have hdelta : row.version.latest.onHand + quantity - row.version.latest.onHand =
          quantity := by ring
      rw [writeStock_key hrow hwrite hplace hdelta]
      exact hafter _
  | insertStock place quantity =>
      cases hperform
      have hmoved : standing { db with stock := insertRow db.stock txn place ⟨quantity, 0⟩ } txn =
          (standing db txn).move
            (held (insertRow db.stock txn place ⟨quantity, 0⟩) txn)
            place.itemId place.binId quantity := by
        apply Standing.ext
        · rfl
        · intro itemId binId
          refine Eq.trans (changeTotal_insertRow _ _) ?_
          rw [onHandAt_inBin (inBin_self place)]
          rfl
        · intro itemId binId
          rfl
      rw [hmoved]
      exact hbefore _
  | decrement itemId binId keys picked allocated =>
      obtain ⟨written, hwrite, rfl⟩ := Option.map_eq_some_iff.mp hperform
      rw [standing_decrement (beq_iff_eq.mp hallowed) hwrite]
      exact hbefore _
  | emit event =>
      cases hperform
      obtain ⟨hdelta, hafter⟩ := hbefore
      have haccounted : standing { db with
          outbox := insertRow db.outbox txn
            ⟨event, changeTotal (onHandAt event.itemId event.binId) db.stock txn -
              changeTotal (madeAt event.itemId event.binId) db.outbox txn⟩ () } txn =
          (standing db txn).account event := by
        apply Standing.ext
        · rfl
        · intro itemId binId
          rfl
        · intro itemId binId
          refine Eq.trans (changeTotal_insertRow _ _) ?_
          rw [madeAt]
          dsimp only
          rw [Standing.account, hdelta]
          rfl
      rw [haccounted]
      exact hafter
  | itemById itemId => cases hperform; exact hbefore _
  | binInWarehouse binId warehouseId => cases hperform; exact hbefore _
  | separationRequired => cases hperform; exact hbefore _
  | matchRows itemId binId lot => cases hperform; exact hbefore _
  | taskById pickTaskId => cases hperform; exact hbefore _
  | insertAdjustment row status => cases hperform; exact hbefore _
  | lockAdjustment adjustmentId =>
      obtain ⟨adjustments, -, rfl⟩ := Option.map_eq_some_iff.mp hperform
      exact hbefore _
  | setAdjustmentStatus adjustmentId status =>
      obtain ⟨adjustments, -, rfl⟩ := Option.map_eq_some_iff.mp hperform
      exact hbefore _
  | markPicked pickTaskId quantityPicked =>
      obtain ⟨pickTasks, -, rfl⟩ := Option.map_eq_some_iff.mp hperform
      exact hbefore _
  | advisoryLock itemId binId =>
      rw [perform] at hperform
      split at hperform
      · cases hperform
      · cases hperform
        exact hbefore _

/-! ## The requests are balanced -/

variable {self : Standing} {next : StockProgram}

theorem forUpdate_balanced {lot : Option (Option String)}
    {next : Option StockRow → StockProgram}
    (hnext : ∀ held (answer : Option StockRow), (∀ found, answer = some found → held found.1 = some found.2 ∧ found.2.1.inBin itemId binId = true) → Balanced { self with held } (next answer)) :
    Balanced self (forUpdate itemId binId lot next) :=
  fun _ held answer hanswer => hnext held answer hanswer

theorem move_of_inBin {place : Place} (hplace : place.inBin itemId binId = true)
    (held : ℕ → Option (Place × Quantities)) (delta : ℤ) :
    self.move held place.itemId place.binId delta = self.move held itemId binId delta := by
  rw [Place.inBin, Bool.and_eq_true, beq_iff_eq, beq_iff_eq] at hplace
  rw [hplace.1, hplace.2]

theorem addInventory_balanced {warehouseId : ℕ} {quantity : ℤ} {lotNumber : Option String}
    (hnext : ∀ held, Balanced (self.move held itemId binId quantity) next) :
    Balanced self (addInventory itemId binId warehouseId quantity lotNumber next) := by
  intro _
  apply forUpdate_balanced
  intro held answer hanswer
  cases answer with
  | some existing =>
      obtain ⟨hheld, hplace⟩ := hanswer existing rfl
      refine ⟨existing.2.1, existing.2.2, hheld, fun held => ?_⟩
      rw [move_of_inBin hplace]
      exact hnext held
  | none => exact fun held => hnext held

variable {row : FiledAdjustment}

theorem settleAdjustment_balanced {adjustmentId : ℕ}
    (hdelta : row.quantityChange = self.changed row.itemId row.binId - self.accounted row.itemId row.binId)
    (hnext : Balanced (self.account ⟨adjustmentId, row.itemId, row.binId, row.quantityChange, row.cycleCountId.isSome⟩) next) :
    Balanced self (settleAdjustment adjustmentId row next) :=
  fun _ => ⟨hdelta, hnext⟩

theorem approveAdjustment_balanced {adjustmentId : ℕ}
    (haccounted : self.accounted row.itemId row.binId = self.changed row.itemId row.binId)
    (hnext : ∀ held, Balanced ((self.move held row.itemId row.binId row.quantityChange).account ⟨adjustmentId, row.itemId, row.binId, row.quantityChange, row.cycleCountId.isSome⟩) next) :
    Balanced self (approveAdjustment adjustmentId row next) := by
  have hmoved : ∀ held,
      Balanced (self.move held row.itemId row.binId row.quantityChange)
        (settleAdjustment adjustmentId row next) := by
    intro held
    apply settleAdjustment_balanced _ (hnext held)
    simp [Standing.move, haccounted]
  intro read hplace hnone
  cases read with
  | some existing => exact ⟨hplace existing rfl, fun held => hmoved held⟩
  | none =>
      change Balanced self (if 0 < row.quantityChange then _ else _)
      split
      · exact fun held => hmoved held
      · next hpos =>
          have hzero : row.quantityChange = 0 := le_antisymm (not_lt.mp hpos) (hnone rfl)
          have hsame : self.move self.held row.itemId row.binId row.quantityChange = self := by
            apply Standing.ext
            · rfl
            · intro itemId binId
              simp [Standing.move, hzero]
            · intro itemId binId
              rfl
          have hstill := hmoved self.held
          rw [hsame] at hstill
          exact hstill

theorem deltaAt_append (itemId binId : ℕ) (left right : List (ℕ × ℕ × ℤ)) :
    deltaAt itemId binId (left ++ right) =
      deltaAt itemId binId left + deltaAt itemId binId right := by
  rw [deltaAt, List.map_append, List.sum_append]
  rfl

theorem deltaAt_single (itemId binId itemId' binId' : ℕ) (delta : ℤ) :
    deltaAt itemId' binId' [(itemId, binId, delta)] =
      if itemId = itemId' ∧ binId = binId' then delta else 0 := by
  simp [deltaAt]

theorem reviewAdjustments_balanced (reviewer : String) (decisions : List AdjustmentDecision)
    {deltas : List (ℕ × ℕ × ℤ)}
    (hchanged : ∀ itemId binId, self.changed itemId binId = deltaAt itemId binId deltas)
    (haccounted : ∀ itemId binId,
      self.accounted itemId binId = self.changed itemId binId) :
    Balanced self (reviewAdjustments reviewer decisions deltas) := by
  induction decisions generalizing self deltas with
  | nil => exact hchanged
  | cons decision rest ih =>
      intro row
      cases row with
      | none => exact ih hchanged haccounted
      | some row =>
          obtain ⟨row, status⟩ := row
          have happrove : Balanced self (approveAdjustment decision.adjustmentId row
              (reviewAdjustments reviewer rest
                (deltas ++ [(row.itemId, row.binId, row.quantityChange)]))) := by
            apply approveAdjustment_balanced (haccounted _ _)
            intro held
            apply ih
            · intro itemId binId
              rw [deltaAt_append, deltaAt_single, ← hchanged]
              rfl
            · intro itemId binId
              simp only [Standing.move, Standing.account, haccounted]
          change Balanced self (if status ≠ .pending then _ else _)
          split
          · exact ih hchanged haccounted
          · split
            · exact fun _ => ih hchanged haccounted
            · dsimp only
              split
              · intro required
                cases required with
                | true => exact rfl
                | false => exact happrove
              · exact happrove

theorem recordAdjustment_balanced
    (hchanged : ∀ itemId binId, self.changed itemId binId = if row.itemId = itemId ∧ row.binId = binId then row.quantityChange else 0)
    (haccounted : ∀ itemId binId, self.accounted itemId binId = 0) :
    Balanced self (recordAdjustment row) := by
  intro adjustmentId
  refine ⟨?_, ?_⟩
  · rw [hchanged, haccounted, if_pos ⟨rfl, rfl⟩, sub_zero]
  · intro itemId binId
    refine Eq.trans (hchanged itemId binId) ?_
    exact (deltaAt_single _ _ _ _ _).symm

variable (hchanged : ∀ itemId binId, self.changed itemId binId = 0)
  (haccounted : ∀ itemId binId, self.accounted itemId binId = 0)

include hchanged

theorem confirmPick_balanced (pickTaskId : ℕ) (scannedBarcode : String)
    (quantityPicked : ℤ) :
    Balanced self (confirmPick pickTaskId scannedBarcode quantityPicked) := by
  intro task
  cases task with
  | none => exact rfl
  | some task =>
      obtain ⟨task, progress⟩ := task
      change Balanced self (if progress.status ≠ .pending then _ else _)
      split
      · exact rfl
      · split
        · exact rfl
        · intro item
          change Balanced self
            (if !Option.any (barcodeMatches scannedBarcode) item then _ else _)
          split
          · exact rfl
          · intro _
            change Balanced self (if task.transfer then _ else _)
            split
            · exact hchanged
            · intro _ held itemId binId
              rw [Reply.deltas, deltaAt_single]
              simp only [Standing.move, hchanged, zero_add]

theorem moveInventory_balanced (itemId fromBinId toBinId warehouseId : ℕ) (quantity : ℤ)
    (lotNumber : Option String) :
    Balanced self
      (moveInventory itemId fromBinId toBinId warehouseId quantity lotNumber) := by
  apply forUpdate_balanced
  intro held answer hanswer
  cases answer with
  | none => exact rfl
  | some source =>
      obtain ⟨inventoryId, place, quantities⟩ := source
      obtain ⟨hheld, hplace⟩ := hanswer _ rfl
      change Balanced _ (if quantities.onHand < quantity then _ else _)
      split
      · exact rfl
      · refine ⟨place, quantities, hheld, fun held => ?_⟩
        rw [move_of_inBin hplace]
        apply addInventory_balanced
        intro held itemId' binId'
        simp only [Standing.move, hchanged, zero_add, Reply.deltas, deltaAt, List.map_cons,
          List.map_nil, List.sum_cons, List.sum_nil, add_zero]
        congr 1
        split
        · ring
        · rfl

include haccounted

theorem directAdjustment_balanced (itemId binId warehouseId : ℕ) (adds : Bool)
    (quantity : ℤ) (username : String) :
    Balanced self
      (directAdjustment itemId binId warehouseId adds quantity username) := by
  intro item
  cases item with
  | none => exact rfl
  | some item =>
      intro found
      change Balanced self (if !found then _ else _)
      split
      · exact rfl
      · split
        · apply addInventory_balanced
          intro held
          apply recordAdjustment_balanced
          · intro itemId' binId'
            change self.changed itemId' binId' +
                (if itemId = itemId' ∧ binId = binId' then quantity else 0) =
              if itemId = itemId' ∧ binId = binId' then quantity else 0
            rw [hchanged, zero_add]
          · exact haccounted
        · apply forUpdate_balanced
          intro held answer hanswer
          cases answer with
          | none => exact rfl
          | some inv =>
              obtain ⟨inventoryId, place, quantities⟩ := inv
              obtain ⟨hheld, hplace⟩ := hanswer _ rfl
              change Balanced _ (if quantities.onHand < quantity then _ else _)
              split
              · exact rfl
              · refine ⟨place, quantities, hheld, fun held => ?_⟩
                rw [move_of_inBin hplace]
                apply recordAdjustment_balanced
                · intro itemId' binId'
                  change self.changed itemId' binId' +
                      (if itemId = itemId' ∧ binId = binId' then
                        quantities.onHand - quantity - quantities.onHand else 0) =
                    if itemId = itemId' ∧ binId = binId' then -quantity else 0
                  rw [hchanged, zero_add, sub_sub_cancel_left]
                · exact haccounted

theorem program_balanced (request : StockRequest) : Balanced self request.program := by
  cases request with
  | review reviewer decisions =>
      apply reviewAdjustments_balanced
      · intro itemId binId
        exact hchanged itemId binId
      · intro itemId binId
        rw [haccounted, hchanged]
  | direct itemId binId warehouseId adds quantity username =>
      exact directAdjustment_balanced hchanged haccounted _ _ _ _ _ _
  | pick pickTaskId scannedBarcode quantityPicked =>
      exact confirmPick_balanced hchanged _ _ _
  | move itemId fromBinId toBinId warehouseId quantity lotNumber =>
      exact moveInventory_balanced hchanged _ _ _ _ _ _

omit hchanged haccounted

/-! ## Nothing is lost -/

theorem mem_outbox_rollback {entry : ℕ × Row OutboxRow Unit}
    (hentry : entry ∈ (rollbackRows db.outbox txn).entries) :
    ∃ before ∈ db.outbox.entries, before.2.ident = entry.2.ident := by
  obtain ⟨before, hbefore, hrow⟩ := (Table.mem_mapRows _).mp hentry
  obtain ⟨hmem, -⟩ := (Table.mem_deleteWhere _).mp hbefore
  exact ⟨_, hmem, by rw [← hrow]⟩

theorem mem_outbox_commit {entry : ℕ × Row OutboxRow Unit}
    (hentry : entry ∈ (commitRows db.outbox txn).entries) :
    ∃ before ∈ db.outbox.entries, before.2.ident = entry.2.ident := by
  obtain ⟨before, hbefore, hrow⟩ := (Table.mem_mapRows _).mp hentry
  exact ⟨_, hbefore, by rw [← hrow]⟩

theorem repliedAt_append (itemId binId : ℕ) (replies : List Reply) (reply : Reply) :
    repliedAt itemId binId (replies ++ [reply]) =
      repliedAt itemId binId replies + deltaAt itemId binId reply.deltas := by
  simp [repliedAt]

variable {initial : ℕ → ℕ → ℤ} {replies : List Reply}

theorem NothingLost.rollback (hlost : NothingLost initial db replies) (txn : ℕ) :
    NothingLost initial ((engine fetchOne).rollback db txn) replies where
  onHand := by
    intro itemId binId
    rw [← hlost.onHand]
    exact committedTotal_rollbackRows _ _
  events := by
    intro entry hentry
    obtain ⟨before, hbefore, hident⟩ := mem_outbox_rollback hentry
    rw [← hident]
    exact hlost.events before hbefore

theorem NothingLost.commit (hlost : NothingLost initial db replies) {value : Reply}
    (hbalanced : ∀ itemId binId, (standing db txn).changed itemId binId =
      deltaAt itemId binId value.deltas) :
    NothingLost initial ((engine fetchOne).commit db txn) (replies ++ [value]) where
  onHand := by
    intro itemId binId
    rw [repliedAt_append, ← add_assoc, ← hlost.onHand, ← hbalanced]
    exact committedTotal_commitRows _ _
  events := by
    intro entry hentry
    obtain ⟨before, hbefore, hident⟩ := mem_outbox_commit hentry
    rw [← hident]
    exact hlost.events before hbefore

theorem NothingLost.writeStock (hlost : NothingLost initial db replies)
    (hwrite : writeStock db txn cond change = some after) :
    NothingLost initial after replies := by
  obtain ⟨-, rfl⟩ := writeStock_spec hwrite
  constructor
  · intro itemId binId
    rw [← hlost.onHand]
    exact committedTotal_writeWhere change
  · exact hlost.events

theorem NothingLost.perform {result : Database × Answer statement}
    {post : Answer statement → Standing → Prop} (hlost : NothingLost initial db replies)
    (hbefore : Before (standing db txn) statement post)
    (hperform : perform fetchOne db txn statement = some result) :
    NothingLost initial result.1 replies := by
  cases hreads : statement.reads with
  | true =>
      obtain ⟨hstock, houtbox⟩ := perform_reads hreads hperform
      constructor
      · intro itemId binId
        rw [← hlost.onHand, totalOnHand, hstock]
        rfl
      · rw [houtbox]
        exact hlost.events
  | false =>
      cases statement with
      | applyChange row existing =>
          obtain ⟨written, hwrite, rfl⟩ := Option.map_eq_some_iff.mp hperform
          exact hlost.writeStock hwrite
      | lockRows itemId binId keys =>
          obtain ⟨written, hwrite, rfl⟩ := Option.map_eq_some_iff.mp hperform
          exact hlost.writeStock hwrite
      | setOnHand inventoryId quantity =>
          obtain ⟨written, hwrite, rfl⟩ := Option.map_eq_some_iff.mp hperform
          exact hlost.writeStock hwrite
      | addOnHand inventoryId quantity =>
          obtain ⟨written, hwrite, rfl⟩ := Option.map_eq_some_iff.mp hperform
          exact hlost.writeStock hwrite
      | decrement itemId binId keys picked allocated =>
          obtain ⟨written, hwrite, rfl⟩ := Option.map_eq_some_iff.mp hperform
          exact hlost.writeStock hwrite
      | insertStock place quantity =>
          cases hperform
          constructor
          · intro itemId binId
            rw [← hlost.onHand]
            exact committedTotal_insertRow _ _
          · exact hlost.events
      | emit event =>
          cases hperform
          constructor
          · exact hlost.onHand
          · intro entry hentry
            cases (Table.mem_insert _).mp hentry with
            | inl hold => exact hlost.events entry hold
            | inr hnew =>
                rw [hnew]
                exact hbefore.1
      | _ => cases hreads

theorem undisturbed (fetchOne : FetchOne (Place × Quantities)) (initial : ℕ → ℕ → ℤ) :
    Undisturbed (engine fetchOne) StockRequest.program Allowed (NothingLost initial)
      (fun db txn program => Balanced (standing db txn) program)
      (fun db txn => ∀ itemId binId, (standing db txn).changed itemId binId = 0 ∧
        (standing db txn).accounted itemId binId = 0) where
  begins := fun hidle request =>
    program_balanced (fun itemId binId => (hidle itemId binId).1)
      (fun itemId binId => (hidle itemId binId).2) request
  performs := fun hlost hbalanced hallowed hperform =>
    ⟨hlost.perform hbalanced hperform, perform_before hallowed hbalanced hperform⟩
  commits := fun hlost hbalanced => ⟨hlost.commit hbalanced, fun _ _ =>
    ⟨changeTotal_commitRows _ _, changeTotal_commitRows _ _⟩⟩
  refuses := by
    intro db replies txn value hlost hbalanced
    have hrolled : NothingLost initial ((engine fetchOne).rollback db txn) replies :=
      hlost.rollback txn
    refine ⟨fun itemId binId => ?_, hrolled.events⟩
    have hnone : value.deltas = [] := hbalanced
    have hzero : deltaAt itemId binId value.deltas = 0 := by
      rw [hnone]
      rfl
    rw [repliedAt_append, hzero, hrolled.onHand, add_zero]
  rollsBack := fun hlost txn => ⟨hlost.rollback txn, fun _ _ =>
    ⟨changeTotal_rollbackRows _ _, changeTotal_rollbackRows _ _⟩⟩
  owns_others := by
    intro db txn other program hbalanced hother
    refine ⟨fun hperform => ?_, ?_, ?_⟩
    · rw [perform_other hperform hother]
      exact hbalanced
    · rw [commit_other hother]
      exact hbalanced
    · rw [rollback_other hother]
      exact hbalanced
  idle_others := by
    intro db txn other hidle hother
    refine ⟨fun hperform => ?_, ?_, ?_⟩
    · rw [perform_other hperform hother]
      exact hidle
    · rw [commit_other hother]
      exact hidle
    · rw [rollback_other hother]
      exact hidle

/-- No transaction is open, and no event is in the outbox yet. -/
structure AtRest (db : Database) : Prop where
  stock : ∀ entry ∈ db.stock.entries, ∃ quantities, entry.2.version = .stable quantities
  outbox : db.outbox.entries = []

theorem AtRest.idle (hrest : AtRest db) (txn itemId binId : ℕ) :
    (standing db txn).changed itemId binId = 0 ∧
      (standing db txn).accounted itemId binId = 0 := by
  have hchanged : changeTotal (onHandAt itemId binId) db.stock txn = 0 := by
    apply Table.total_eq_zero
    intro key row hrow
    obtain ⟨quantities, hstable⟩ := hrest.stock _ hrow
    have hversion : row.version = .stable quantities := hstable
    rw [hversion]
    rfl
  have haccounted : changeTotal (madeAt itemId binId) db.outbox txn = 0 := by
    apply Table.total_eq_zero
    intro key row hrow
    rw [hrest.outbox] at hrow
    cases hrow
  exact ⟨hchanged, haccounted⟩

/-- In every run whose statements meet the condition, in every state it reaches, the stock
of every bin is the initial one plus the deltas of the committed requests, and every
event carries the change its approval made. -/
theorem nothingLost_of_run (fetchOne : FetchOne (Place × Quantities)) {db : Database}
    {acts : List (Act StockRequest)} {after : StockSystem} (hrest : AtRest db)
    (hrun : Run (Interleaving.step (engine fetchOne) StockRequest.program) (Guarded Allowed)
      ⟨db, fun _ => none, []⟩ acts after) :
    NothingLost (totalOnHand db) after.db after.replies := by
  have hstart : Holds (NothingLost (totalOnHand db))
      (fun db txn program => Balanced (standing db txn) program)
      (fun db txn => ∀ itemId binId, (standing db txn).changed itemId binId = 0 ∧
        (standing db txn).accounted itemId binId = 0)
      (⟨db, fun _ => none, []⟩ : StockSystem) := by
    refine ⟨⟨?_, ?_⟩, nofun, fun txn _ => hrest.idle txn⟩
    · intro itemId binId
      simp [repliedAt]
    · intro entry hentry
      rw [hrest.outbox] at hentry
      cases hentry
  exact (run_holds (undisturbed fetchOne (totalOnHand db)) hstart hrun).inv

/-! ## An addition between the reading and the writing -/

def tenUnits : Database where
  items := .ofRows [⟨"SKU-1", none, [], true, none⟩]
  bins := .ofRows [⟨1, "A-1", .pickable, 1, true⟩]
  appSettings := []
  stock := ofCommitted [(⟨1, 1, 1, none⟩, ⟨10, 0⟩)]
  adjustments := ofCommitted [(⟨1, 1, 1, 5, "FOUND", "ana", none⟩, .pending)]
  pickTasks := .empty
  outbox := .empty
  advisoryLocks := []

def approval : StockRequest := .review "bob" [⟨1, true⟩]

/-- Three more units. -/
def addition : StockRequest := .direct 1 1 1 true 3 "ana"

def oneAfterAnother : List (Act StockRequest) :=
  .start 1 approval :: List.replicate 6 (.advance 1) ++
    .start 2 addition :: List.replicate 9 (.advance 2)

/-- The addition, once the approval has read the row. -/
def oneInTheOther : List (Act StockRequest) :=
  .start 1 approval :: List.replicate 2 (.advance 1) ++
    .start 2 addition :: List.replicate 9 (.advance 2) ++ List.replicate 4 (.advance 1)

def endOf (guard : StockSystem → Act StockRequest → Prop)
    [∀ system act, Decidable (guard system act)] (acts : List (Act StockRequest)) :
    StockSystem :=
  (execute (Interleaving.step (engine (.first _)) StockRequest.program) guard
    ⟨tenUnits, fun _ => none, []⟩ acts).getD ⟨tenUnits, fun _ => none, []⟩

theorem tenUnits_atRest : AtRest tenUnits where
  stock := by
    intro entry hentry
    rw [List.mem_singleton.mp (show entry ∈ [(1, ⟨⟨1, 1, 1, none⟩, .stable ⟨10, 0⟩⟩)] from hentry)]
    exact ⟨_, rfl⟩
  outbox := rfl

theorem nothingLost_oneAfterAnother :
    NothingLost (totalOnHand tenUnits) (endOf (Guarded Allowed) oneAfterAnother).db
      (endOf (Guarded Allowed) oneAfterAnother).replies :=
  nothingLost_of_run (.first _) tenUnits_atRest
    (Run.ofExecute (rfl : execute _ _ _ oneAfterAnother =
      some (endOf (Guarded Allowed) oneAfterAnother)))

/-- The approval writes fifteen over the thirteen units that are there: of the eight that
were added, five are left, and its event says five where it made two. -/
theorem approval_loses_addition :
    Run (Interleaving.step (engine (.first _)) StockRequest.program) (fun _ _ => True)
        ⟨tenUnits, fun _ => none, []⟩ oneInTheOther
        (endOf (fun _ _ => True) oneInTheOther) ∧
      (∀ txn ∈ [1, 2], (endOf (fun _ _ => True) oneInTheOther).sessions txn = none) ∧
      totalOnHand tenUnits 1 1 = 10 ∧
      repliedAt 1 1 (endOf (fun _ _ => True) oneInTheOther).replies = 8 ∧
      totalOnHand (endOf (fun _ _ => True) oneInTheOther).db 1 1 = 15 ∧
      ∃ entry ∈ (endOf (fun _ _ => True) oneInTheOther).db.outbox.entries,
        entry.2.ident.event.quantityDelta = 5 ∧ entry.2.ident.made = 2 := by
  refine ⟨Run.ofExecute rfl, ?_, by decide, by decide, by decide, by decide⟩
  intro txn htxn
  fin_cases htxn <;> rfl

end SentryWms.StockRequests
