import SentryWms.Core.ReadCommitted
import SentryWms.Core.Session
import SentryWms.Counting.CycleCount
import SentryWms.Picking.Task

/-!
# Stock movements, statement by statement

`review_adjustments`, `direct_adjustment`, `confirm_pick` and `move_inventory` as the SQL
statements they execute, with the locks these take. A statement that selects several rows
first decides which ones from what is committed, and then waits for them. The columns
that identify a row never change, so that the check after the wait finds the same rows.
-/

namespace SentryWms.StockRequests

open Relational ReadCommitted Interleaving Counting

/-! ## The tables -/

/-- The columns of `inventory` that never change. -/
structure Place where
  itemId : ℕ
  binId : ℕ
  warehouseId : ℕ
  lotNumber : Option String
deriving DecidableEq

/-- The columns of `inventory` that are written. -/
structure Quantities where
  onHand : ℤ
  allocated : ℤ
deriving DecidableEq

/-- A row of `inventory` as a statement returns it. -/
abbrev StockRow := ℕ × Place × Quantities

/-- The columns of `inventory_adjustments` but for the status. -/
structure FiledAdjustment where
  itemId : ℕ
  binId : ℕ
  warehouseId : ℕ
  quantityChange : ℤ
  reasonCode : String
  adjustedBy : String
  cycleCountId : Option ℕ

/-- The columns of `pick_tasks` that a confirmation reads but does not write. -/
structure TaskColumns where
  itemId : ℕ
  binId : ℕ
  quantityToPick : ℤ
  transfer : Bool

/-- The columns of `pick_tasks` that it writes. -/
structure TaskProgress where
  status : TaskStatus
  quantityPicked : ℤ

/-- An event of an adjustment. The approval of a count's adjustment writes it as
`cycle_count.adjusted` and as `inventoryadjusted.completed`. -/
structure EmittedEvent where
  adjustmentId : ℕ
  itemId : ℕ
  binId : ℕ
  quantityDelta : ℤ
  cycleCount : Bool

/-- An event in the outbox. What the approval has made of the bin is not in the payload:
it is recorded here to be compared with it. -/
structure OutboxRow where
  event : EmittedEvent
  made : ℤ

/-- The tables the requests read and write, and the advisory locks. -/
structure Database where
  items : Table Item
  bins : Table Bin
  appSettings : List (String × String)
  stock : Table (Row Place Quantities)
  adjustments : Table (Row FiledAdjustment AdjustmentStatus)
  pickTasks : Table (Row TaskColumns TaskProgress)
  outbox : Table (Row OutboxRow Unit)
  advisoryLocks : List (ℕ × ℕ × ℕ)

/-- The row condition `item_id = :iid AND bin_id = :bid`. -/
def Place.inBin (itemId binId : ℕ) (place : Place) : Bool :=
  place.itemId == itemId && place.binId == binId

/-- `lot_number IS NOT DISTINCT FROM :lot_number`, where the query has that condition. -/
def Place.inLot (lot : Option (Option String)) (place : Place) : Bool :=
  lot.all fun lotNumber => place.lotNumber == lotNumber

/-! ## Statements -/

inductive Statement where
  | itemById (itemId : ℕ)
  | binInWarehouse (binId warehouseId : ℕ)
  | separationRequired
  | lockAdjustment (adjustmentId : ℕ)
  | setAdjustmentStatus (adjustmentId : ℕ) (status : AdjustmentStatus)
  | insertAdjustment (row : FiledAdjustment) (status : AdjustmentStatus)
  | readStock (row : FiledAdjustment)
  | applyChange (row : FiledAdjustment) (existing : StockRow)
  | advisoryLock (itemId binId : ℕ)
  | matchRows (itemId binId : ℕ) (lot : Option (Option String))
  | lockRows (itemId binId : ℕ) (keys : List ℕ)
  | setOnHand (inventoryId : ℕ) (quantity : ℤ)
  | addOnHand (inventoryId : ℕ) (quantity : ℤ)
  | insertStock (place : Place) (quantity : ℤ)
  | taskById (pickTaskId : ℕ)
  | markPicked (pickTaskId : ℕ) (quantityPicked : ℤ)
  | decrement (itemId binId : ℕ) (keys : List ℕ) (picked allocated : ℤ)
  | emit (event : EmittedEvent)

def Answer : Statement → Type
  | .itemById _ => Option Item
  | .binInWarehouse _ _ => Bool
  | .separationRequired => Bool
  | .lockAdjustment _ => Option (FiledAdjustment × AdjustmentStatus)
  | .insertAdjustment _ _ => ℕ
  | .readStock _ => Option StockRow
  | .matchRows _ _ _ => List ℕ
  | .lockRows _ _ _ => Option StockRow
  | .taskById _ => Option (TaskColumns × TaskProgress)
  | _ => Unit

/-- What a request is answered. -/
inductive Refusal where
  | selfApproval
  | itemNotFound
  | binNotFound
  | insufficient (available : ℤ)
  | taskNotFound
  | taskDecided (status : TaskStatus)
  | overPick (quantityPicked quantityToPick : ℤ)
  | wrongItem

/-- The reply: a refusal, or what the request meant to move, by item and bin. -/
inductive Reply where
  | refused (refusal : Refusal)
  | done (deltas : List (ℕ × ℕ × ℤ))

/-- A request of the four kinds. -/
abbrev StockProgram := Program Statement Answer Reply

/-! ## The requests -/

/-- `SELECT ... FOR UPDATE` on the rows of an item in a bin. -/
def forUpdate (itemId binId : ℕ) (lot : Option (Option String))
    (next : Option StockRow → StockProgram) : StockProgram :=
  .exec (.matchRows itemId binId lot) fun keys => .exec (.lockRows itemId binId keys) next

def addInventory (itemId binId warehouseId : ℕ) (quantity : ℤ) (lotNumber : Option String)
    (next : StockProgram) : StockProgram :=
  .exec (.advisoryLock itemId binId) fun _ =>
    forUpdate itemId binId (some lotNumber) fun existing =>
      match existing with
      | some (inventoryId, _) => .exec (.addOnHand inventoryId quantity) fun _ => next
      | none =>
          .exec (.insertStock ⟨itemId, binId, warehouseId, lotNumber⟩ quantity) fun _ => next

def settleAdjustment (adjustmentId : ℕ) (row : FiledAdjustment) (next : StockProgram) :
    StockProgram :=
  .exec (.setAdjustmentStatus adjustmentId .approved) fun _ =>
    .exec (.emit ⟨adjustmentId, row.itemId, row.binId, row.quantityChange,
      row.cycleCountId.isSome⟩) fun _ => next

/-- The approval of an adjustment. The row is read without a lock, and what is written
later is computed from what was read. -/
def approveAdjustment (adjustmentId : ℕ) (row : FiledAdjustment) (next : StockProgram) :
    StockProgram :=
  .exec (.readStock row) fun existing =>
    match existing with
    | some existing =>
        .exec (.applyChange row existing) fun _ => settleAdjustment adjustmentId row next
    | none =>
        if 0 < row.quantityChange then
          .exec (.insertStock ⟨row.itemId, row.binId, row.warehouseId, none⟩
            row.quantityChange) fun _ => settleAdjustment adjustmentId row next
        else settleAdjustment adjustmentId row next

/-- `review_adjustments`, with what it has moved so far. -/
def reviewAdjustments (reviewer : String) :
    List AdjustmentDecision → List (ℕ × ℕ × ℤ) → StockProgram
  | [], deltas => .reply true (.done deltas)
  | decision :: rest, deltas =>
      .exec (.lockAdjustment decision.adjustmentId) fun row =>
        match row with
        | none => reviewAdjustments reviewer rest deltas
        | some (row, status) =>
            if status ≠ .pending then reviewAdjustments reviewer rest deltas
            else if !decision.approve then
              .exec (.setAdjustmentStatus decision.adjustmentId .rejected) fun _ =>
                reviewAdjustments reviewer rest deltas
            else
              let approve := approveAdjustment decision.adjustmentId row
                (reviewAdjustments reviewer rest
                  (deltas ++ [(row.itemId, row.binId, row.quantityChange)]))
              if row.cycleCountId.isSome && row.adjustedBy == reviewer then
                .exec .separationRequired fun (required : Bool) =>
                  if required then .reply false (.refused .selfApproval) else approve
              else approve

/-- The end of `direct_adjustment`: the adjustment is filed as approved, and announced. -/
def recordAdjustment (row : FiledAdjustment) : StockProgram :=
  .exec (.insertAdjustment row .approved) fun adjustmentId =>
    .exec (.emit ⟨adjustmentId, row.itemId, row.binId, row.quantityChange, false⟩) fun _ =>
      .reply true (.done [(row.itemId, row.binId, row.quantityChange)])

/-- The adjustment that `direct_adjustment` files. -/
def directRow (itemId binId warehouseId : ℕ) (quantityChange : ℤ) (username : String) :
    FiledAdjustment :=
  ⟨itemId, binId, warehouseId, quantityChange, "DIRECT_ADJUSTMENT", username, none⟩

def directAdjustment (itemId binId warehouseId : ℕ) (adds : Bool) (quantity : ℤ)
    (username : String) : StockProgram :=
  .exec (.itemById itemId) fun item =>
    match item with
    | none => .reply false (.refused .itemNotFound)
    | some _ =>
        .exec (.binInWarehouse binId warehouseId) fun found =>
          if !found then .reply false (.refused .binNotFound)
          else if adds then
            addInventory itemId binId warehouseId quantity none
              (recordAdjustment (directRow itemId binId warehouseId quantity username))
          else
            forUpdate itemId binId none fun inv =>
              match inv with
              | none => .reply false (.refused (.insufficient 0))
              | some (inventoryId, _, quantities) =>
                  if quantities.onHand < quantity then
                    .reply false (.refused (.insufficient quantities.onHand))
                  else
                    .exec (.setOnHand inventoryId (quantities.onHand - quantity)) fun _ =>
                      recordAdjustment
                        (directRow itemId binId warehouseId (-quantity) username)

/-- `confirm_pick`. A pick for a transfer order moves no stock. -/
def confirmPick (pickTaskId : ℕ) (scannedBarcode : String) (quantityPicked : ℤ) :
    StockProgram :=
  .exec (.taskById pickTaskId) fun task =>
    match task with
    | none => .reply false (.refused .taskNotFound)
    | some (task, progress) =>
        if progress.status ≠ .pending then
          .reply false (.refused (.taskDecided progress.status))
        else if task.quantityToPick < quantityPicked then
          .reply false (.refused (.overPick quantityPicked task.quantityToPick))
        else
          .exec (.itemById task.itemId) fun item =>
            if !item.any (barcodeMatches scannedBarcode) then
              .reply false (.refused .wrongItem)
            else
              .exec (.markPicked pickTaskId quantityPicked) fun _ =>
                if task.transfer then .reply true (.done [])
                else
                  .exec (.matchRows task.itemId task.binId none) fun keys =>
                    .exec (.decrement task.itemId task.binId keys quantityPicked
                      task.quantityToPick) fun _ =>
                        .reply true (.done [(task.itemId, task.binId, -quantityPicked)])

/-- `move_inventory`, and the commit of its caller. -/
def moveInventory (itemId fromBinId toBinId warehouseId : ℕ) (quantity : ℤ)
    (lotNumber : Option String) : StockProgram :=
  forUpdate itemId fromBinId (some lotNumber) fun source =>
    match source with
    | none => .reply false (.refused (.insufficient 0))
    | some (inventoryId, _, quantities) =>
        if quantities.onHand < quantity then
          .reply false (.refused (.insufficient quantities.onHand))
        else
          .exec (.setOnHand inventoryId (quantities.onHand - quantity)) fun _ =>
            addInventory itemId toBinId warehouseId quantity lotNumber
              (.reply true (.done [(itemId, fromBinId, -quantity), (itemId, toBinId, quantity)]))

inductive StockRequest where
  | review (reviewer : String) (decisions : List AdjustmentDecision)
  | direct (itemId binId warehouseId : ℕ) (adds : Bool) (quantity : ℤ) (username : String)
  | pick (pickTaskId : ℕ) (scannedBarcode : String) (quantityPicked : ℤ)
  | move (itemId fromBinId toBinId warehouseId : ℕ) (quantity : ℤ)
      (lotNumber : Option String)

def StockRequest.program : StockRequest → StockProgram
  | .review reviewer decisions => reviewAdjustments reviewer decisions []
  | .direct itemId binId warehouseId adds quantity username =>
      directAdjustment itemId binId warehouseId adds quantity username
  | .pick pickTaskId scannedBarcode quantityPicked =>
      confirmPick pickTaskId scannedBarcode quantityPicked
  | .move itemId fromBinId toBinId warehouseId quantity lotNumber =>
      moveInventory itemId fromBinId toBinId warehouseId quantity lotNumber

/-! ## Execution -/

def onHandAt (itemId binId : ℕ) (place : Place) (quantities : Quantities) : ℤ :=
  if place.inBin itemId binId then quantities.onHand else 0

def madeAt (itemId binId : ℕ) (row : OutboxRow) (_ : Unit) : ℤ :=
  if row.event.itemId = itemId ∧ row.event.binId = binId then row.made else 0

/-- The rows of a table that a transaction sees and a condition selects. -/
def stockRows (db : Database) (txn itemId binId : ℕ) (lot : Option (Option String)) :
    List StockRow :=
  (rowsSeen db.stock txn).filter fun row =>
    row.2.1.inBin itemId binId && row.2.1.inLot lot

/-- Write the rows of the inventory that a condition selects, once they are free. -/
def writeStock (db : Database) (txn : ℕ) (cond : ℕ → Place → Bool)
    (change : Quantities → Quantities) : Option Database :=
  if allFree db.stock txn cond then
    some { db with stock := writeWhere db.stock txn cond change }
  else none

/-- Execute a statement, if the rows it locks are free. -/
def perform (fetchOne : FetchOne (Place × Quantities)) (db : Database) (txn : ℕ) :
    (statement : Statement) → Option (Database × Answer statement)
  | .itemById itemId => some (db, db.items.get? itemId)
  | .binInWarehouse binId warehouseId =>
      some (db, (db.bins.get? binId).any fun bin => bin.warehouseId == warehouseId)
  | .separationRequired =>
      some (db, db.appSettings.lookup "require_count_approval_separation" == some "true")
  | .lockAdjustment adjustmentId =>
      (writeKey db.adjustments txn adjustmentId id).map fun adjustments =>
        ({ db with adjustments }, rowByKey adjustments txn adjustmentId)
  | .setAdjustmentStatus adjustmentId status =>
      (writeKey db.adjustments txn adjustmentId fun _ => status).map fun adjustments =>
        ({ db with adjustments }, ())
  | .insertAdjustment row status =>
      some ({ db with adjustments := insertRow db.adjustments txn row status },
        db.adjustments.next)
  | .readStock row =>
      some (db, fetchOne.fetch (stockRows db txn row.itemId row.binId none))
  | .applyChange row existing =>
      (writeStock db txn (fun key _ => key == existing.1) fun quantities =>
        { quantities with
          onHand := max 0 (existing.2.2.onHand + row.quantityChange) }).map fun db =>
        (db, ())
  | .advisoryLock itemId binId =>
      if db.advisoryLocks.any fun lock => lock.2 == (itemId, binId) && lock.1 != txn then none
      else some ({ db with advisoryLocks := (txn, itemId, binId) :: db.advisoryLocks }, ())
  | .matchRows itemId binId lot =>
      some (db, (stockRows db txn itemId binId lot).map fun row => row.1)
  | .lockRows itemId binId keys =>
      (writeStock db txn (fun key place => keys.contains key && place.inBin itemId binId)
        id).map fun db =>
        (db, fetchOne.fetch ((stockRows db txn itemId binId none).filter fun row =>
          keys.contains row.1))
  | .setOnHand inventoryId quantity =>
      (writeStock db txn (fun key _ => key == inventoryId) fun quantities =>
        { quantities with onHand := quantity }).map fun db => (db, ())
  | .addOnHand inventoryId quantity =>
      (writeStock db txn (fun key _ => key == inventoryId) fun quantities =>
        { quantities with onHand := quantities.onHand + quantity }).map fun db => (db, ())
  | .insertStock place quantity =>
      some ({ db with stock := insertRow db.stock txn place ⟨quantity, 0⟩ }, ())
  | .taskById pickTaskId => some (db, rowByKey db.pickTasks txn pickTaskId)
  | .markPicked pickTaskId quantityPicked =>
      (writeKey db.pickTasks txn pickTaskId fun _ => ⟨.picked, quantityPicked⟩).map
        fun pickTasks => ({ db with pickTasks }, ())
  | .decrement itemId binId keys picked allocated =>
      (writeStock db txn (fun key place => keys.contains key && place.inBin itemId binId)
        fun quantities =>
          ⟨max 0 (quantities.onHand - picked), max 0 (quantities.allocated - allocated)⟩).map
        fun db => (db, ())
  | .emit event =>
      some ({ db with
        outbox := insertRow db.outbox txn
          ⟨event, changeTotal (onHandAt event.itemId event.binId) db.stock txn -
            changeTotal (madeAt event.itemId event.binId) db.outbox txn⟩ () }, ())

/-- The database as the sessions use it. -/
def engine (fetchOne : FetchOne (Place × Quantities)) :
    Engine Database Statement Answer where
  perform := perform fetchOne
  commit := fun db txn =>
    { db with
      stock := commitRows db.stock txn
      adjustments := commitRows db.adjustments txn
      pickTasks := commitRows db.pickTasks txn
      outbox := commitRows db.outbox txn
      advisoryLocks := db.advisoryLocks.filter fun lock => lock.1 != txn }
  rollback := fun db txn =>
    { db with
      stock := rollbackRows db.stock txn
      adjustments := rollbackRows db.adjustments txn
      pickTasks := rollbackRows db.pickTasks txn
      outbox := rollbackRows db.outbox txn
      advisoryLocks := db.advisoryLocks.filter fun lock => lock.1 != txn }

/-- The requests in progress on a database, and the replies given. -/
abbrev StockSystem := System Database Statement Answer Reply

end SentryWms.StockRequests
