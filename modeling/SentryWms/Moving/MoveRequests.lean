import SentryWms.Counting.StockRequests

/-!
# Moves between bins, statement by statement

`move_inventory`, `create_inter_warehouse_transfer`, `add_inventory`, `confirm_pick` and
`delete_bin` as the SQL statements they execute, with the locks these take. A row that a
transaction has deleted stays locked until it commits, and is gone after that: no
statement sees it. An inventory row refers to its bin, so its insert locks the bin
against deletion, and a bin with inventory rows is not deleted.
-/

namespace SentryWms.Moving

open Relational ReadCommitted Interleaving Counting
open StockRequests (Place Quantities StockRow TaskColumns TaskProgress)

/-! ## The tables -/

/-- The tables the requests read and write, and the locks. The quantities of an inventory
row and the presence of a bin are null once they are deleted. `deleted` keeps what the
DELETE statements took. -/
structure Database where
  items : Table Item
  bins : Table (Row Bin (Option Unit))
  preferredBins : List ℕ
  referencedBins : List ℕ
  stock : Table (Row Place (Option Quantities))
  pickTasks : Table (Row TaskColumns TaskProgress)
  advisoryLocks : List (ℕ × ℕ × ℕ)
  keyShares : List (ℕ × ℕ)
  deleted : List (Place × Quantities)

/-- The row was deleted by a transaction that has committed. -/
def gone (db : Database) (inventoryId : ℕ) : Bool :=
  (db.stock.get? inventoryId).any fun row => row.version == .stable none

/-- The inventory rows a statement sees. -/
def seen (db : Database) (txn : ℕ) : List StockRow :=
  (rowsSeen db.stock txn).filterMap fun row =>
    row.2.2.map fun quantities => (row.1, row.2.1, quantities)

def stockRows (db : Database) (txn itemId binId : ℕ) (lot : Option (Option String)) :
    List StockRow :=
  (seen db txn).filter fun row => row.2.1.inBin itemId binId && row.2.1.inLot lot

/-- The bin, as a statement sees it. -/
def binSeen (db : Database) (txn binId : ℕ) : Option Bin :=
  (rowByKey db.bins txn binId).bind fun row => row.2.map fun _ => row.1

/-! ## Statements -/

inductive Statement where
  | itemById (itemId : ℕ)
  | binById (binId : ℕ)
  | readStock (itemId binId : ℕ)
  | overwrite (existing : StockRow) (quantity : ℤ)
  | advisoryLock (itemId binId : ℕ)
  | matchRows (itemId binId : ℕ) (lot : Option (Option String))
  | lockRows (itemId binId : ℕ) (keys : List ℕ)
  | setOnHand (inventoryId : ℕ) (quantity : ℤ)
  | addOnHand (inventoryId : ℕ) (quantity : ℤ)
  | insertStock (place : Place) (quantity : ℤ)
  | taskById (pickTaskId : ℕ)
  | markPicked (pickTaskId : ℕ) (quantityPicked : ℤ)
  | decrement (itemId binId : ℕ) (keys : List ℕ) (picked allocated : ℤ)
  | countStock (binId : ℕ)
  | countPreferred (binId : ℕ)
  | matchBin (binId : ℕ)
  | deleteStock (binId : ℕ) (keys : List ℕ)
  | deleteBin (binId : ℕ)

/-- What a statement returns. An insert or a delete of a bin says whether it kept the
foreign keys. -/
def Answer : Statement → Type
  | .itemById _ => Option Item
  | .binById _ => Option Bin
  | .readStock _ _ => Option StockRow
  | .matchRows _ _ _ => List ℕ
  | .lockRows _ _ _ => Option StockRow
  | .insertStock _ _ => Bool
  | .taskById _ => Option (TaskColumns × TaskProgress)
  | .countStock _ => ℕ
  | .countPreferred _ => ℕ
  | .matchBin _ => List ℕ
  | .deleteBin _ => Bool
  | _ => Unit

/-- Why a request is refused. -/
inductive Refusal where
  | itemNotFound
  | sourceBinNotFound
  | destinationBinNotFound
  | insufficient (available : ℤ)
  | foreignKey
  | taskNotFound
  | taskDecided (status : TaskStatus)
  | overPick (quantityPicked quantityToPick : ℤ)
  | wrongItem
  | binNotFound
  | stockRemains (rows : ℕ)
  | preferredMappings (rows : ℕ)

/-- The reply: a refusal, or what was done. -/
inductive Reply where
  | refused (refusal : Refusal)
  | moved (itemId fromBinId toBinId : ℕ) (quantity : ℤ)
  | added (itemId binId : ℕ) (quantity : ℤ)
  | picked (itemId binId : ℕ) (quantity : ℤ)
  | pickedForTransfer
  | binDeleted

/-- A request of the five kinds. -/
abbrev MoveProgram := Program Statement Answer Reply

/-! ## The requests -/

/-- `SELECT ... FOR UPDATE` on the rows of an item in a bin. -/
def forUpdate (itemId binId : ℕ) (lot : Option (Option String))
    (next : Option StockRow → MoveProgram) : MoveProgram :=
  .exec (.matchRows itemId binId lot) fun keys => .exec (.lockRows itemId binId keys) next

def addInventory (itemId binId warehouseId : ℕ) (quantity : ℤ) (lotNumber : Option String)
    (next : MoveProgram) : MoveProgram :=
  .exec (.advisoryLock itemId binId) fun _ =>
    forUpdate itemId binId (some lotNumber) fun existing =>
      match existing with
      | some (inventoryId, _) => .exec (.addOnHand inventoryId quantity) fun _ => next
      | none =>
          .exec (.insertStock ⟨itemId, binId, warehouseId, lotNumber⟩ quantity)
            fun (inserted : Bool) =>
              if inserted then next else .reply false (.refused .foreignKey)

/-- `move_inventory`, and the commit of its caller. -/
def moveInventory (itemId fromBinId toBinId warehouseId : ℕ) (quantity : ℤ)
    (lotNumber : Option String) : MoveProgram :=
  forUpdate itemId fromBinId (some lotNumber) fun source =>
    match source with
    | none => .reply false (.refused (.insufficient 0))
    | some (inventoryId, _, quantities) =>
        if quantities.onHand < quantity then
          .reply false (.refused (.insufficient quantities.onHand))
        else
          .exec (.setOnHand inventoryId (quantities.onHand - quantity)) fun _ =>
            addInventory itemId toBinId warehouseId quantity lotNumber
              (.reply true (.moved itemId fromBinId toBinId quantity))

/-- `create_inter_warehouse_transfer`. The source row is read without a lock and whatever
its lot, and what is written is computed from what was read. -/
def createInterWarehouseTransfer (itemId fromBinId fromWarehouseId toBinId toWarehouseId : ℕ)
    (quantity : ℤ) : MoveProgram :=
  .exec (.itemById itemId) fun item =>
    match item with
    | none => .reply false (.refused .itemNotFound)
    | some _ =>
        .exec (.binById fromBinId) fun fromBin =>
          if !fromBin.any (·.warehouseId == fromWarehouseId) then
            .reply false (.refused .sourceBinNotFound)
          else
            .exec (.binById toBinId) fun toBin =>
              if !toBin.any (·.warehouseId == toWarehouseId) then
                .reply false (.refused .destinationBinNotFound)
              else
                .exec (.readStock itemId fromBinId) fun source =>
                  match source with
                  | none => .reply false (.refused (.insufficient 0))
                  | some existing =>
                      if existing.2.2.onHand < quantity then
                        .reply false (.refused (.insufficient existing.2.2.onHand))
                      else
                        .exec (.overwrite existing (existing.2.2.onHand - quantity))
                          fun _ =>
                            addInventory itemId toBinId toWarehouseId quantity none
                              (.reply true (.moved itemId fromBinId toBinId quantity))

/-- `confirm_pick`. A pick for a transfer order moves no stock. -/
def confirmPick (pickTaskId : ℕ) (scannedBarcode : String) (quantityPicked : ℤ) :
    MoveProgram :=
  .exec (.taskById pickTaskId) fun task =>
    match task with
    | none => .reply false (.refused .taskNotFound)
    | some (task, progress) =>
        if progress.status ≠ .pending then
          .reply false (.refused (.taskDecided progress.status))
        else if task.quantityToPick < quantityPicked then
          .reply false (.refused (.overPick quantityPicked task.quantityToPick))
        else
          .exec (.itemById task.itemId) fun item =>
            if !item.any (barcodeMatches scannedBarcode) then
              .reply false (.refused .wrongItem)
            else
              .exec (.markPicked pickTaskId quantityPicked) fun _ =>
                if task.transfer then .reply true .pickedForTransfer
                else
                  .exec (.matchRows task.itemId task.binId none) fun keys =>
                    .exec (.decrement task.itemId task.binId keys quantityPicked
                      task.quantityToPick) fun _ =>
                        .reply true (.picked task.itemId task.binId quantityPicked)

/-- `delete_bin`. It counts the rows that hold stock, and deletes the rows of the bin in a
later statement. -/
def deleteBin (binId : ℕ) : MoveProgram :=
  .exec (.binById binId) fun existing =>
    match existing with
    | none => .reply false (.refused .binNotFound)
    | some _ =>
        .exec (.countStock binId) fun (inv : ℕ) =>
          if 0 < inv then .reply false (.refused (.stockRemains inv))
          else
            .exec (.countPreferred binId) fun (pref : ℕ) =>
              if 0 < pref then .reply false (.refused (.preferredMappings pref))
              else
                .exec (.matchBin binId) fun keys =>
                  .exec (.deleteStock binId keys) fun _ =>
                    .exec (.deleteBin binId) fun (deleted : Bool) =>
                      if deleted then .reply true .binDeleted
                      else .reply false (.refused .foreignKey)

inductive MoveRequest where
  | move (itemId fromBinId toBinId warehouseId : ℕ) (quantity : ℤ)
      (lotNumber : Option String)
  | transfer (itemId fromBinId fromWarehouseId toBinId toWarehouseId : ℕ) (quantity : ℤ)
      (quantity_pos : 0 < quantity)
  | add (itemId binId warehouseId : ℕ) (quantity : ℤ) (lotNumber : Option String)
  | pick (pickTaskId : ℕ) (scannedBarcode : String) (quantityPicked : ℤ)
  | deleteBin (binId : ℕ)

def MoveRequest.program : MoveRequest → MoveProgram
  | .move itemId fromBinId toBinId warehouseId quantity lotNumber =>
      moveInventory itemId fromBinId toBinId warehouseId quantity lotNumber
  | .transfer itemId fromBinId fromWarehouseId toBinId toWarehouseId quantity _ =>
      createInterWarehouseTransfer itemId fromBinId fromWarehouseId toBinId toWarehouseId
        quantity
  | .add itemId binId warehouseId quantity lotNumber =>
      addInventory itemId binId warehouseId quantity lotNumber
        (.reply true (.added itemId binId quantity))
  | .pick pickTaskId scannedBarcode quantityPicked =>
      confirmPick pickTaskId scannedBarcode quantityPicked
  | .deleteBin binId => Moving.deleteBin binId

/-! ## Execution -/

/-- Write the inventory rows that a condition selects, once they are free. -/
def writeStock (db : Database) (txn : ℕ) (cond : ℕ → Place → Bool)
    (change : Option Quantities → Option Quantities) : Option Database :=
  let cond := fun key place => cond key place && !gone db key
  if allFree db.stock txn cond then
    some { db with stock := writeWhere db.stock txn cond change }
  else none

/-- What a DELETE of the rows of a bin takes. -/
def taken (db : Database) (binId : ℕ) (keys : List ℕ) : List (Place × Quantities) :=
  (db.stock.entries.filter fun entry =>
    keys.contains entry.1 && entry.2.ident.binId == binId).filterMap fun entry =>
      entry.2.version.latest.map fun quantities => (entry.2.ident, quantities)

/-- Another transaction is deleting the bin. -/
def binLocked (db : Database) (txn binId : ℕ) : Bool :=
  !allFree db.bins txn fun key _ => key == binId

/-- Another transaction has inserted a row into the bin, or is deleting one. -/
def binInUse (db : Database) (txn binId : ℕ) : Bool :=
  (db.keyShares.any fun share => share.2 == binId && share.1 != txn) ||
    db.stock.entries.any fun entry =>
      entry.2.ident.binId == binId && !entry.2.version.free txn &&
        entry.2.version.latest.isNone

def insertStock (db : Database) (txn : ℕ) (place : Place) (quantity : ℤ) :
    Option (Database × Bool) :=
  if binLocked db txn place.binId then none
  else if (binSeen db txn place.binId).isNone then some (db, false)
  else
    some ({ db with
      stock := insertRow db.stock txn place (some ⟨quantity, 0⟩)
      keyShares := (txn, place.binId) :: db.keyShares }, true)

/-- Delete a bin, if nothing refers to it. -/
def removeBin (db : Database) (txn binId : ℕ) : Option (Database × Bool) :=
  if binLocked db txn binId || binInUse db txn binId then none
  else if (binSeen db txn binId).isNone then some (db, true)
  else if db.referencedBins.contains binId ||
      (seen db txn).any fun row => row.2.1.binId == binId then some (db, false)
  else
    some ({ db with
      bins := writeWhere db.bins txn (fun key _ => key == binId) fun _ => none }, true)

/-- Execute a statement, if the rows it locks are free. -/
def perform (fetchOne : FetchOne (Place × Quantities)) (db : Database) (txn : ℕ) :
    (statement : Statement) → Option (Database × Answer statement)
  | .itemById itemId => some (db, db.items.get? itemId)
  | .binById binId => some (db, binSeen db txn binId)
  | .readStock itemId binId => some (db, fetchOne.fetch (stockRows db txn itemId binId none))
  | .overwrite existing quantity =>
      (writeStock db txn (fun key _ => key == existing.1) (Option.map fun quantities =>
        { quantities with onHand := quantity })).map fun db => (db, ())
  | .advisoryLock itemId binId =>
      if db.advisoryLocks.any fun lock => lock.2 == (itemId, binId) && lock.1 != txn then none
      else some ({ db with advisoryLocks := (txn, itemId, binId) :: db.advisoryLocks }, ())
  | .matchRows itemId binId lot =>
      some (db, (stockRows db txn itemId binId lot).map fun row => row.1)
  | .lockRows itemId binId keys =>
      (writeStock db txn (fun key place => keys.contains key && place.inBin itemId binId)
        id).map fun db =>
        (db, fetchOne.fetch ((stockRows db txn itemId binId none).filter fun row =>
          keys.contains row.1))
  | .setOnHand inventoryId quantity =>
      (writeStock db txn (fun key _ => key == inventoryId) (Option.map fun quantities =>
        { quantities with onHand := quantity })).map fun db => (db, ())
  | .addOnHand inventoryId quantity =>
      (writeStock db txn (fun key _ => key == inventoryId) (Option.map fun quantities =>
        { quantities with onHand := quantities.onHand + quantity })).map fun db => (db, ())
  | .insertStock place quantity => insertStock db txn place quantity
  | .taskById pickTaskId => some (db, rowByKey db.pickTasks txn pickTaskId)
  | .markPicked pickTaskId quantityPicked =>
      (writeKey db.pickTasks txn pickTaskId fun _ => ⟨.picked, quantityPicked⟩).map
        fun pickTasks => ({ db with pickTasks }, ())
  | .decrement itemId binId keys picked allocated =>
      (writeStock db txn (fun key place => keys.contains key && place.inBin itemId binId)
        (Option.map fun quantities =>
          ⟨max 0 (quantities.onHand - picked), max 0 (quantities.allocated - allocated)⟩)).map
        fun db => (db, ())
  | .countStock binId =>
      some (db, ((seen db txn).filter fun row =>
        row.2.1.binId == binId && decide (0 < row.2.2.onHand)).length)
  | .countPreferred binId => some (db, (db.preferredBins.filter (· == binId)).length)
  | .matchBin binId =>
      some (db, ((seen db txn).filter fun row => row.2.1.binId == binId).map fun row => row.1)
  | .deleteStock binId keys =>
      (writeStock db txn (fun key place => keys.contains key && place.binId == binId)
        fun _ => none).map fun after =>
        ({ after with deleted := db.deleted ++ taken db binId keys }, ())
  | .deleteBin binId => removeBin db txn binId

/-- The database as the sessions use it. -/
def engine (fetchOne : FetchOne (Place × Quantities)) :
    Engine Database Statement Answer where
  perform := perform fetchOne
  commit := fun db txn =>
    { db with
      bins := commitRows db.bins txn
      stock := commitRows db.stock txn
      pickTasks := commitRows db.pickTasks txn
      advisoryLocks := db.advisoryLocks.filter fun lock => lock.1 != txn
      keyShares := db.keyShares.filter fun share => share.1 != txn }
  rollback := fun db txn =>
    { db with
      bins := rollbackRows db.bins txn
      stock := rollbackRows db.stock txn
      pickTasks := rollbackRows db.pickTasks txn
      advisoryLocks := db.advisoryLocks.filter fun lock => lock.1 != txn
      keyShares := db.keyShares.filter fun share => share.1 != txn }

/-- The requests in progress on a database, and the replies given. -/
abbrev MoveSystem := System Database Statement Answer Reply

end SentryWms.Moving
