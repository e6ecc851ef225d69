import SentryWms.Core.Cooperation
import SentryWms.Counting.StockRequests
import SentryWms.Receiving.StockEntry

/-!
# Mobile stock entries, statement by statement

`stock_entry` and `reverse_stock_entry` as the SQL statements they execute, with the locks
these take. The row of an entry remembers its idempotency key, and the reversal deletes
the row; the key then only stands in the audit log. A row that a transaction has deleted
stays locked until it commits, and is gone after that.
-/

namespace SentryWms.EntryRequests

open Relational ReadCommitted Interleaving Counting
open StockRequests (Place Quantities StockRow)

/-! ## The tables -/

/-- The columns of `mobile_stock_entries`. -/
structure EntryColumns where
  idempotencyKey : String
  itemId : ℕ
  binId : ℕ
  warehouseId : ℕ
  quantity : ℤ
  enteredBy : String

/-- What the audit log keeps of a reversal. -/
structure Reversal where
  stockEntryId : ℕ
  idempotencyKey : String

/-- The tables the requests read and write, and the advisory locks: those on hashed codes,
and those on an item in a bin. The presence of an entry is null once it is deleted. -/
structure Database where
  items : Table (Row Unit Item)
  bins : Table (Row Bin Unit)
  stock : Table (Row Place Quantities)
  entries : Table (Row EntryColumns (Option Unit))
  reversals : Table (Row Reversal Unit)
  codeLocks : List (ℕ × ℤ)
  stockLocks : List (ℕ × ℕ × ℕ)

/-- Who makes a request. -/
structure Caller where
  scope : WarehouseScope
  mayReceive : Bool
  actor : String

def Caller.isAdmin (caller : Caller) : Bool :=
  caller.scope.warehouseIds.isNone

/-! ## Statements -/

inductive Statement where
  | lockCode (hash : ℤ)
  | entryByKey (idempotencyKey : String)
  | lockBin (binId warehouseId : ℕ)
  | matchItems (request : StockEntryRequest)
  | lockItem (request : StockEntryRequest) (keys : List ℕ)
  | freeSku (baseSku : String)
  | insertItem (item : Item)
  | setMpn (itemId : ℕ) (productCode : String)
  | lockStock (itemId binId : ℕ)
  | matchRows (itemId binId : ℕ)
  | lockRows (itemId binId : ℕ) (keys : List ℕ)
  | addOnHand (inventoryId : ℕ) (quantity : ℤ)
  | insertStock (place : Place) (quantity : ℤ)
  | insertEntry (columns : EntryColumns)
  | lockEntry (stockEntryId : ℕ)
  | setOnHand (inventoryId : ℕ) (quantity : ℤ)
  | deleteEntry (stockEntryId : ℕ)
  | logReversal (reversal : Reversal)

/-- What a statement returns. The insert of an entry returns nothing if it violates the
unique key. -/
def Answer : Statement → Type
  | .entryByKey _ => Option (ℕ × EntryColumns)
  | .lockBin _ _ => Option Bin
  | .matchItems _ => List ℕ
  | .lockItem _ _ => Option (ℕ × Item)
  | .freeSku _ => Option String
  | .insertItem _ => ℕ
  | .matchRows _ _ => List ℕ
  | .lockRows _ _ _ => Option StockRow
  | .insertEntry _ => Option ℕ
  | .lockEntry _ => Option EntryColumns
  | _ => Unit

/-- Why a request is refused. The last one is an exception of the database. -/
inductive Refusal where
  | entry (error : StockEntryError)
  | receiveForbidden
  | entryNotFound
  | accessDenied
  | notOwn
  | stockUsed
  | duplicateKey

/-- The reply: a refusal, the entry that has the key already, or what was done. -/
inductive Reply where
  | refused (refusal : Refusal)
  | repeated (stockEntryId : ℕ) (columns : EntryColumns)
  | added (stockEntryId : ℕ) (columns : EntryColumns) (createdProvisionalItem : Bool)
  | removed (stockEntryId : ℕ) (columns : EntryColumns) (quantityInBin : ℤ)

/-- A request of the two kinds. -/
abbrev EntryProgram := Program Statement Answer Reply

/-! ## The requests -/

/-- `SELECT ... FOR UPDATE` on the rows of an item in a bin that have no lot. -/
def forUpdate (itemId binId : ℕ) (next : Option StockRow → EntryProgram) : EntryProgram :=
  .exec (.matchRows itemId binId) fun keys => .exec (.lockRows itemId binId keys) next

/-- `add_inventory`, for stock without a lot. -/
def addInventory (itemId binId warehouseId : ℕ) (quantity : ℤ) (next : EntryProgram) :
    EntryProgram :=
  .exec (.lockStock itemId binId) fun _ =>
    forUpdate itemId binId fun existing =>
      match existing with
      | some (inventoryId, _) => .exec (.addOnHand inventoryId quantity) fun _ => next
      | none => .exec (.insertStock ⟨itemId, binId, warehouseId, none⟩ quantity) fun _ => next

def provisionalItem (request : StockEntryRequest) (sku : String) : Item :=
  { sku, upc := nullIfEmpty request.ean, barcodeAliases := []
    mpn := nullIfEmpty request.productCode }

def findOrCreateItem (sha256 : String → String) (request : StockEntryRequest)
    (next : ℕ → Bool → EntryProgram) : EntryProgram :=
  .exec (.matchItems request) fun keys =>
    .exec (.lockItem request keys) fun item =>
      match item with
      | some (itemId, item) =>
          if request.productCode ≠ "" ∧ item.mpn ≠ some request.productCode then
            .exec (.setMpn itemId request.productCode) fun _ => next itemId false
          else next itemId false
      | none =>
          .exec (.freeSku (provisionalSku sha256 request.lookupCode)) fun sku =>
            match sku with
            | none =>
                .reply false (.refused (.entry
                  (.skusExhausted (provisionalSku sha256 request.lookupCode))))
            | some sku =>
                .exec (.insertItem (provisionalItem request sku)) fun itemId =>
                  next itemId true

def enterStock (request : StockEntryRequest) (actor : String) (itemId : ℕ)
    (createdProvisionalItem : Bool) : EntryProgram :=
  let columns : EntryColumns :=
    { idempotencyKey := request.idempotencyKey, itemId, binId := request.binId
      warehouseId := request.warehouseId, quantity := request.quantity, enteredBy := actor }
  addInventory itemId request.binId request.warehouseId request.quantity
    (.exec (.insertEntry columns) fun stockEntryId =>
      match stockEntryId with
      | none => .reply false (.refused .duplicateKey)
      | some stockEntryId =>
          .reply true (.added stockEntryId columns createdProvisionalItem))

/-- `stock_entry`, under the hash of the library and that of the database. -/
def stockEntry (sha256 : String → String) (hashtext : String → ℤ) (caller : Caller)
    (request : StockEntryRequest) : EntryProgram :=
  match checkStockEntry caller.scope caller.mayReceive request with
  | .error error => .reply false (.refused (.entry error))
  | .ok _ =>
      .exec (.lockCode (hashtext request.idempotencyKey)) fun _ =>
        .exec (.entryByKey request.idempotencyKey) fun previous =>
          match previous with
          | some (stockEntryId, columns) => .reply false (.repeated stockEntryId columns)
          | none =>
              .exec (.lockBin request.binId request.warehouseId) fun bin =>
                match bin with
                | none => .reply false (.refused (.entry .binNotFound))
                | some _ =>
                    .exec (.lockCode (hashtext ("product:" ++ request.lookupCode)))
                      fun _ =>
                        findOrCreateItem sha256 request fun itemId created =>
                          enterStock request caller.actor itemId created

/-- `reverse_stock_entry`. What is written to the inventory is computed from the row that
was locked. -/
def reverseStockEntry (caller : Caller) (stockEntryId : ℕ) : EntryProgram :=
  if !caller.isAdmin && !caller.mayReceive then .reply false (.refused .receiveForbidden)
  else
    .exec (.lockEntry stockEntryId) fun entry =>
      match entry with
      | none => .reply false (.refused .entryNotFound)
      | some columns =>
          if !caller.scope.allows columns.warehouseId then .reply false (.refused .accessDenied)
          else if !caller.isAdmin && columns.enteredBy != caller.actor then
            .reply false (.refused .notOwn)
          else
            forUpdate columns.itemId columns.binId fun inventoryRow =>
              match inventoryRow with
              | none => .reply false (.refused .stockUsed)
              | some (inventoryId, _, quantities) =>
                  let resultingQuantity := quantities.onHand - columns.quantity
                  if resultingQuantity < 0 ∨ resultingQuantity < quantities.allocated then
                    .reply false (.refused .stockUsed)
                  else
                    .exec (.setOnHand inventoryId resultingQuantity) fun _ =>
                      .exec (.deleteEntry stockEntryId) fun _ =>
                        .exec (.logReversal ⟨stockEntryId, columns.idempotencyKey⟩) fun _ =>
                          .reply true (.removed stockEntryId columns resultingQuantity)

inductive EntryRequest where
  | enter (caller : Caller) (request : StockEntryRequest)
  | reverse (caller : Caller) (stockEntryId : ℕ)

def EntryRequest.program (sha256 : String → String) (hashtext : String → ℤ) :
    EntryRequest → EntryProgram
  | .enter caller request => stockEntry sha256 hashtext caller request
  | .reverse caller stockEntryId => reverseStockEntry caller stockEntryId

/-! ## Execution -/

/-- The rows of an item in a bin without a lot that a transaction sees. -/
def stockRows (db : Database) (txn itemId binId : ℕ) : List StockRow :=
  (rowsSeen db.stock txn).filter fun row =>
    row.2.1.inBin itemId binId && row.2.1.inLot (some none)

/-- Write the rows of the inventory that a condition selects, once they are free. -/
def writeStock (db : Database) (txn : ℕ) (cond : ℕ → Place → Bool)
    (change : Quantities → Quantities) : Option Database :=
  if allFree db.stock txn cond then
    some { db with stock := writeWhere db.stock txn cond change }
  else none

/-- The first of the items that still carries the codes; it is waited for. -/
def firstItem (items : Table (Row Unit Item)) (txn : ℕ) (request : StockEntryRequest) :
    List ℕ → Option (Option ℕ)
  | [] => some none
  | key :: rest =>
      match items.get? key with
      | none => firstItem items txn request rest
      | some row =>
          if !row.version.free txn then none
          else if row.version.latest.carries request then some (some key)
          else firstItem items txn request rest

def lockItem (db : Database) (txn : ℕ) :
    Option ℕ → Option (Database × Option (ℕ × Item))
  | none => some (db, none)
  | some key =>
      (writeKey db.items txn key id).map fun items =>
        ({ db with items }, (rowByKey items txn key).map fun row => (key, row.2))

/-- The first free SKU: the plain one, or one of those numbered from two. -/
def freeSku (items : Table (Row Unit Item)) (txn : ℕ) (baseSku : String) : Option String :=
  (baseSku :: (List.range (items.entries.length + 1)).map fun index =>
    numberedSku baseSku (index + 2)).find? fun sku =>
      !(rowsSeen items txn).any fun row => row.2.2.sku == sku

/-- Insert an entry. One with the same key that another transaction is inserting or
deleting is waited for; one that is there violates the unique key. -/
def insertEntry (db : Database) (txn : ℕ) (columns : EntryColumns) :
    Option (Database × Option ℕ) :=
  let conflicting := db.entries.entries.filter fun entry =>
    entry.2.ident.idempotencyKey == columns.idempotencyKey
  if conflicting.any fun entry => !entry.2.version.free txn then none
  else if conflicting.any fun entry => entry.2.version.latest.isSome then some (db, none)
  else
    some ({ db with entries := insertRow db.entries txn columns (some ()) },
      some db.entries.next)

def lockEntry (db : Database) (txn stockEntryId : ℕ) :
    Option (Database × Option EntryColumns) :=
  match rowByKey db.entries txn stockEntryId with
  | none | some (_, none) => some (db, none)
  | some (columns, some ()) =>
      (writeKey db.entries txn stockEntryId id).map fun entries =>
        ({ db with entries }, some columns)

/-- Execute a statement, if the rows it locks are free. -/
def perform (fetchOne : FetchOne (Place × Quantities)) (db : Database) (txn : ℕ) :
    (statement : Statement) → Option (Database × Answer statement)
  | .lockCode hash =>
      (takeLock db.codeLocks txn hash).map fun codeLocks => ({ db with codeLocks }, ())
  | .entryByKey idempotencyKey =>
      some (db, ((rowsSeen db.entries txn).find? fun row =>
        row.2.1.idempotencyKey == idempotencyKey && row.2.2.isSome).map fun row =>
          (row.1, row.2.1))
  | .lockBin binId warehouseId =>
      match (rowByKey db.bins txn binId).filter fun row =>
          row.1.warehouseId == warehouseId && row.1.isActive with
      | none => some (db, none)
      | some (bin, _) =>
          (writeKey db.bins txn binId id).map fun bins => ({ db with bins }, some bin)
  | .matchItems request =>
      some (db, ((rowsSeen db.items txn).filter fun row =>
        row.2.2.carries request).map fun row => row.1)
  | .lockItem request keys => (firstItem db.items txn request keys).bind (lockItem db txn)
  | .freeSku baseSku => some (db, freeSku db.items txn baseSku)
  | .insertItem item =>
      some ({ db with items := insertRow db.items txn () item }, db.items.next)
  | .setMpn itemId productCode =>
      (writeKey db.items txn itemId fun item =>
        { item with mpn := some productCode }).map fun items => ({ db with items }, ())
  | .lockStock itemId binId =>
      (takeLock db.stockLocks txn (itemId, binId)).map fun stockLocks =>
        ({ db with stockLocks }, ())
  | .matchRows itemId binId => some (db, (stockRows db txn itemId binId).map fun row => row.1)
  | .lockRows itemId binId keys =>
      (writeStock db txn (fun key place => keys.contains key && place.inBin itemId binId)
        id).map fun db =>
        (db, fetchOne.fetch ((stockRows db txn itemId binId).filter fun row =>
          keys.contains row.1))
  | .addOnHand inventoryId quantity =>
      (writeStock db txn (fun key _ => key == inventoryId) fun quantities =>
        { quantities with onHand := quantities.onHand + quantity }).map fun db => (db, ())
  | .insertStock place quantity =>
      some ({ db with stock := insertRow db.stock txn place ⟨quantity, 0⟩ }, ())
  | .insertEntry columns => insertEntry db txn columns
  | .lockEntry stockEntryId => lockEntry db txn stockEntryId
  | .setOnHand inventoryId quantity =>
      (writeStock db txn (fun key _ => key == inventoryId) fun quantities =>
        { quantities with onHand := quantity }).map fun db => (db, ())
  | .deleteEntry stockEntryId =>
      (writeKey db.entries txn stockEntryId fun _ => none).map fun entries =>
        ({ db with entries }, ())
  | .logReversal reversal =>
      some ({ db with reversals := insertRow db.reversals txn reversal () }, ())

/-- The database as the sessions use it. -/
def engine (fetchOne : FetchOne (Place × Quantities)) :
    Engine Database Statement Answer where
  perform := perform fetchOne
  commit := fun db txn =>
    { items := commitRows db.items txn
      bins := commitRows db.bins txn
      stock := commitRows db.stock txn
      entries := commitRows db.entries txn
      reversals := commitRows db.reversals txn
      codeLocks := releaseLocks db.codeLocks txn
      stockLocks := releaseLocks db.stockLocks txn }
  rollback := fun db txn =>
    { items := rollbackRows db.items txn
      bins := rollbackRows db.bins txn
      stock := rollbackRows db.stock txn
      entries := rollbackRows db.entries txn
      reversals := rollbackRows db.reversals txn
      codeLocks := releaseLocks db.codeLocks txn
      stockLocks := releaseLocks db.stockLocks txn }

/-- The requests in progress on a database, and the replies given. -/
abbrev EntrySystem := System Database Statement Answer Reply

end SentryWms.EntryRequests
