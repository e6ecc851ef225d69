import SentryWms.Core.Cooperation
import SentryWms.Picking.Task
import SentryWms.Receiving.Receive

/-!
# Pack verification, statement by statement

`verify_item` and `complete_packing` as the SQL statements they execute, with the locks
these take. A verification reads the order and its lines without a lock and later writes
the counter it has computed; a completion locks the order, but not its lines.
-/

namespace SentryWms.Packing

open Relational ReadCommitted Interleaving

/-! ## The tables -/

/-- The columns of `sales_order_lines` that the requests read but do not write. -/
structure LineColumns where
  soId : ℕ
  itemId : ℕ
  quantityOrdered : ℤ
  quantityPicked : ℤ
deriving DecidableEq

/-- The columns of `sales_orders` that the requests read but do not write. -/
structure OrderColumns where
  soNumber : String
  warehouseId : ℕ

/-- The tables the requests read and write. What is written of a line is
`quantity_packed`, and of an order its status. `shortMarked` are the lines for which a
picker has confirmed a shortfall. -/
structure Database where
  items : Table Item
  orders : Table (Row OrderColumns SoStatus)
  lines : Table (Row LineColumns ℤ)
  shortMarked : List ℕ

/-- A line as `verify_item` reads it, with its item. -/
structure LineRead where
  soLineId : ℕ
  columns : LineColumns
  quantityPacked : ℤ
  item : Item

/-! ## Statements -/

inductive Statement where
  | findOrder (scope : WarehouseScope) (soId : ℕ)
  | readLines (soId : ℕ)
  | setPacked (line : LineRead) (quantityPacked : ℤ)
  | lockOrder (scope : WarehouseScope) (soId : ℕ)
  | countUnverified (soId : ℕ)
  | silentlyShort (soId : ℕ)
  | markPacked (soId : ℕ)

def Answer : Statement → Type
  | .findOrder _ _ => Option SoStatus
  | .readLines _ => List LineRead
  | .lockOrder _ _ => Option SoStatus
  | .countUnverified _ => ℕ
  | .silentlyShort _ => List LineRead
  | _ => Unit

/-- Why a request is refused. -/
inductive Refusal where
  | orderNotFound
  | notReady (status : SoStatus)
  | alreadyVerified
  | itemNotFound
  | overPack (remaining : ℤ)
  | unverified (lines : ℕ)
  | underPicked (sku : String) (quantityOrdered quantityPicked : ℤ) (more : ℕ)
deriving DecidableEq

/-- The reply: a refusal, the line that was matched, or the order that is packed. -/
inductive Reply where
  | refused (refusal : Refusal)
  | verified (soLineId : ℕ) (quantity : ℤ)
  | packed (soId : ℕ)
deriving DecidableEq

/-- A request of the two kinds. -/
abbrev PackProgram := Program Statement Answer Reply

/-! ## The requests -/

structure VerifyPackItemRequest where
  soId : ℕ
  scannedBarcode : String
  quantity : ℤ
  quantityPos : 0 < quantity
  quantityMax : quantity ≤ 100000

/-- The first line that matches the barcode and has units left to verify. -/
def matchedLine (scannedBarcode : String) (lines : List LineRead) : Option LineRead :=
  lines.find? fun line => barcodeMatches scannedBarcode line.item &&
    decide (line.quantityPacked < line.columns.quantityPicked)

def noMatch (scannedBarcode : String) (lines : List LineRead) : Refusal :=
  if lines.any fun line => barcodeMatches scannedBarcode line.item then .alreadyVerified
  else .itemNotFound

def verifyItem (scope : WarehouseScope) (request : VerifyPackItemRequest) : PackProgram :=
  .exec (.findOrder scope request.soId) fun status =>
    match status with
    | none => .reply false (.refused .orderNotFound)
    | some status =>
        if status ≠ .picked then .reply false (.refused (.notReady status))
        else
          .exec (.readLines request.soId) fun lines =>
            match matchedLine request.scannedBarcode lines with
            | none => .reply false (.refused (noMatch request.scannedBarcode lines))
            | some line =>
                let remaining := line.columns.quantityPicked - line.quantityPacked
                if remaining < request.quantity then
                  .reply false (.refused (.overPack remaining))
                else
                  .exec (.setPacked line (line.quantityPacked + request.quantity)) fun _ =>
                    .reply true (.verified line.soLineId request.quantity)

def completePacking (scope : WarehouseScope) (soId : ℕ) : PackProgram :=
  .exec (.lockOrder scope soId) fun status =>
    match status with
    | none => .reply false (.refused .orderNotFound)
    | some status =>
        if status ≠ .picked then .reply false (.refused (.notReady status))
        else
          .exec (.countUnverified soId) fun (unverified : ℕ) =>
            if 0 < unverified then .reply false (.refused (.unverified unverified))
            else
              .exec (.silentlyShort soId) fun lines =>
                match lines with
                | first :: rest =>
                    .reply false (.refused (.underPicked first.item.sku
                      first.columns.quantityOrdered first.columns.quantityPicked rest.length))
                | [] => .exec (.markPacked soId) fun _ => .reply true (.packed soId)

inductive PackRequest where
  | verify (scope : WarehouseScope) (request : VerifyPackItemRequest)
  | complete (scope : WarehouseScope) (soId : ℕ)

def PackRequest.program : PackRequest → PackProgram
  | .verify scope request => verifyItem scope request
  | .complete scope soId => completePacking scope soId

/-! ## Execution -/

/-- The order in which a query without `ORDER BY` returns its rows. -/
structure RowOrder (ρ : Type*) where
  order : List ρ → List ρ
  perm : ∀ rows, (order rows).Perm rows

def RowOrder.byKey (ρ : Type*) : RowOrder ρ where
  order := id
  perm := List.Perm.refl

def orderInScope (db : Database) (txn : ℕ) (scope : WarehouseScope) (soId : ℕ) :
    Option SoStatus :=
  ((rowByKey db.orders txn soId).filter fun row => scope.allows row.1.warehouseId).map
    Prod.snd

/-- The lines of an order that a transaction sees, with their items. -/
def linesSeen (db : Database) (txn soId : ℕ) : List LineRead :=
  ((rowsSeen db.lines txn).filter fun row => row.2.1.soId == soId).filterMap fun row =>
    (db.items.get? row.2.1.itemId).map fun item => ⟨row.1, row.2.1, row.2.2, item⟩

/-- The lines of an order with units left to verify. -/
def unverifiedLines (db : Database) (txn soId : ℕ) : List (ℕ × LineColumns × ℤ) :=
  (rowsSeen db.lines txn).filter fun row =>
    row.2.1.soId == soId && decide (row.2.2 < row.2.1.quantityPicked)

/-- Execute a statement, if the row it writes is free. -/
def perform (rowOrder : RowOrder LineRead) (db : Database) (txn : ℕ) :
    (statement : Statement) → Option (Database × Answer statement)
  | .findOrder scope soId => some (db, orderInScope db txn scope soId)
  | .readLines soId => some (db, rowOrder.order (linesSeen db txn soId))
  | .setPacked line quantityPacked =>
      (writeKey db.lines txn line.soLineId fun _ => quantityPacked).map fun lines =>
        ({ db with lines }, ())
  | .lockOrder scope soId =>
      match orderInScope db txn scope soId with
      | none => some (db, none)
      | some _ =>
          (writeKey db.orders txn soId id).map fun orders =>
            ({ db with orders }, (rowByKey orders txn soId).map Prod.snd)
  | .countUnverified soId => some (db, (unverifiedLines db txn soId).length)
  | .silentlyShort soId =>
      some (db, (linesSeen db txn soId).filter fun line =>
        decide (line.columns.quantityPicked < line.columns.quantityOrdered) &&
          !db.shortMarked.contains line.soLineId)
  | .markPacked soId =>
      (writeKey db.orders txn soId fun _ => .packed).map fun orders => ({ db with orders }, ())

/-- The database as the sessions use it. -/
def engine (rowOrder : RowOrder LineRead) : Engine Database Statement Answer where
  perform := perform rowOrder
  commit := fun db txn =>
    { db with orders := commitRows db.orders txn, lines := commitRows db.lines txn }
  rollback := fun db txn =>
    { db with orders := rollbackRows db.orders txn, lines := rollbackRows db.lines txn }

/-- The requests in progress on a database, and the replies given. -/
abbrev PackSystem := System Database Statement Answer Reply

end SentryWms.Packing
