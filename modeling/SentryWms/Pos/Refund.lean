import SentryWms.Pos.Checkout

/-!
# Refunds at the point of sale

`refund` of `pos.py` takes what was sold from the audit row of the checkout, not
from the lines of the order. Each refund is a credit memo: an order of type
`refund` under the sale whose lines carry negative quantities. What a request asks
for is compared with the sale location by location, what all memos of the sale
refund together item by item.
-/

namespace SentryWms

open Relational

/-! ## Requests and answers -/

/-- `RefundBody`, with the canonical hash of the request. Without lines the whole
sale is refunded. -/
structure RefundBody where
  idempotencyKey : String
  bodyHash : String
  originalSoId : String
  method : PaymentMethod
  completedAt : ℕ
  lines : Option Cart
  locationGiven : ∀ cart, lines = some cart →
    ∀ line ∈ cart.lines, line.warehouseCode ≠ "" ∧ line.binCode ≠ ""

inductive MissingOriginal where
  | order
  | audit
  | lines
  | locations
  | inventoryRow

/-- Why a requested line is no line of the sale. -/
inductive LineMismatch where
  | unresolved
  | exceedsLocation

/-- What a refund answers when it does not create a credit memo. -/
inductive RefundError where
  | idempotencyKeyReused (existingRefundSoId : String)
  | lockContention
  | originalSoNotFound (missing : MissingOriginal)
  | alreadyRefunded (existingRefundSoId : Option String)
  | refundWindowExpired (originalCreatedAt : ℕ)
  | tenderMismatch (originalMethod refundMethod : PaymentMethod)
  | refundLineNotInOrder (mismatch : LineMismatch) (sku warehouseCode binCode : String)
  | refundExceedsRemaining (sku : String) (shipped alreadyRefunded requested : ℤ)
  | uncaught (error : CheckoutError)

/-- The answer of an accepted refund, and whether it was replayed. -/
structure RefundResponse where
  cached : CachedRefund
  replayed : Bool

/-! ## The sale -/

/-- Answer a repeated request from the memo that it created. -/
def replayRefund (store : Store) (body : RefundBody) :
    Except RefundError (Option RefundResponse) :=
  match store.orderByKey body.idempotencyKey with
  | none => .ok none
  | some (order, record) =>
      if record.bodyHash ≠ body.bodyHash then
        .error (.idempotencyKeyReused order.soNumber)
      else .ok (record.cachedRefund.map fun cached => ⟨cached, true⟩)

def findOriginal (store : Store) (tokenWarehouseIds : List ℕ) (body : RefundBody) :
    Option (ℕ × SalesOrder) :=
  store.salesOrders.entries.find? fun entry =>
    entry.2.soNumber == body.originalSoId && entry.2.orderSource == .pos &&
      entry.2.orderType == .sale && tokenWarehouseIds.contains entry.2.warehouseId

/-- `_REFUND_WINDOW_DAYS`, in seconds. -/
def refundWindow : ℕ := 90 * 86400

/-- The sale can be refunded: not refunded in full, shipped, and recent. -/
def checkOriginal (store : Store) (original : SalesOrder) : Except RefundError Unit :=
  if original.refundedAt.isSome ∨ original.refundSoId.isSome then
    .error (.alreadyRefunded
      ((original.refundSoId.bind store.salesOrders.get?).map SalesOrder.soNumber))
  else if original.status ≠ .shipped then .error (.originalSoNotFound .order)
  else if original.createdAt + refundWindow < store.now then
    .error (.refundWindowExpired original.createdAt)
  else .ok ()

def Store.auditOf (store : Store) (soId : ℕ) : Option PosCheckout :=
  (store.posCheckouts.entries.find? fun entry => entry.2.soId == soId).map Prod.snd

/-! ## Lines -/

def SaleLine.codes (line : SaleLine) : String × String × String :=
  (line.sku, line.warehouseCode, line.binCode)

def resolveLocation (store : Store) (line : SaleLine) : Option Location := do
  let item ← store.itemBySku line.sku
  let warehouseId ← store.warehouseByCode line.warehouseCode
  let binId ← store.binByCode warehouseId line.binCode
  some { itemId := item.1, warehouseId, binId }

structure PlacedLine where
  idx : ℕ
  line : SaleLine
  location : Location

def placeLine (store : Store) (line : SaleLine) (idx : ℕ) : Except SaleLine PlacedLine :=
  match resolveLocation store line with
  | none => .error line
  | some location => .ok { idx, line, location }

/-- `_bulk_resolve_locations`, up to the first line that does not resolve. -/
def bulkResolveLocations (store : Store) (lines : List SaleLine) :
    Except SaleLine (List PlacedLine) :=
  lines.zipIdx.mapM fun entry => placeLine store entry.1 entry.2

def codeQuantity (lines : List PlacedLine) (codes : String × String × String) : ℤ :=
  ((lines.filter fun placed => placed.line.codes == codes).map
    fun placed => placed.line.quantity).sum

def itemQuantity (lines : List PlacedLine) (itemId : ℕ) : ℤ :=
  ((lines.filter fun placed => placed.location.itemId == itemId).map
    fun placed => placed.line.quantity).sum

def originalLines (store : Store) (originalSoId : ℕ) (body : RefundBody) :
    Except RefundError (List PlacedLine) :=
  match store.auditOf originalSoId with
  | none => .error (.originalSoNotFound .audit)
  | some audit =>
      if audit.paymentMethod ≠ body.method then
        .error (.tenderMismatch audit.paymentMethod body.method)
      else if audit.lines.isEmpty then .error (.originalSoNotFound .lines)
      else
        match bulkResolveLocations store audit.lines with
        | .error _ => .error (.originalSoNotFound .locations)
        | .ok lines => .ok lines

/-- The sale has no line with these codes, or the lines of the request want more
there. -/
def PlacedLine.exceeds (original requested : List PlacedLine) (placed : PlacedLine) :
    Bool :=
  !(original.any fun sold => sold.line.codes == placed.line.codes) ||
    decide (codeQuantity original placed.line.codes <
      codeQuantity requested placed.line.codes)

def requestedLines (store : Store) (body : RefundBody) (original : List PlacedLine) :
    Except RefundError (List PlacedLine) :=
  match body.lines with
  | none => .ok original
  | some cart =>
      match bulkResolveLocations store (cart.lines.map CartLine.saleLine) with
      | .error line =>
          .error (.refundLineNotInOrder .unresolved line.sku line.warehouseCode
            line.binCode)
      | .ok requested =>
          match requested.find? (PlacedLine.exceeds original requested) with
          | some placed =>
              .error (.refundLineNotInOrder .exceedsLocation placed.line.sku
                placed.line.warehouseCode placed.line.binCode)
          | none => .ok requested

/-! ## What was refunded before -/

def Store.isMemoOf (store : Store) (originalSoId soId : ℕ) : Bool :=
  (store.salesOrders.get? soId).any fun memo =>
    memo.parentSoId == some originalSoId && memo.orderType == .refund

def Store.refundLedger (store : Store) (originalSoId : ℕ) : List (ℕ × ℤ) :=
  (store.salesOrderLines.select fun line => store.isMemoOf originalSoId line.soId).map
    fun entry => (entry.2.itemId, -entry.2.quantityShipped)

def ledgerUnits (ledger : List (ℕ × ℤ)) (itemId : ℕ) : ℤ :=
  ((ledger.filter fun entry => entry.1 == itemId).map Prod.snd).sum

def Store.refundedUnits (store : Store) (originalSoId itemId : ℕ) : ℤ :=
  ledgerUnits (store.refundLedger originalSoId) itemId

/-- Reject the first item of which more would be refunded than was sold. -/
def checkRemaining (store : Store) (originalSoId : ℕ)
    (original requested : List PlacedLine) : Except RefundError Unit :=
  match requested.find? fun placed =>
      decide (itemQuantity original placed.location.itemId <
        store.refundedUnits originalSoId placed.location.itemId +
          itemQuantity requested placed.location.itemId) with
  | none => .ok ()
  | some placed =>
      let itemId := placed.location.itemId
      .error (.refundExceedsRemaining placed.line.sku (itemQuantity original itemId)
        (store.refundedUnits originalSoId itemId) (itemQuantity requested itemId))

def fullyRefunded (store : Store) (originalSoId : ℕ)
    (original requested : List PlacedLine) : Bool :=
  original.all fun placed =>
    store.refundedUnits originalSoId placed.location.itemId +
      itemQuantity requested placed.location.itemId ==
        itemQuantity original placed.location.itemId

/-! ## The credit memo -/

def RefundBody.memo (body : RefundBody) (now originalSoId : ℕ) (original : SalesOrder)
    (soNumber : String) : SalesOrder where
  soNumber := soNumber
  soBarcode := some soNumber
  status := .shipped
  warehouseId := original.warehouseId
  orderType := .refund
  parentSoId := some originalSoId
  cancellationReason := none
  idempotency := some
    { key := body.idempotencyKey, bodyHash := body.bodyHash, cachedResponse := none }
  shippedAt := some body.completedAt
  createdAt := now
  orderSource := .pos

/-- Number and insert the credit memo. A key in use at this point belongs to an order
without a cached response. -/
def insertMemo (store : Store) (body : RefundBody) (originalSoId : ℕ)
    (original : SalesOrder) : Except RefundError (Store × ℕ × String) :=
  match mintChildSoNumber store originalSoId original.soNumber .refund with
  | .error error => .error (.uncaught error)
  | .ok soNumber =>
      match store.orderByKey body.idempotencyKey with
      | some _ => .error .lockContention
      | none =>
          match insertSalesOrder store
              (body.memo store.now originalSoId original soNumber) with
          | .error error => .error (.uncaught error)
          | .ok (inserted, memoSoId) => .ok (inserted, memoSoId, soNumber)

/-- A line of a credit memo: all quantities are negative. -/
def PlacedLine.memoLine (placed : PlacedLine) (memoSoId : ℕ) : SalesOrderLine where
  soId := memoSoId
  itemId := placed.location.itemId
  lineNumber := placed.idx + 1
  quantityOrdered := -placed.line.quantity
  quantityAllocated := 0
  quantityPicked := -placed.line.quantity
  quantityPacked := -placed.line.quantity
  quantityShipped := -placed.line.quantity

/-- Book one line and put its units back on the first row of its location. -/
def restockLine (memoSoId : ℕ) (store : Store) (placed : PlacedLine) :
    Except RefundError Store :=
  match store.firstRow placed.location with
  | none => .error (.originalSoNotFound .inventoryRow)
  | some (inventoryId, _) =>
      let booked := store.insertLine (placed.memoLine memoSoId)
      .ok { booked with
        inventory := booked.inventory.modify inventoryId fun row =>
          { row with
            quantityOnHand := row.quantityOnHand + placed.line.quantity
            updatedAt := store.now } }

def sortPlaced (lines : List PlacedLine) : List PlacedLine :=
  lines.insertionSort fun left right =>
    toLex (left.location.itemId, left.location.binId) ≤
      toLex (right.location.itemId, right.location.binId)

def SalesOrder.close (now memoSoId : ℕ) (order : SalesOrder) : SalesOrder :=
  { order with
    refundedAt := some now, refundSoId := some memoSoId, status := .refunded }

/-- Mark the sale refunded in full. -/
def Store.closeOriginal (store : Store) (originalSoId memoSoId : ℕ) : Store :=
  { store with
    salesOrders := store.salesOrders.modify originalSoId
      (SalesOrder.close store.now memoSoId) }

/-- The order of a credit memo with its cached response. -/
def CachedRefund.record (cached : CachedRefund) (order : SalesOrder) : SalesOrder :=
  { order with
    idempotency := order.idempotency.map fun record =>
      { record with cachedRefund := some cached } }

def Store.cacheRefund (store : Store) (memoSoId : ℕ) (cached : CachedRefund) : Store :=
  { store with salesOrders := store.salesOrders.modify memoSoId cached.record }

/-! ## Refund -/

/-- Write the credit memo of a refund that passed its checks. -/
def writeRefund (store : Store) (body : RefundBody) (originalSoId : ℕ)
    (original : SalesOrder) (lines requested : List PlacedLine) :
    Except RefundError (Store × RefundResponse) := do
  let (inserted, memoSoId, soNumber) ← insertMemo store body originalSoId original
  let restocked ← (sortPlaced requested).foldlM (restockLine memoSoId) inserted
  let full := fullyRefunded store originalSoId lines requested
  let closed := if full then restocked.closeOriginal originalSoId memoSoId else restocked
  let cached : CachedRefund :=
    { refundSoId := soNumber, originalSoId := original.soNumber, fullyRefunded := full }
  .ok (closed.cacheRefund memoSoId cached, { cached, replayed := false })

/-- The steps of a refund that is not answered from an earlier one. -/
def refundOriginal (store : Store) (body : RefundBody) (originalSoId : ℕ)
    (original : SalesOrder) : Except RefundError (Store × RefundResponse) := do
  checkOriginal store original
  let lines ← originalLines store originalSoId body
  let requested ← requestedLines store body lines
  checkRemaining store originalSoId lines requested
  writeRefund store body originalSoId original lines requested

def refund (store : Store) (tokenWarehouseIds : List ℕ) (body : RefundBody) :
    Except RefundError (Store × RefundResponse) := do
  match ← replayRefund store body with
  | some response => .ok (store, response)
  | none =>
      match findOriginal store tokenWarehouseIds body with
      | none => .error (.originalSoNotFound .order)
      | some (originalSoId, original) => refundOriginal store body originalSoId original

end SentryWms
