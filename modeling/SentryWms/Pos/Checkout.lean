import SentryWms.Core.Transition
import SentryWms.Pos.Cart

/-!
# Checkout at the point of sale

`checkout` of `pos.py` takes the lines of a cart one after the other, in the
order of item and bin, and each from the first row of its location alone. A
counter sale takes the units out of stock, a phone order reserves them.
-/

namespace SentryWms

open Relational

/-! ## Requests and answers -/

/-- `order_type` of a checkout. -/
inductive CheckoutType where
  | sale
  | replacement
  | exchange

def CheckoutType.orderType : CheckoutType → OrderType
  | .sale => .sale
  | .replacement => .replacement
  | .exchange => .exchange

/-- An item that comes back in an exchange. -/
structure ReturnedItem where
  sku : String
  quantity : ℤ
  quantityMin : 1 ≤ quantity
  quantityMax : quantity ≤ 10000

/-- `CheckoutBody`, with the canonical hash of the request. -/
structure CheckoutBody where
  idempotencyKey : String
  bodyHash : String
  cart : Cart
  isPhoneOrder : Bool
  orderType : Option CheckoutType
  parentSoNumber : Option String
  returnedItems : List ReturnedItem
  paymentMethod : PaymentMethod
  completedAt : ℕ
  backorder : Bool
  locationUnlessBackorder : backorder = false →
    ∀ line ∈ cart.lines, line.warehouseCode ≠ "" ∧ line.binCode ≠ ""

/-- The type of the order; none counts as a sale. -/
def CheckoutBody.type (body : CheckoutBody) : CheckoutType :=
  body.orderType.getD .sale

/-- Why a line cannot be fulfilled. -/
inductive FulfillmentFailure where
  | unresolvedSku
  | unresolvedLocation
  | notDecremented (availableQty : ℤ)

/-- What a checkout answers when it does not create an order. -/
inductive CheckoutError where
  | idempotencyKeyReused (existingSoId : String)
  | lockContention
  | warehouseNotInScope (lineIndex : ℕ) (warehouseCode : String)
  | fulfillmentFailed (failedLineIndex : ℕ) (sku warehouseCode binCode : String)
      (failure : FulfillmentFailure)
  | parentSoRequired
  | parentSoNotFound
  | backorderWarehouseUnavailable (code : String)
  | returnedItemUnknownSku (sku : String)
  | returnedItemNotOnParent (sku : String) (parentSoNumber : Option String)
  | noSuffix (orderType : OrderType)
  | soNumberTaken (soNumber : String)

/-- The `error_kind` of an answer; the last two are exceptions that the route does
not catch. -/
def CheckoutError.kind : CheckoutError → String
  | .idempotencyKeyReused _ => "idempotency_key_reused_with_different_body"
  | .lockContention => "lock_contention"
  | .warehouseNotInScope _ _ => "warehouse_not_in_scope"
  | .fulfillmentFailed _ _ _ _ _ => "fulfillment_failed"
  | .parentSoRequired => "parent_so_required"
  | .parentSoNotFound => "parent_so_not_found"
  | .backorderWarehouseUnavailable _ => "backorder_warehouse_unavailable"
  | .returnedItemUnknownSku _ => "returned_item_unknown_sku"
  | .returnedItemNotOnParent _ _ => "returned_item_not_on_parent"
  | .noSuffix _ => "ValueError"
  | .soNumberTaken _ => "IntegrityError"

/-- The answer of an accepted checkout, and whether it was replayed. -/
structure CheckoutResponse where
  soNumber : String
  replayed : Bool

/-! ## Before the order -/

def Store.orderByKey (store : Store) (idempotencyKey : String) :
    Option (SalesOrder × Idempotency) :=
  store.salesOrders.entries.findSome? fun entry =>
    (entry.2.idempotency.filter fun record => record.key == idempotencyKey).map
      fun record => (entry.2, record)

/-- Answer a repeated request from the order that it created. -/
def replay (store : Store) (body : CheckoutBody) :
    Except CheckoutError (Option CheckoutResponse) :=
  match store.orderByKey body.idempotencyKey with
  | none => .ok none
  | some (order, record) =>
      if record.bodyHash ≠ body.bodyHash then
        .error (.idempotencyKeyReused order.soNumber)
      else .ok (record.cachedResponse.map fun soNumber => ⟨soNumber, true⟩)

/-- The warehouse of a line is out of the token's scope; a code that does not
resolve is left to the lookup of the lines. -/
def CartLine.outOfScope (store : Store) (tokenWarehouseIds : List ℕ)
    (line : CartLine) : Bool :=
  (store.warehouseByCode line.warehouseCode).any fun warehouseId =>
    !tokenWarehouseIds.contains warehouseId

/-- Reject the first line out of scope. -/
def checkScope (store : Store) (tokenWarehouseIds : List ℕ) (cart : Cart) :
    Except CheckoutError Unit :=
  match cart.lines.zipIdx.find? fun entry =>
      entry.1.outOfScope store tokenWarehouseIds with
  | none => .ok ()
  | some (line, lineIndex) =>
      .error (.warehouseNotInScope lineIndex line.warehouseCode)

structure StockLine where
  idx : ℕ
  line : CartLine
  location : Location

def CartLine.failure (idx : ℕ) (line : CartLine) (failure : FulfillmentFailure) :
    CheckoutError :=
  .fulfillmentFailed idx line.sku line.warehouseCode line.binCode failure

/-- The line's item is known and active. -/
def ResolvedLine.hasItem (row : ResolvedLine) : Bool :=
  row.item.any fun entry => entry.2.isActive

def locateLine (row : ResolvedLine) : Except CheckoutError StockLine :=
  match row.location with
  | some location =>
      if row.hasItem then .ok { idx := row.idx, line := row.line, location }
      else .error (row.line.failure row.idx .unresolvedLocation)
  | none => .error (row.line.failure row.idx .unresolvedLocation)

/-- Find the item of a backorder line, which has no location. -/
def identifyLine (row : ResolvedLine) : Except CheckoutError (ResolvedLine × ℕ) :=
  match row.item with
  | some (itemId, item) =>
      if item.isActive then .ok (row, itemId)
      else .error (row.line.failure row.idx .unresolvedSku)
  | none => .error (row.line.failure row.idx .unresolvedSku)

/-! ## Order numbers -/

def OrderType.soSuffix : OrderType → Option String
  | .replacement => some "REPLACEMENT"
  | .exchange => some "EXCHANGE"
  | .return => some "RMA"
  | .refund => some "REFUND"
  | .sale => none
  | .backorder => none

def mintChildSoNumber (store : Store) (parentSoId : ℕ) (parentSoNumber : String)
    (orderType : OrderType) : Except CheckoutError String :=
  match orderType.soSuffix with
  | none => .error (.noSuffix orderType)
  | some suffix =>
      match (store.salesOrders.select fun order =>
          order.parentSoId == some parentSoId && order.orderType == orderType).length
      with
      | 0 => .ok s!"{parentSoNumber}-{suffix}"
      | existing + 1 => .ok s!"{parentSoNumber}-{suffix}-{existing + 1 + 1}"

/-- The number of the new order, and the parent of a replacement or exchange. -/
def orderNumber (store : Store) (tokenWarehouseIds : List ℕ) (body : CheckoutBody) :
    Except CheckoutError (String × Option ℕ) :=
  match body.type with
  | .sale => .ok (s!"POS-{store.salesOrders.next}", none)
  | type =>
      match body.parentSoNumber.filter fun parentSoNumber => parentSoNumber != "" with
      | none => .error .parentSoRequired
      | some parentSoNumber =>
          match store.salesOrders.entries.find? fun entry =>
              entry.2.soNumber == parentSoNumber &&
                tokenWarehouseIds.contains entry.2.warehouseId with
          | none => .error .parentSoNotFound
          | some (parentSoId, parent) => do
              let soNumber ←
                mintChildSoNumber store parentSoId parent.soNumber type.orderType
              .ok (soNumber, some parentSoId)

def Store.soNumberTaken (store : Store) (soNumber : String) : Bool :=
  store.salesOrders.entries.any fun entry => entry.2.soNumber == soNumber

/-- Insert an order; a number in use violates the unique constraint. -/
def insertSalesOrder (store : Store) (order : SalesOrder) :
    Except CheckoutError (Store × ℕ) :=
  if store.soNumberTaken order.soNumber then
    .error (.soNumberTaken order.soNumber)
  else
    .ok ({ store with salesOrders := store.salesOrders.insert order },
      store.salesOrders.next)

/-- The order that a checkout creates. Only a counter sale is shipped at once. -/
def CheckoutBody.order (body : CheckoutBody) (now : ℕ) (status : SoStatus)
    (warehouseId : ℕ) (number : String × Option ℕ) : SalesOrder where
  soNumber := number.1
  soBarcode := some number.1
  status := status
  warehouseId := warehouseId
  orderType := body.type.orderType
  parentSoId := number.2
  cancellationReason := none
  idempotency := some
    { key := body.idempotencyKey, bodyHash := body.bodyHash, cachedResponse := none }
  shippedAt := if body.isPhoneOrder || body.backorder then none
    else some body.completedAt
  createdAt := now
  orderSource := .pos

/-- `INSERT INTO sales_orders … ON CONFLICT (idempotency_key) DO NOTHING`. A key in
use at this point belongs to an order without a cached response. -/
def insertCheckoutOrder (store : Store) (body : CheckoutBody) (status : SoStatus)
    (warehouseId : ℕ) (number : String × Option ℕ) :
    Except CheckoutError (Store × ℕ) :=
  match store.orderByKey body.idempotencyKey with
  | some _ => .error .lockContention
  | none => insertSalesOrder store (body.order store.now status warehouseId number)

def Store.insertLine (store : Store) (line : SalesOrderLine) : Store :=
  { store with salesOrderLines := store.salesOrderLines.insert line }

/-! ## The stock gate -/

def Store.firstRow (store : Store) (location : Location) : Option (ℕ × Inventory) :=
  store.inventory.entries.find? fun entry => entry.2.atLocation location

def Store.firstAvailable (store : Store) (location : Location) : ℤ :=
  match store.firstRow location with
  | none => 0
  | some entry => entry.2.available

def StockLine.orderLine (isPhoneOrder : Bool) (soId : ℕ) (line : StockLine) :
    SalesOrderLine :=
  { soId, itemId := line.location.itemId, lineNumber := line.idx + 1,
    quantityOrdered := line.line.quantity,
    quantityAllocated := if isPhoneOrder then line.line.quantity else 0,
    quantityPicked := if isPhoneOrder then 0 else line.line.quantity,
    quantityPacked := if isPhoneOrder then 0 else line.line.quantity,
    quantityShipped := if isPhoneOrder then 0 else line.line.quantity }

def takeUnits (isPhoneOrder : Bool) (now : ℕ) (quantity : ℤ) (row : Inventory) :
    Inventory :=
  if isPhoneOrder then
    { row with
      quantityAllocated := row.quantityAllocated + quantity, updatedAt := now }
  else
    { row with quantityOnHand := row.quantityOnHand - quantity, updatedAt := now }

def takeLine (isPhoneOrder : Bool) (soId : ℕ) (store : Store) (line : StockLine) :
    Except CheckoutError Store :=
  match store.firstRow line.location with
  | none => .error (line.line.failure line.idx (.notDecremented 0))
  | some (inventoryId, row) =>
      if row.available < line.line.quantity then
        .error (line.line.failure line.idx (.notDecremented row.available))
      else
        let ordered := store.insertLine (line.orderLine isPhoneOrder soId)
        .ok { ordered with
          inventory := ordered.inventory.modify inventoryId
            (takeUnits isPhoneOrder store.now line.line.quantity) }

def sortLines (lines : List StockLine) : List StockLine :=
  lines.insertionSort fun left right =>
    toLex (left.location.itemId, left.location.binId) ≤
      toLex (right.location.itemId, right.location.binId)

/-! ## Returns of an exchange -/

def returnLine (store : Store) (body : CheckoutBody) (parentSoId : ℕ)
    (returned : ReturnedItem) : Except CheckoutError (ℕ × ℤ) :=
  match store.itemBySku returned.sku with
  | none => .error (.returnedItemUnknownSku returned.sku)
  | some (itemId, _) =>
      if store.salesOrderLines.entries.any fun entry =>
          entry.2.soId == parentSoId && entry.2.itemId == itemId then
        .ok (itemId, returned.quantity)
      else .error (.returnedItemNotOnParent returned.sku body.parentSoNumber)

def createRma (store : Store) (originalSoId : ℕ) (lines : List (ℕ × ℤ)) :
    Except CheckoutError Store :=
  match store.salesOrders.get? originalSoId with
  | none => .error .parentSoNotFound
  | some original => do
      let soNumber ←
        mintChildSoNumber store originalSoId original.soNumber .return
      let (store, soId) ← insertSalesOrder store
        { soNumber, soBarcode := some soNumber, status := .open,
          warehouseId := original.warehouseId, orderType := .return,
          parentSoId := some originalSoId, cancellationReason := none,
          createdAt := store.now, orderSource := original.orderSource }
      .ok (lines.zipIdx.foldl (fun store entry =>
        store.insertLine
          { soId, itemId := entry.1.1, lineNumber := entry.2 + 1,
            quantityOrdered := entry.1.2, quantityAllocated := 0,
            quantityPicked := 0 }) store)

def bookReturns (store : Store) (body : CheckoutBody) (parentSoId : Option ℕ) :
    Except CheckoutError Store :=
  match body.type, parentSoId, body.returnedItems with
  | .exchange, some parentSoId, first :: rest => do
      let lines ← (first :: rest).mapM (returnLine store body parentSoId)
      createRma store parentSoId lines
  | _, _, _ => .ok store

/-! ## Checkout -/

def Store.cacheResponse (store : Store) (soId : ℕ) (soNumber : String) : Store :=
  { store with
    salesOrders := store.salesOrders.modify soId fun order =>
      { order with
        idempotency := order.idempotency.map fun record =>
          { record with cachedResponse := some soNumber } } }

/-- The line as the audit log keeps it. -/
def CartLine.saleLine (line : CartLine) : SaleLine where
  sku := line.sku
  warehouseCode := line.warehouseCode
  binCode := line.binCode
  quantity := line.quantity

def Store.auditCheckout (store : Store) (soId : ℕ) (body : CheckoutBody) : Store :=
  { store with
    posCheckouts := store.posCheckouts.insert
      { soId, paymentMethod := body.paymentMethod,
        lines := body.cart.lines.map CartLine.saleLine } }

def finishCheckout (store : Store) (body : CheckoutBody) (soId : ℕ)
    (number : String × Option ℕ) : Except CheckoutError (Store × CheckoutResponse) := do
  let store ← bookReturns store body number.2
  .ok ((store.auditCheckout soId body).cacheResponse soId number.1,
    { soNumber := number.1, replayed := false })

/-- The warehouse backorders are assigned to: the one with the configured code, or
without a code the only one. -/
def backorderWarehouse (store : Store) (code : String) : Except CheckoutError ℕ :=
  let warehouse :=
    if code = "" then
      match store.warehouses.entries with
      | [(warehouseId, _)] => some warehouseId
      | _ => none
    else store.warehouseByCode code
  match warehouse with
  | none => .error (.backorderWarehouseUnavailable code)
  | some warehouseId => .ok warehouseId

/-- The steps of a checkout without stock. -/
def checkoutBackorder (store : Store) (backorderCode : String)
    (tokenWarehouseIds : List ℕ) (body : CheckoutBody) :
    Except CheckoutError (Store × CheckoutResponse) := do
  let items ← (resolveLines store body.cart).mapM identifyLine
  let number ← orderNumber store tokenWarehouseIds body
  let warehouseId ← backorderWarehouse store backorderCode
  let (store, soId) ←
    insertCheckoutOrder store body .waitingStock warehouseId number
  let store := items.foldl (fun store entry =>
    store.insertLine
      { soId, itemId := entry.2, lineNumber := entry.1.idx + 1,
        quantityOrdered := entry.1.line.quantity, quantityAllocated := 0,
        quantityPicked := 0 }) store
  finishCheckout store body soId number

/-- The warehouse of the first line, which the order is filed under. -/
def headerWarehouse (lines : List StockLine) : ℕ :=
  match lines with
  | [] => 0
  | first :: _ => first.location.warehouseId

def checkoutStock (store : Store) (tokenWarehouseIds : List ℕ) (body : CheckoutBody) :
    Except CheckoutError (Store × CheckoutResponse) := do
  let lines ← (resolveLines store body.cart).mapM locateLine
  let number ← orderNumber store tokenWarehouseIds body
  let (store, soId) ← insertCheckoutOrder store body
    (if body.isPhoneOrder then .open else .shipped) (headerWarehouse lines) number
  let store ← (sortLines lines).foldlM (takeLine body.isPhoneOrder soId) store
  finishCheckout store body soId number

/-- `checkout`, under the configured code of the backorder warehouse. -/
def checkout (store : Store) (backorderCode : String) (tokenWarehouseIds : List ℕ)
    (body : CheckoutBody) : Except CheckoutError (Store × CheckoutResponse) := do
  match ← replay store body with
  | some response => .ok (store, response)
  | none =>
      checkScope store tokenWarehouseIds body.cart
      if body.backorder then
        checkoutBackorder store backorderCode tokenWarehouseIds body
      else checkoutStock store tokenWarehouseIds body

end SentryWms
