import SentryWms.Admin.ImportRows
import SentryWms.Core.RowImport
import SentryWms.Core.Varchar
import SentryWms.Receiving.Receive

/-!
# The CSV import

`csv_import` of `admin_items.py` with its five importers. All records of a file are imported in
one transaction; only `_SkipRow` is caught, so a statement that the database refuses ends the
request before the commit. The audit row and the event of an adjustment say what its own row
says and are left out.
-/

namespace SentryWms.CsvImport

open Python Relational Postgres RowImport RowImport.RowResult

/-! ## The tables -/

structure ItemRow where
  sku : String
  itemName : String
  description : Option String
  upc : Option String
  mpn : Option String
  category : Option String
  weightLbs : Option ℚ
  defaultBinId : Option ℕ

structure ZoneRow where
  warehouseId : ℕ
  zoneCode : String
  zoneName : String

/-- A row of `bins`; the import takes any type. -/
structure BinRow where
  zoneId : ℕ
  warehouseId : ℕ
  binCode : String
  binBarcode : String
  binType : String
  aisle : Option String
  rowNum : Option String
  levelNum : Option String
  positionNum : Option String
  pickSequence : ℤ
  putawaySequence : ℤ
  description : Option String

/-- The bin as the release of backorders sees it, which picks from two types only. -/
def BinRow.toBin (row : BinRow) : Bin where
  warehouseId := row.warehouseId
  binCode := row.binCode
  binType :=
    if row.binType = "Pickable" then .pickable
    else if row.binType = "PickableStaging" then .pickableStaging
    else .staging
  pickSequence := row.pickSequence

structure PurchaseOrderRow where
  poNumber : String
  poBarcode : String
  vendorName : Option String
  expectedDate : Option String
  warehouseId : ℕ

/-- The customer and the addresses of a row of `sales_orders`. -/
structure SalesOrderParties where
  customerName : Option String
  customerPhone : Option String
  customerAddress : Option String
  addresses : List (Option String)

/-- A row of `inventory_adjustments`. -/
structure AdjustmentRow where
  itemId : ℕ
  binId : ℕ
  warehouseId : ℕ
  quantityChange : ℤ
  reasonDetail : Option String

/-- The transaction of an import. The warehouses, the stock, the sales orders and the lines of
both kinds of order are those of the store. `_released_pairs` goes along. -/
structure ImportState where
  stock : Store := {}
  items : Table ItemRow := .empty
  zones : Table ZoneRow := .empty
  bins : Table BinRow := .empty
  purchaseOrders : Table PurchaseOrderRow := .empty
  salesOrderParties : List (ℕ × SalesOrderParties) := []
  adjustments : Table AdjustmentRow := .empty
  releasedPairs : List (ℕ × ℕ) := []

/-- The key of the first row that satisfies a condition. -/
def keyWhere {ρ : Type} (table : Table ρ) (cond : ρ → Bool) : Option ℕ :=
  (table.entries.find? fun entry => cond entry.2).map Prod.fst

/-- Look a row up by an integer. -/
def rowAt {ρ : Type} (table : Table ρ) (key : ℤ) : Option ρ :=
  if 0 ≤ key then table.get? key.toNat else none

variable (library : Catalog.Library) (readers : Readers)

/-- What an integer column makes of a JSON value. -/
def columnInt : Value → Option ℤ
  | .int number => some number
  | .float content => readers.columnInt (.float content)
  | .text content => if plain content then readers.columnInt (.text content) else none
  | _ => none

/-- What `DATE` stores of `row.expected_date or None`. -/
def dateColumn : Option String → Option (Option String)
  | none => some none
  | some content =>
      if content = "" then some none
      else if plain content then (readers.dateOf content).map some
      else none

namespace ImportState

variable (state : ImportState)

/-- `SELECT 1 FROM items WHERE sku = :sku`. -/
def hasSku (sku : String) : Bool :=
  (keyWhere state.items fun row => row.sku == sku).isSome

/-- `SELECT 1 FROM items WHERE upc = :upc`, of a UPC that is given. -/
def hasUpc (upc : String) : Bool :=
  upc != "" && (keyWhere state.items fun row => row.upc == some upc).isSome

/-- `SELECT bin_id FROM bins WHERE bin_code = :code`, of a code that is given. -/
def defaultBinOf (code : String) : Option ℕ :=
  if code = "" then none else keyWhere state.bins fun row => row.binCode == code

/-- `SELECT 1 FROM bins WHERE warehouse_id = :wid AND bin_code = :code`. -/
def binIn (warehouseId : ℕ) (code : String) : Option ℕ :=
  keyWhere state.bins fun row => row.warehouseId == warehouseId && row.binCode == code

def zoneNamed (name : String) (warehouseId : Option ℤ) : Option ℕ :=
  keyWhere state.zones fun row =>
    (readers.lower row.zoneCode == readers.lower name ||
      readers.lower row.zoneName == readers.lower name) &&
    warehouseId.all fun warehouseId => (row.warehouseId : ℤ) == warehouseId

/-- `SELECT item_id FROM items WHERE sku = :sku`. -/
def itemOfSku (sku : String) : Option ℕ :=
  keyWhere state.items fun row => row.sku == sku

/-- `SELECT po_id FROM purchase_orders WHERE po_number = :pn`. -/
def poOfNumber (poNumber : String) : Option ℕ :=
  keyWhere state.purchaseOrders fun row => row.poNumber == poNumber

/-- `SELECT so_id FROM sales_orders WHERE so_number = :sn`. -/
def soOfNumber (soNumber : String) : Option ℕ :=
  keyWhere state.stock.salesOrders fun row => row.soNumber == soNumber

/-- `SELECT warehouse_id FROM warehouses WHERE warehouse_code = :code`. -/
def warehouseOfCode (code : String) : Option ℕ :=
  keyWhere state.stock.warehouses fun row => row.warehouseCode == code

/-- What a reference to `warehouses` stores of a JSON value. -/
def warehouseRef (value : Value) : Option ℕ :=
  match columnInt readers value with
  | some key => if (rowAt state.stock.warehouses key).isSome then some key.toNat else none
  | none => none

/-- `COALESCE(MAX(line_number), 0)` of a purchase order. -/
def maxPoLine (poId : ℕ) : ℤ :=
  ((state.stock.purchaseOrderLines.select fun line => line.poId == poId).map fun entry =>
    entry.2.lineNumber).max?.getD 0

/-- `COALESCE(MAX(line_number), 0)` of a sales order. -/
def maxSoLine (soId : ℕ) : ℤ :=
  ((state.stock.salesOrderLines.select fun line => line.soId == soId).map fun entry =>
    entry.2.lineNumber).max?.getD 0

/-- The row that an adjustment locks. -/
def stockIn (itemId binId : ℕ) : Option (ℕ × Inventory) :=
  state.stock.inventory.entries.find? fun entry => entry.2.inBin itemId binId

/-- The bins as the release of backorders sees them. -/
def storeBins : Table Bin where
  entries := state.bins.entries.map fun entry => (entry.1, entry.2.toBin)
  next := state.bins.next
  sorted := by simpa [Function.comp_def] using state.bins.sorted
  fresh := by simpa [Function.comp_def] using state.bins.fresh

end ImportState

/-! ## Items -/

/-- What the columns of `items` store. -/
def itemRow (row : ItemImportRow) (name : String) (defaultBinId : Option ℕ) :
    Option ItemRow := do
  let sku ← varchar 50 row.sku
  let itemName ← varchar 200 name
  let description ← nullable 1000 row.description
  let upc ← nullable 50 row.upc
  let mpn ← nullable 64 row.mpn
  let category ← nullable 100 row.category
  return { sku, itemName, description, upc, mpn, category,
           weightLbs := row.resolvedWeight.map readers.weightOf, defaultBinId }

def stockNewItem (state : ImportState) (itemId : ℕ) (defaultBinId : Option ℕ) (qty : ℤ) :
    ImportState :=
  match defaultBinId with
  | some binId =>
      if 0 < qty then
        { state with
          stock :=
            { state.stock with
              inventory := state.stock.inventory.insert
                { itemId, binId,
                  warehouseId := ((state.bins.get? binId).map BinRow.warehouseId).getD 1,
                  quantityOnHand := qty, quantityAllocated := 0, lotNumber := none,
                  updatedAt := state.stock.now } } }
      else state
  | none => state

def importItem (state : ImportState) (row : ItemImportRow) : RowResult ImportState :=
  let name := row.resolvedName.getD ""
  let upc := row.upc.getD ""
  let defaultBin := row.defaultBin.getD ""
  skipIf (name == "") "Missing required field: name" state <|
  accept (plain row.sku) <|
  skipIf (state.hasSku row.sku) s!"Duplicate SKU: {row.sku}" state <|
  accept (plain upc) <|
  skipIf (state.hasUpc upc) s!"Duplicate UPC: {upc}" state <|
  accept (plain defaultBin) <|
  orRaise (itemRow readers row name (state.defaultBinOf defaultBin)) fun item =>
  accept (!state.hasSku item.sku) <|
  imported (stockNewItem { state with items := state.items.insert item } state.items.next
    item.defaultBinId (row.resolvedQuantity.getD 0))

/-! ## Bins -/

/-- What the columns of `bins` store. -/
def binRow (row : BinImportRow) (zoneId warehouseId : ℕ) : Option BinRow := do
  let binCode ← varchar 50 row.binCode
  let binBarcode ← varchar 100 ((orText row.binBarcode (some row.binCode)).getD "")
  let binType ← varchar 50 ((orText row.binType (some "Pickable")).getD "")
  let aisle ← nullable 10 row.aisle
  let rowNum ← nullable 10 row.rowNum
  let levelNum ← nullable 10 row.levelNum
  let positionNum ← nullable 10 row.positionNum
  let pickSequence ← int4 (row.pickSequence.getD 0)
  let putawaySequence ← int4 (row.putawaySequence.getD 0)
  let description ← nullable 200 row.description
  return { zoneId, warehouseId, binCode, binBarcode, binType, aisle, rowNum, levelNum,
           positionNum, pickSequence, putawaySequence, description }

/-- The zone of a record: the one it gives by number, or else the one it names. -/
def zoneIdOf (state : ImportState) (row : BinImportRow) (zoneValue : String) : Option ℤ :=
  let named :=
    if zoneValue = "" then none else state.zoneNamed readers zoneValue row.warehouseId
  (orInt row.zoneId (named.map fun zoneId => (zoneId : ℤ))).filter fun zoneId => zoneId != 0

def importBin (state : ImportState) (row : BinImportRow) : RowResult ImportState :=
  let zoneValue := Catalog.cleaned (row.zone.getD "")
  let missing :=
    if zoneValue = "" then "Missing required field: zone (or zone_id)"
    else s!"Zone '{zoneValue}' not found. Create the zone first, then import bins."
  accept (row.zoneId.getD 0 != 0 || plain zoneValue) <|
  orSkip (zoneIdOf readers state row zoneValue) missing state fun zoneId =>
  orSkip (rowAt state.zones zoneId) s!"Zone id {zoneId} not found" state fun zone =>
  let warehouseId := row.warehouseId.getD 0
  skipIf (warehouseId != 0 && warehouseId != zone.warehouseId)
    (s!"Zone id {zoneId} belongs to warehouse {zone.warehouseId}, " ++
      s!"not warehouse {warehouseId}") state <|
  -- warehouse_id or zone_record.warehouse_id: the two agree by now
  skipIf (state.stock.warehouses.get? zone.warehouseId).isNone
    s!"Warehouse id {zone.warehouseId} not found" state <|
  accept (plain row.binCode) <|
  skipIf (state.binIn zone.warehouseId row.binCode).isSome
    s!"Duplicate bin_code: {row.binCode}" state <|
  orRaise (binRow row zoneId.toNat zone.warehouseId) fun bin =>
  accept (state.binIn bin.warehouseId bin.binCode).isNone <|
  imported { state with bins := state.bins.insert bin }

/-! ## Orders -/

/-- `row.warehouse_id or default_warehouse_id`, if it counts as true. -/
def warehouseValue (warehouseId : Option ℤ) (defaultWarehouseId : Option Value) :
    Option Value :=
  if warehouseId.getD 0 = 0 then defaultWarehouseId.filter Value.truthy
  else warehouseId.map Value.int

/-- What the columns of `purchase_orders` store. -/
def purchaseOrderRow (state : ImportState) (row : PurchaseOrderImportRow) (warehouse : Value) :
    Option PurchaseOrderRow := do
  let poNumber ← varchar 50 row.poNumber
  let poBarcode ← varchar 100 row.poNumber
  let vendorName ← nullable 200 row.vendor
  let expectedDate ← dateColumn readers row.expectedDate
  let warehouseId ← state.warehouseRef readers warehouse
  return { poNumber, poBarcode, vendorName, expectedDate, warehouseId }

def addPoLine (state : ImportState) (poId itemId : ℕ) (quantity : ℤ) : RowResult ImportState :=
  orRaise (int4 (state.maxPoLine poId + 1)) fun lineNumber =>
  imported
    { state with
      stock :=
        { state.stock with
          purchaseOrderLines := state.stock.purchaseOrderLines.insert
            { poId, itemId, lineNumber, quantityOrdered := quantity, quantityReceived := 0,
              status := .pending } } }

def importPurchaseOrder (defaultWarehouseId : Option Value) (state : ImportState)
    (row : PurchaseOrderImportRow) : RowResult ImportState :=
  let quantity := row.resolvedQuantity.getD 0
  skipIf (decide (quantity ≤ 0)) "quantity must be > 0" state <|
  orSkip (warehouseValue row.warehouseId defaultWarehouseId)
    "Missing required field: warehouse_id" state fun warehouse =>
  accept (plain row.sku) <|
  orSkip (state.itemOfSku row.sku) s!"Item not found: {row.sku}" state fun itemId =>
  accept (plain row.poNumber) <|
  match state.poOfNumber row.poNumber with
  | some poId => addPoLine state poId itemId quantity
  | none =>
      orRaise (purchaseOrderRow readers state row warehouse) fun order =>
      accept (state.poOfNumber order.poNumber).isNone <|
      addPoLine { state with purchaseOrders := state.purchaseOrders.insert order }
        state.purchaseOrders.next itemId quantity

/-- What the columns of `sales_orders` store. -/
def salesOrderRow (state : ImportState) (row : SalesOrderImportRow) (warehouse : Value) :
    Option (SalesOrder × SalesOrderParties) := do
  let soNumber ← varchar 128 row.soNumber
  let soBarcode ← varchar 100 row.soNumber
  let customerName ← nullable 200 row.customer
  let customerPhone ← nullable 50 row.customerPhone
  let customerAddress ←
    if row.customerAddress.all plain then some row.customerAddress else none
  let warehouseId ← state.warehouseRef readers warehouse
  let addresses ← (addressFields.zip row.addresses).mapM fun entry =>
    nullable entry.1.2 entry.2
  let order : SalesOrder :=
    { soNumber, soBarcode := some soBarcode, status := .open, warehouseId, orderType := .sale,
      parentSoId := none, cancellationReason := none, createdAt := state.stock.now }
  return (order, { customerName, customerPhone, customerAddress, addresses })

def addSoLine (state : ImportState) (soId itemId : ℕ) (quantity : ℤ) : RowResult ImportState :=
  orRaise (int4 (state.maxSoLine soId + 1)) fun lineNumber =>
  imported
    { state with
      stock :=
        { state.stock with
          salesOrderLines := state.stock.salesOrderLines.insert
            { soId, itemId, lineNumber, quantityOrdered := quantity, quantityAllocated := 0,
              quantityPicked := 0 } } }

def insertSalesOrder (state : ImportState) (order : SalesOrder) (parties : SalesOrderParties) :
    ImportState :=
  { state with
    stock := { state.stock with salesOrders := state.stock.salesOrders.insert order }
    salesOrderParties := state.salesOrderParties ++ [(state.stock.salesOrders.next, parties)] }

def importSalesOrder (defaultWarehouseId : Option Value) (state : ImportState)
    (row : SalesOrderImportRow) : RowResult ImportState :=
  let quantity := row.resolvedQuantity.getD 0
  skipIf (decide (quantity ≤ 0)) "quantity must be > 0" state <|
  orSkip (warehouseValue row.warehouseId defaultWarehouseId)
    "Missing required field: warehouse_id" state fun warehouse =>
  accept (plain row.sku) <|
  orSkip (state.itemOfSku row.sku) s!"Item not found: {row.sku}" state fun itemId =>
  accept (plain row.soNumber) <|
  match state.soOfNumber row.soNumber with
  | some soId => addSoLine state soId itemId quantity
  | none =>
      orRaise (salesOrderRow readers state row warehouse) fun columns =>
      accept (state.soOfNumber columns.1.soNumber).isNone <|
      addSoLine (insertSalesOrder state columns.1 columns.2) state.stock.salesOrders.next
        itemId quantity

/-! ## Adjustments -/

def recordAdjustment (state : ImportState) (itemId binId warehouseId : ℕ)
    (row : InventoryAdjustmentImportRow) : RowResult ImportState :=
  orRaise (nullable 500 row.memo) fun reasonDetail =>
  imported
    { state with
      adjustments := state.adjustments.insert
        { itemId, binId, warehouseId, quantityChange := row.qty, reasonDetail } }

def addToBin (state : ImportState) (itemId binId warehouseId : ℕ)
    (row : InventoryAdjustmentImportRow) : RowResult ImportState :=
  let added := addInventory state.stock itemId binId warehouseId row.qty none
  accept (int4 added.2).isSome <|
  recordAdjustment
    { state with
      stock := added.1, releasedPairs := state.releasedPairs.insert (warehouseId, itemId) }
    itemId binId warehouseId row

def takeFromBin (state : ImportState) (itemId binId warehouseId : ℕ)
    (row : InventoryAdjustmentImportRow) : RowResult ImportState :=
  let insufficient (available : ℤ) : String :=
    s!"Insufficient inventory at bin '{row.bin}' for sku '{row.sku}': " ++
      s!"available {available}, requested {-row.qty}"
  match state.stockIn itemId binId with
  | none => skipIf (decide (0 < -row.qty)) (insufficient 0) state raised
  | some (inventoryId, inv) =>
      skipIf (decide (inv.quantityOnHand < -row.qty)) (insufficient inv.quantityOnHand) state <|
      recordAdjustment
        { state with
          stock := setInventoryQuantity state.stock inventoryId (inv.quantityOnHand + row.qty) }
        itemId binId warehouseId row

def importInventoryAdjustment (state : ImportState) (row : InventoryAdjustmentImportRow) :
    RowResult ImportState :=
  accept (plain row.sku) <|
  orSkip (state.itemOfSku row.sku) s!"Item not found for sku '{row.sku}'" state fun itemId =>
  accept (plain row.warehouse) <|
  orSkip (state.warehouseOfCode row.warehouse)
    s!"Warehouse not found for code '{row.warehouse}'" state fun warehouseId =>
  accept (plain row.bin) <|
  orSkip (state.binIn warehouseId row.bin)
    s!"Bin '{row.bin}' not found in warehouse '{row.warehouse}'" state fun binId =>
  if 0 < row.qty then addToBin state itemId binId warehouseId row
  else takeFromBin state itemId binId warehouseId row

/-! ## Files -/

/-- The keys of `_IMPORT_ROW_SCHEMAS`. -/
inductive EntityType where
  | items
  | bins
  | purchaseOrders
  | salesOrders
  | inventoryAdjustments

/-- The keys under which a body may hold the records. -/
def EntityType.recordKeys : EntityType → List String
  | items => ["records", "items", "items"]
  | bins => ["records", "bins", "bins"]
  | purchaseOrders => ["records", "purchase-orders", "purchase_orders"]
  | salesOrders => ["records", "sales-orders", "sales_orders"]
  | inventoryAdjustments => ["records", "inventory-adjustments", "inventory_adjustments"]

/-- One turn of the loop. -/
def importRecord (entityType : EntityType) (defaultWarehouseId : Option Value)
    (state : ImportState) (record : Value) : RowResult ImportState :=
  match entityType with
  | .items => orReject (itemImportRow library readers record) state (importItem readers state)
  | .bins => orReject (binImportRow library readers record) state (importBin readers state)
  | .purchaseOrders =>
      orReject (purchaseOrderImportRow library readers record) state
        (importPurchaseOrder readers defaultWarehouseId state)
  | .salesOrders =>
      orReject (salesOrderImportRow library readers record) state
        (importSalesOrder readers defaultWarehouseId state)
  | .inventoryAdjustments =>
      orReject (inventoryAdjustmentImportRow library readers record) state
        (importInventoryAdjustment state)

/-- `sorted(_released_pairs)`. -/
def sortedPairs (pairs : List (ℕ × ℕ)) : List (ℕ × ℕ) :=
  pairs.insertionSort fun left right => left.1 < right.1 ∨ left.1 = right.1 ∧ left.2 ≤ right.2

def releaseImported (state : ImportState) : ImportState :=
  let released := (sortedPairs state.releasedPairs).foldl
    (fun store pair => releaseSatisfiableBackorders store pair.1 pair.2)
    { state.stock with bins := state.storeBins }
  { state with stock := { state.stock with salesOrders := released.salesOrders } }

structure ImportAnswer where
  total : ℕ
  imported : ℕ
  skipped : ℕ
  errors : List (ℕ × String)

/-- How a request ends; only a complete import commits. -/
inductive Outcome where
  | badRequest (error : String)
  | failed
  | complete (answer : ImportAnswer) (state : ImportState)

/-- The records of a body: the first value of the three that counts as true. -/
def recordsOf (entityType : EntityType) (data : Dict) : Option Value :=
  (entityType.recordKeys.filterMap fun key => data.get? key).find? Value.truthy

def csvImport (entityType : EntityType) (state : ImportState) (data : Dict) : Outcome :=
  match recordsOf entityType data with
  | none => .badRequest "records array is required"
  | some records =>
      match Catalog.iterate records with
      | none => .failed
      | some records =>
          if 5000 < records.length then .badRequest "Import limited to 5000 records per file"
          else
            match importRows
                (importRecord library readers entityType (data.get? "warehouse_id"))
                { state with releasedPairs := [] } records with
            | none => .failed
            | some progress =>
                .complete
                  { total := records.length, imported := progress.imported,
                    skipped := progress.errors.length, errors := progress.errors }
                  (releaseImported progress.state)

end SentryWms.CsvImport
