import SentryWms.Catalog.Products

/-!
# The rows of a CSV import

The row schemas of `schemas/csv_import.py`. A record that is not an object is read like the
empty one. A schema answers with the first of its errors, as `_validate_row` shows it: the key,
and the message that pydantic gives.
-/

namespace SentryWms.CsvImport

open Python

/-- What the model takes from pydantic, PostgreSQL and its driver: integers and decimals out
of JSON values, lower case, dates, and what an integer column makes of a text or a float. -/
structure Readers where
  intOf : Value → Except String ℤ
  decimalOf : Value → Except String ℚ
  lower : String → String
  dateOf : String → Option String
  weightOf : ℚ → ℚ
  columnInt : Value → Option ℤ

variable (library : Catalog.Library) (readers : Readers)

/-! ## Fields -/

/-- `rec if isinstance(rec, dict) else {}`. -/
def fieldsOf : Value → Dict
  | .object entries => entries
  | _ => []

def under {α : Type} (key : String) : Except String α → Except String α
  | .error message => .error s!"{key}: {message}"
  | .ok value => .ok value

def formulaPrefixes : List Char :=
  ['=', '+', '-', '@', '\t', '\r']

/-- `repr` of one of the prefixes. -/
def reprChar : Char → String
  | '\t' => "'\\t'"
  | '\r' => "'\\r'"
  | char => "'" ++ String.singleton char ++ "'"

/-- `_reject_formula_prefix`, of a value that is not null. -/
def rejectFormulaPrefix (value : Value) : Except String String :=
  let content := Catalog.str library value
  match content.toList with
  | char :: _ =>
      if formulaPrefixes.contains char then
        .error ("Value error, Cell cannot start with " ++ reprChar char ++
          " (formula injection prevention)")
      else .ok content
  | [] => .ok content

/-- The lengths of a text field. -/
def checkLength (minLength maxLength : ℕ) (content : String) : Except String String :=
  if content.length < minLength then .error "String should have at least 1 character"
  else if maxLength < content.length then
    .error s!"String should have at most {maxLength} characters"
  else .ok content

def textOf (key : String) (minLength maxLength : ℕ) (value : Value) : Except String String :=
  under key do
    let content ← rejectFormulaPrefix library value
    checkLength minLength maxLength content

/-- `Optional[str] = Field(None, max_length=...)`. -/
def optionalText (entries : Dict) (key : String) (maxLength : ℕ) :
    Except String (Option String) :=
  match entries.get? key with
  | none | some .null => .ok none
  | some value => (textOf library key 0 maxLength value).map some

/-- `str = Field(..., min_length=1, max_length=...)`. -/
def requiredText (entries : Dict) (key : String) (maxLength : ℕ) : Except String String :=
  match entries.get? key with
  | none => under key (.error "Field required")
  | some .null => under key (.error "Input should be a valid string")
  | some value => textOf library key 1 maxLength value

inductive Bound where
  | le (limit : ℤ)
  | ge (limit : ℤ)
  | gt (limit : ℤ)

def Bound.holds (number : ℚ) : Bound → Bool
  | le limit => decide (number ≤ limit)
  | ge limit => decide ((limit : ℚ) ≤ number)
  | gt limit => decide ((limit : ℚ) < number)

def Bound.message : Bound → String
  | le limit => s!"Input should be less than or equal to {limit}"
  | ge limit => s!"Input should be greater than or equal to {limit}"
  | gt limit => s!"Input should be greater than {limit}"

def checkBounds {α : Type} (ratOf : α → ℚ) (bounds : List Bound) (number : α) :
    Except String α :=
  match bounds.find? fun bound => !bound.holds (ratOf number) with
  | some bound => .error bound.message
  | none => .ok number

/-- A number of either kind that holds a value. -/
def numberOf {α : Type} (read : Value → Except String α) (ratOf : α → ℚ) (key : String)
    (bounds : List Bound) (value : Value) : Except String α :=
  under key do
    let number ← read value
    checkBounds ratOf bounds number

/-- `Optional[int] = Field(None, ...)`. -/
def optionalInt (entries : Dict) (key : String) (bounds : List Bound) :
    Except String (Option ℤ) :=
  match entries.get? key with
  | none | some .null => .ok none
  | some value => (numberOf readers.intOf (fun number => number) key bounds value).map some

/-- `int = Field(..., ...)`. -/
def requiredInt (entries : Dict) (key : String) (bounds : List Bound) : Except String ℤ :=
  match entries.get? key with
  | none => under key (.error "Field required")
  | some value => numberOf readers.intOf (fun number => number) key bounds value

/-- `Optional[Decimal] = Field(None, ...)`. -/
def optionalDecimal (entries : Dict) (key : String) (bounds : List Bound) :
    Except String (Option ℚ) :=
  match entries.get? key with
  | none | some .null => .ok none
  | some value => (numberOf readers.decimalOf id key bounds value).map some

def orText (left right : Option String) : Option String :=
  if (left.getD "") = "" then right else left

/-- `left or right`, of integers. -/
def orInt (left right : Option ℤ) : Option ℤ :=
  if left.getD 0 = 0 then right else left

/-- `left if left is not None else right`. -/
def orNull {α : Type} (left right : Option α) : Option α :=
  match left with
  | some value => some value
  | none => right

/-! ## Items -/

structure ItemImportRow where
  sku : String
  itemName : Option String
  name : Option String
  description : Option String
  upc : Option String
  mpn : Option String
  category : Option String
  weightLbs : Option ℚ
  weight : Option ℚ
  defaultBin : Option String
  quantity : Option ℤ
  qty : Option ℤ

/-- `ItemImportRow(**rec)`. -/
def itemImportRow (record : Value) : Except String ItemImportRow := do
  let entries := fieldsOf record
  let sku ← requiredText library entries "sku" 128
  let itemName ← optionalText library entries "item_name" 256
  let name ← optionalText library entries "name" 256
  let description ← optionalText library entries "description" 1000
  let upc ← optionalText library entries "upc" 128
  let mpn ← optionalText library entries "mpn" 64
  let category ← optionalText library entries "category" 128
  let weightLbs ← optionalDecimal readers entries "weight_lbs" [.le 99999, .ge 0]
  let weight ← optionalDecimal readers entries "weight" [.le 99999, .ge 0]
  let defaultBin ← optionalText library entries "default_bin" 64
  let quantity ← optionalInt readers entries "quantity" [.le 1000000, .ge 0]
  let qty ← optionalInt readers entries "qty" [.le 1000000, .ge 0]
  return { sku, itemName, name, description, upc, mpn, category, weightLbs, weight,
           defaultBin, quantity, qty }

namespace ItemImportRow

variable (row : ItemImportRow)

def resolvedName : Option String :=
  orText row.itemName row.name

def resolvedWeight : Option ℚ :=
  orNull row.weightLbs row.weight

def resolvedQuantity : Option ℤ :=
  orNull row.quantity row.qty

end ItemImportRow

/-! ## Bins -/

structure BinImportRow where
  binCode : String
  binBarcode : Option String
  zone : Option String
  zoneId : Option ℤ
  warehouseId : Option ℤ
  binType : Option String
  aisle : Option String
  rowNum : Option String
  levelNum : Option String
  positionNum : Option String
  pickSequence : Option ℤ
  putawaySequence : Option ℤ
  description : Option String

/-- `BinImportRow(**rec)`. -/
def binImportRow (record : Value) : Except String BinImportRow := do
  let entries := fieldsOf record
  let binCode ← requiredText library entries "bin_code" 64
  let binBarcode ← optionalText library entries "bin_barcode" 128
  let zone ← optionalText library entries "zone" 64
  let zoneId ← optionalInt readers entries "zone_id" [.gt 0]
  let warehouseId ← optionalInt readers entries "warehouse_id" [.gt 0]
  let binType ← optionalText library entries "bin_type" 32
  let aisle ← optionalText library entries "aisle" 32
  let rowNum ← optionalText library entries "row_num" 10
  let levelNum ← optionalText library entries "level_num" 10
  let positionNum ← optionalText library entries "position_num" 10
  let pickSequence ← optionalInt readers entries "pick_sequence" [.ge 0]
  let putawaySequence ← optionalInt readers entries "putaway_sequence" [.ge 0]
  let description ← optionalText library entries "description" 200
  return { binCode, binBarcode, zone, zoneId, warehouseId, binType, aisle, rowNum, levelNum,
           positionNum, pickSequence, putawaySequence, description }

/-! ## Orders -/

structure PurchaseOrderImportRow where
  poNumber : String
  sku : String
  quantity : Option ℤ
  quantityExpected : Option ℤ
  warehouseId : Option ℤ
  vendor : Option String
  expectedDate : Option String

/-- `PurchaseOrderImportRow(**rec)`. -/
def purchaseOrderImportRow (record : Value) : Except String PurchaseOrderImportRow := do
  let entries := fieldsOf record
  let poNumber ← requiredText library entries "po_number" 128
  let sku ← requiredText library entries "sku" 128
  let quantity ← optionalInt readers entries "quantity" [.le 1000000, .gt 0]
  let quantityExpected ← optionalInt readers entries "quantity_expected" [.le 1000000, .gt 0]
  let warehouseId ← optionalInt readers entries "warehouse_id" [.gt 0]
  let vendor ← optionalText library entries "vendor" 200
  let expectedDate ← optionalText library entries "expected_date" 32
  return { poNumber, sku, quantity, quantityExpected, warehouseId, vendor, expectedDate }

def PurchaseOrderImportRow.resolvedQuantity (row : PurchaseOrderImportRow) : Option ℤ :=
  orNull row.quantity row.quantityExpected

/-- The components of an address, which bound their columns alike. -/
def addressFields : List (String × ℕ) :=
  ["billing", "shipping"].flatMap fun kind =>
    [("name", 200), ("line1", 200), ("line2", 200), ("city", 100), ("state", 100),
      ("postal_code", 32), ("country", 64), ("phone", 64)].map fun field =>
        (kind ++ "_address_" ++ field.1, field.2)

structure SalesOrderImportRow where
  soNumber : String
  sku : String
  quantity : Option ℤ
  quantityOrdered : Option ℤ
  warehouseId : Option ℤ
  customer : Option String
  customerPhone : Option String
  customerAddress : Option String
  /-- One value for each of `addressFields`. -/
  addresses : List (Option String)

/-- `SalesOrderImportRow(**rec)`. -/
def salesOrderImportRow (record : Value) : Except String SalesOrderImportRow := do
  let entries := fieldsOf record
  let soNumber ← requiredText library entries "so_number" 128
  let sku ← requiredText library entries "sku" 128
  let quantity ← optionalInt readers entries "quantity" [.le 1000000, .gt 0]
  let quantityOrdered ← optionalInt readers entries "quantity_ordered" [.le 1000000, .gt 0]
  let warehouseId ← optionalInt readers entries "warehouse_id" [.gt 0]
  let customer ← optionalText library entries "customer" 256
  let customerPhone ← optionalText library entries "customer_phone" 64
  let customerAddress ← optionalText library entries "customer_address" 512
  let addresses ← addressFields.mapM fun field => optionalText library entries field.1 field.2
  return { soNumber, sku, quantity, quantityOrdered, warehouseId, customer, customerPhone,
           customerAddress, addresses }

def SalesOrderImportRow.resolvedQuantity (row : SalesOrderImportRow) : Option ℤ :=
  orNull row.quantity row.quantityOrdered

/-! ## Adjustments -/

structure InventoryAdjustmentImportRow where
  sku : String
  warehouse : String
  bin : String
  qty : ℤ
  memo : Option String
  nonzero : qty ≠ 0

/-- `InventoryAdjustmentImportRow(**rec)`; `_qty_nonzero` runs with the field. -/
def inventoryAdjustmentImportRow (record : Value) :
    Except String InventoryAdjustmentImportRow := do
  let entries := fieldsOf record
  let sku ← requiredText library entries "sku" 128
  let warehouse ← requiredText library entries "warehouse" 64
  let bin ← requiredText library entries "bin" 64
  let qty ← requiredInt readers entries "qty" [.le 1000000, .ge (-1000000)]
  if hzero : qty = 0 then
    under "qty" (.error "Value error, qty must be non-zero")
  else
    let memo ← optionalText library entries "memo" 500
    return { sku, warehouse, bin, qty, memo, nonzero := hzero }

end SentryWms.CsvImport
