import SentryWms.Receiving.Receive

/-!
# Stock entry by scanning

`stock_entry` adds a scanned product to a bin. An unknown code becomes a provisional
item. The idempotency key is looked up before the bin is, so a retry answers from the
first request whatever its own body says.
-/

namespace SentryWms

open Relational

/-! ## Refusals -/

/-- What `stock_entry` answers when no stock is entered. -/
inductive StockEntryError where
  | codeMissing
  | eanInvalid
  | productCodeInvalid
  | quantityInvalid
  | receiveForbidden
  | accessDenied
  | binNotFound
  | skusExhausted (baseSku : String)

/-! ## Codes -/

/-- The character class `[A-Za-z0-9._/+*-]`. -/
def isCodeChar (char : Char) : Bool :=
  char.isAlphanum || "._/+*-".toList.contains char

/-- A code of bounded length that starts with a letter or a digit. -/
def validCode (allowed : Char → Bool) (least most : ℕ) (code : String) : Bool :=
  match code.toList with
  | [] => false
  | first :: rest =>
      first.isAlphanum && rest.all allowed &&
        decide (least ≤ code.length ∧ code.length ≤ most)

def validScannedProductCode (code : String) : Bool :=
  validCode isCodeChar 6 50 code

def validManufacturerCode (code : String) : Bool :=
  validCode (fun char => isCodeChar char || char == ' ') 1 64 code

def dashRuns : Bool → List Char → List Char
  | _, [] => []
  | inRun, char :: rest =>
      if isCodeChar char then char :: dashRuns false rest
      else if inRun then dashRuns true rest
      else '-' :: dashRuns true rest

/-- `str.strip("-")`. -/
def stripDashes (chars : List Char) : List Char :=
  ((chars.dropWhile (· == '-')).reverse.dropWhile (· == '-')).reverse

/-- `_provisional_sku`, under the hexadecimal digest of the library. -/
def provisionalSku (sha256 : String → String) (barcode : String) : String :=
  let stripped := stripDashes (dashRuns false barcode.toList)
  let safeCode := if stripped.isEmpty then "ITEM".toList else stripped
  if 5 + safeCode.length ≤ 50 then String.ofList ("SCAN-".toList ++ safeCode)
  else
    String.ofList ("SCAN-".toList ++ safeCode.take 34 ++ "-".toList ++
      (sha256 barcode).toList.take 10)

/-! ## The item -/

/-- A parsed stock entry, its codes stripped. -/
structure StockEntryRequest where
  warehouseId : ℕ
  binId : ℕ
  quantity : ℤ
  idempotencyKey : String
  ean : String
  productCode : String

def StockEntryRequest.lookupCode (request : StockEntryRequest) : String :=
  if request.ean = "" then request.productCode else request.ean

def Store.skuTaken (store : Store) (sku : String) : Bool :=
  store.items.entries.any fun entry => entry.2.sku == sku

def numberedSku (baseSku : String) (suffix : ℕ) : String :=
  let suffixText := s!"-{suffix}"
  String.ofList (baseSku.toList.take (50 - suffixText.length)) ++ suffixText

/-- The first free SKU: the plain one, or one of those numbered from two. There are
more candidates than items. -/
def Store.freeSku (store : Store) (baseSku : String) : Option String :=
  (baseSku :: (List.range (store.items.entries.length + 1)).map fun index =>
    numberedSku baseSku (index + 2)).find? fun sku => !store.skuTaken sku

def Item.carries (request : StockEntryRequest) (item : Item) : Bool :=
  item.upc == some request.lookupCode ||
    item.barcodeAliases.contains request.lookupCode ||
    request.productCode != "" && item.mpn == some request.productCode

def nullIfEmpty (text : String) : Option String :=
  if text = "" then none else some text

/-- Find the item of a request or create a provisional one; the code of the
manufacturer is noted on an item that has another one. -/
def findOrCreateItem (store : Store) (sha256 : String → String)
    (request : StockEntryRequest) : Except StockEntryError (Store × ℕ × Bool) :=
  match store.items.entries.find? fun entry => entry.2.carries request with
  | some (itemId, item) =>
      if request.productCode ≠ "" ∧ item.mpn ≠ some request.productCode then
        .ok ({ store with
          items := store.items.modify itemId fun item =>
            { item with mpn := some request.productCode } }, itemId, false)
      else .ok (store, itemId, false)
  | none =>
      match store.freeSku (provisionalSku sha256 request.lookupCode) with
      | none => .error (.skusExhausted (provisionalSku sha256 request.lookupCode))
      | some sku =>
          .ok ({ store with
            items := store.items.insert
              { sku, upc := nullIfEmpty request.ean, barcodeAliases := [],
                mpn := nullIfEmpty request.productCode } },
            store.items.next, true)

/-! ## The entry -/

/-- What `stock_entry` returns. -/
structure StockEntryResult where
  stockEntryId : ℕ
  idempotentReplay : Bool
  itemId : ℕ
  quantityAdded : ℤ
  quantityInBin : ℤ
  createdProvisionalItem : Bool

/-- The checks that come before the database is read. -/
def checkStockEntry (scope : WarehouseScope) (mayReceive : Bool)
    (request : StockEntryRequest) : Except StockEntryError Unit :=
  if request.lookupCode = "" then .error .codeMissing
  else if request.ean ≠ "" ∧ ¬ validScannedProductCode request.ean then
    .error .eanInvalid
  else if request.productCode ≠ "" ∧ ¬ validManufacturerCode request.productCode then
    .error .productCodeInvalid
  else if request.quantity < 1 ∨ 100000 < request.quantity then .error .quantityInvalid
  else if scope.warehouseIds.isSome ∧ ¬ mayReceive then .error .receiveForbidden
  else if ¬ scope.allows request.warehouseId then .error .accessDenied
  else .ok ()

def Store.stockEntryByKey (store : Store) (idempotencyKey : String) :
    Option (ℕ × MobileStockEntry) :=
  store.mobileStockEntries.entries.find? fun entry =>
    entry.2.idempotencyKey == idempotencyKey

/-- Enter the units of a request in the bin it names. -/
def enterStock (store : Store) (sha256 : String → String)
    (request : StockEntryRequest) : Except StockEntryError (Store × StockEntryResult) := do
  let (found, itemId, provisional) ← findOrCreateItem store sha256 request
  let stocked := (addInventory found itemId request.binId request.warehouseId
    request.quantity none).1
  let entered : Store :=
    { stocked with
      mobileStockEntries := stocked.mobileStockEntries.insert
        { idempotencyKey := request.idempotencyKey, itemId, binId := request.binId,
          warehouseId := request.warehouseId, quantity := request.quantity } }
  .ok (releaseSatisfiableBackorders entered request.warehouseId itemId,
    { stockEntryId := stocked.mobileStockEntries.next, idempotentReplay := false, itemId,
      quantityAdded := request.quantity
      quantityInBin := entered.binOnHand itemId request.binId
      createdProvisionalItem := provisional })

def stockEntry (store : Store) (sha256 : String → String) (scope : WarehouseScope)
    (mayReceive : Bool) (request : StockEntryRequest) :
    Except StockEntryError (Store × StockEntryResult) := do
  checkStockEntry scope mayReceive request
  match store.stockEntryByKey request.idempotencyKey with
  | some (stockEntryId, entry) =>
      .ok (store,
        { stockEntryId, idempotentReplay := true, itemId := entry.itemId
          quantityAdded := entry.quantity
          quantityInBin := store.binOnHand entry.itemId entry.binId
          createdProvisionalItem := false })
  | none =>
      match (store.bins.get? request.binId).filter fun bin =>
          bin.warehouseId == request.warehouseId && bin.isActive with
      | none => .error .binNotFound
      | some _ => enterStock store sha256 request

end SentryWms
