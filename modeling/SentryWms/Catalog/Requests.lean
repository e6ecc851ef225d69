import SentryWms.Catalog.Pricing
import SentryWms.Picking.Task
import SentryWms.Receiving.StockEntry

/-!
# The requests that write products

Every route that writes the codes, the catalogue identity or the price of an item, each
as one transaction: a refused request leaves the database as it is. A discovery is kept
under its item, of which it is the only one. The database also carries a clock and the
moment at which the catalogue identity of each item last changed; no request reads them.
-/

namespace SentryWms.Catalog

open Python Relational

/-! ## The database -/

/-- `item_catalog_discoveries.status`. -/
inductive DiscoveryStatus where
  | pending
  | matched
  | manual
  | ignored
deriving DecidableEq

/-- A row of `item_catalog_discoveries`. -/
structure Discovery where
  scannedEan : String
  status : DiscoveryStatus
  payload : Option Dict := none

/-- The store, the discovery and the price of each item, and the history. -/
structure Database where
  store : Store
  discoveries : ℕ → Option Discovery := fun _ => none
  pricing : ℕ → Pricing := fun _ => {}
  clock : ℕ := 1
  identityChangedAt : ℕ → ℕ := fun _ => 0

/-- What a request answers when it writes nothing. An exception counts as `raised`. -/
inductive Refusal where
  | invalid (message : String)
  | notFound
  | alreadyReviewed
  | alreadyMatched
  | duplicateSku
  | duplicateUpc
  | duplicateEan
  | unavailable
  | unconfirmed
  | lookupFailed
  | noStockEntry (error : StockEntryError)
  | raised

variable (library : Library)

def identityOf (payload : Dict) : String × String :=
  (fieldText library payload "code", fieldText library payload "brand")

/-- Catalogue code and brand of an item. -/
def Database.identity (db : Database) (itemId : ℕ) : Option (String × String) :=
  ((db.discoveries itemId).bind Discovery.payload).map (identityOf library)

/-- Store the discovery of an item; the history notes a new identity. -/
def Database.fileDiscovery (db : Database) (itemId : ℕ) (discovery : Discovery) :
    Database :=
  { db with
    discoveries := Function.update db.discoveries itemId (some discovery)
    identityChangedAt :=
      if discovery.payload.map (identityOf library) = db.identity library itemId then
        db.identityChangedAt
      else Function.update db.identityChangedAt itemId db.clock }

def Database.setPricing (db : Database) (itemId : ℕ) (pricing : Pricing) : Database :=
  { db with pricing := Function.update db.pricing itemId pricing }

def Database.modifyItem (db : Database) (itemId : ℕ) (change : Item → Item) : Database :=
  { db with store := { db.store with items := db.store.items.modify itemId change } }

/-- A new item has neither a discovery nor a price. -/
def Database.insertItem (db : Database) (item : Item) : Database :=
  { db with
    store := { db.store with items := db.store.items.insert item }
    discoveries := Function.update db.discoveries db.store.items.next none
    pricing := Function.update db.pricing db.store.items.next {} }

/-! ## The item master -/

/-- A validated body of `create_item`, or a row of the items import. -/
structure ItemRequest where
  sku : String
  name : String
  upc : Option String
  mpn : Option String

def Database.upcTaken (db : Database) (upc : String) : Bool :=
  db.store.items.entries.any fun entry => entry.2.upc == some upc

def createItem (db : Database) (request : ItemRequest) : Except Refusal Database :=
  if db.store.skuTaken request.sku then .error .duplicateSku
  else if (request.upc.getD "" != "" && db.upcTaken (request.upc.getD "")) = true then
    .error .duplicateUpc
  else
    .ok (db.insertItem
      { sku := request.sku, upc := request.upc, barcodeAliases := [], mpn := request.mpn })

/-- `_import_item`, which skips the row where it fails. -/
def importItem (db : Database) (row : ItemRequest) : Database :=
  if row.name = "" then db else (createItem db row).toOption.getD db

/-- `csv_import` of items. -/
def importItems (db : Database) (rows : List ItemRequest) : Except Refusal Database :=
  if rows = [] ∨ 5000 < rows.length then .error (.invalid "records")
  else .ok (rows.foldl importItem db)

/-! ## Products entered by hand -/

def dashOthers : Bool → List Char → List Char
  | _, [] => []
  | inRun, char :: rest =>
      if char.isUpper || char.isDigit then char :: dashOthers false rest
      else if inRun then dashOthers true rest
      else '-' :: dashOthers true rest

/-- The SKU of a product entered by hand; the second text is drawn. -/
def manualSku (ean drawn : String) : String :=
  let fragment := (stripDashes (dashOthers false (library.upper ean).toList)).take 34
  "MANUAL-" ++ if fragment = [] then drawn else String.ofList fragment

/-- The SKU, with a drawn suffix where the plain one is taken; the database refuses one
that is taken as well. -/
def freeManualSku (store : Store) (plain suffix : String) : Option String :=
  let sku := if store.skuTaken plain then
    String.ofList (plain.toList.take 41) ++ "-" ++ suffix else plain
  if store.skuTaken sku then none else some sku

/-- `create_manual_catalog_product`; the last two texts are drawn. -/
def createManualCatalogProduct (db : Database) (body : Dict) (drawn suffix : String) :
    Except Refusal Database := do
  let name := fieldText library body "name"
  let ean := fieldText library body "ean"
  let orDefault := fun key default =>
    let content := fieldText library body key
    if content = "" then default else content
  if name = "" ∨ 200 < name.length then .error (.invalid "name")
  else if ean = "" ∨ 50 < ean.length ∨ ean.toList.any (fun char => char.toNat < 32) then
    .error (.invalid "ean")
  else do
    let product ← (validateCatalog library (.object
      [("name", .text name), ("brand", .text (orDefault "brand" "LOCAL")),
        ("code", .text (orDefault "code" ean)),
        ("category", .text (orDefault "category" "Produs manual")),
        ("description", .text (fieldText library body "description")),
        ("eans", .list [.text ean]), ("images", .list []), ("references", .list [])])
      true).mapError Refusal.invalid
    let pricing ← (updatePricing library {} (.manual (body.get? "price"))).mapError
      Refusal.invalid
    if db.store.items.entries.any fun entry => barcodeMatches ean entry.2 then
      .error .duplicateEan
    else
      match freeManualSku db.store (manualSku library ean drawn) suffix with
      | none => .error .raised
      | some sku =>
          let itemId := db.store.items.next
          let inserted := db.insertItem
            { sku, upc := some ean, barcodeAliases := product.eans, mpn := some product.code }
          .ok ((inserted.setPricing itemId pricing).fileDiscovery library itemId
            { scannedEan := ean, status := .manual, payload := some product.payload })

/-! ## Scanned products -/

def recordScan (db : Database) (store : Store) (request : StockEntryRequest)
    (result : StockEntryResult) (localPrice : Option ℕ) : Database :=
  let entered : Database := { db with store }
  let discovered :=
    if result.createdProvisionalItem then
      { entered with
        discoveries := Function.update entered.discoveries result.itemId
          (some { scannedEan := request.lookupCode, status := .pending })
        pricing := Function.update entered.pricing result.itemId {} }
    else entered
  match localPrice with
  | some cents => discovered.setPricing result.itemId
      ((discovered.pricing result.itemId).withManualPrice cents)
  | none => discovered

/-- The price that a request brings. -/
def localPriceOf (price : Option Value) : Except String (Option ℕ) :=
  match price with
  | some value => (positivePrice library (some value)).map some
  | none => .ok none

def stockEntryRequest (db : Database) (scope : WarehouseScope) (mayReceive : Bool)
    (request : StockEntryRequest) (price : Option Value) :
    Except Refusal (Database × StockEntryResult) := do
  let localPrice ← (localPriceOf library price).mapError Refusal.invalid
  let (store, result) ← (stockEntry db.store library.sha256 scope mayReceive
    request).mapError Refusal.noStockEntry
  if result.idempotentReplay then .ok (db, result)
  else .ok (recordScan db store request result localPrice, result)

/-! ## The local catalogue -/

def catalogReviewStatus (current : Option DiscoveryStatus) (complete : Bool) :
    DiscoveryStatus :=
  if complete then .manual else current.getD .pending

def namesIdentity (payload : Option Dict) (product : ProductData) : Bool :=
  match payload with
  | some fields =>
      let names := fun key expected =>
        match Dict.get? fields key with
        | some value => value.isText expected
        | none => false
      names "code" product.code && names "brand" product.brand
  | none => false

/-- What a save leaves on the item: the first code becomes the UPC, and the UPC it had
stays among the aliases. -/
def savedItem (product : ProductData) (item : Item) : Item :=
  { item with
    mpn := some product.code
    upc := (product.eans.head?).or item.upc
    barcodeAliases := (product.eans ++
      (item.upc.toList.filter fun upc => upc != "")).eraseDups }

/-- Whether a form asks to complete the review: by default it does. -/
def completeFlag (body : Value) : Except Refusal Bool :=
  match body with
  | .object fields =>
      match Dict.get? fields "complete" with
      | some (.bool complete) => .ok complete
      | some _ => .error (.invalid "complete")
      | none => .ok true
  | _ => .ok true

/-- `save_local_catalog`; the images it stores are a parameter, which is missing where
one of them is refused. -/
def saveLocalCatalog (db : Database) (itemId : ℕ) (body : Value)
    (storedImages : Option (List String)) : Except Refusal Database := do
  let complete ← completeFlag body
  let product ← (validateCatalog library body complete).mapError Refusal.invalid
  match db.store.items.get? itemId with
  | none => .error .notFound
  | some item =>
      let old := db.discoveries itemId
      if old.map Discovery.status = some .matched then .error .alreadyMatched
      else
        match storedImages with
        | none => .error (.invalid "images")
        | some images =>
            let stored := { product with images }
            let filed := (db.modifyItem itemId (savedItem stored)).fileDiscovery library
              itemId
              { scannedEan := (old.map Discovery.scannedEan).getD
                  (String.ofList (((item.upc.filter fun upc => upc != "").getD
                    item.sku).toList.take 50))
                status := catalogReviewStatus (old.map Discovery.status) complete
                payload := some stored.payload }
            if namesIdentity (old.bind Discovery.payload) stored then .ok filed
            else .ok (filed.setPricing itemId (db.pricing itemId).ownPart)

/-! ## Prices -/

/-- The first of two values that counts as true. -/
def orGiven (value default : Option Value) : Option Value :=
  if isGiven value then value else default

/-- The first row of an answer with this identifier. -/
def quoteRow (productId : String) (data : Dict) : Option Dict :=
  (matchesOf data).bind (firstCandidate fun row =>
    str library ((row.get? "id").getD .null) == productId)

/-- What `save_local_price` asks of the price of an item. -/
def priceActionOf (item : Item) (pricing : Pricing) (clock : ℕ) (body : Dict)
    (lookup : Lookup) : Except Refusal PriceAction :=
  match body.get? "action" with
  | some (.text "manual") => .ok (.manual (body.get? "price"))
  | some (.text "use_connex") => .ok .useConnex
  | some (.text "refresh") =>
      let reference := cleaned (textOr library (orGiven (body.get? "reference")
        (orGiven (pricing.reference.map Value.text)
          (orGiven (item.mpn.map Value.text) (item.upc.map Value.text)))))
      let productId := textOr library (orGiven (body.get? "product_id")
        (pricing.connex.bind fun quote => Dict.get? quote.fields "id"))
      match lookup with
      | .failed => .error .lookupFailed
      | .answered data =>
          match quoteRow library productId data with
          | none => .error .unavailable
          | some row => .ok (.refresh row reference clock)
  | _ => .ok .other

def saveLocalPrice (db : Database) (itemId : ℕ) (body : Dict) (lookup : Lookup) :
    Except Refusal Database :=
  match db.store.items.get? itemId with
  | none => .error .notFound
  | some item => do
      let action ← priceActionOf library item (db.pricing itemId) db.clock body lookup
      let pricing ← (updatePricing library (db.pricing itemId) action).mapError
        Refusal.invalid
      .ok (db.setPricing itemId pricing)

/-! ## Matches -/

/-- The discovery of an item while it waits for a review. -/
def Database.pendingDiscovery (db : Database) (itemId : ℕ) : Option Discovery :=
  (db.discoveries itemId).filter fun discovery => discovery.status == .pending

def applyMatch (db : Database) (itemId : ℕ) (discovery : Discovery) (found : Dict) :
    Option Database :=
  some ((db.modifyItem itemId fun item =>
    { item with mpn := nullIfEmpty (fieldText library found "code") }).fileDiscovery library
      itemId { discovery with status := .matched, payload := some found })

def connexItem (product : ConnexProduct) (item : Item) : Item :=
  { item with
    mpn := some product.mpn
    upc := (product.eans.head?).or item.upc
    barcodeAliases := product.eans }

def applyConnexMatch (db : Database) (itemId : ℕ) (discovery : Discovery) (found : Dict) :
    Option Database :=
  (connexProduct library discovery.scannedEan found).map fun product =>
    (db.modifyItem itemId (connexItem product)).fileDiscovery library itemId
      { discovery with status := .manual, payload := some product.payload }

def Database.reviewed (db : Database) (itemId : ℕ) : Except Refusal Discovery :=
  match db.discoveries itemId with
  | none => .error .notFound
  | some discovery =>
      if discovery.status = .pending then .ok discovery else .error .alreadyReviewed

/-- A computation of the model that raises where it has no value. -/
def orRaise {Result : Type} (result : Option Result) : Except Refusal Result :=
  match result with
  | some value => .ok value
  | none => .error .raised

/-- The candidate that `queue_match` takes. -/
def chosenMatch (body : Dict) (data : Dict) : Option Dict :=
  (matchesOf data).bind (firstCandidate fun candidate =>
    textOr library (candidate.get? "id") == textOr library (body.get? "articleId") &&
      textOr library (candidate.get? "code") == textOr library (body.get? "code"))

/-- The operator confirmed an equivalent product. -/
def isConfirmed (body : Dict) : Bool :=
  match body.get? "confirmEquivalent" with
  | some (.bool flag) => flag
  | _ => false

def queueMatch (db : Database) (itemId : ℕ) (body : Dict) (lookup : Lookup) :
    Except Refusal Database := do
  let discovery ← db.reviewed itemId
  match lookup with
  | .failed => .error .lookupFailed
  | .answered data =>
      match chosenMatch library body data with
      | none => .error .unavailable
      | some found =>
          let eanLed := fieldText library body "reference" == "" && isEanLed data
          if (!hasMatchType found "ean" && !eanLed && !isConfirmed body) = true then
            .error .unconfirmed
          else orRaise (applyMatch library db itemId discovery found)

def Database.mpnValue (db : Database) (itemId : ℕ) : Option Value :=
  (db.store.items.get? itemId).bind fun item => item.mpn.map Value.text

/-- The EAN and the manufacturer code that `queue_connex_match` searches for. -/
def connexSearch (db : Database) (itemId : ℕ) (discovery : Discovery) (body : Dict) :
    String × String :=
  let reference := cleaned (textOr library (orGiven (body.get? "reference")
    (db.mpnValue itemId)))
  (if reference = "" ∧ isSearchableEan discovery.scannedEan then discovery.scannedEan else "",
    reference)

/-- The candidate that `queue_connex_match` takes. -/
def chosenConnexMatch (search : String × String) (productId code : String) (data : Dict) :
    Except Refusal Dict := do
  let candidates ← orRaise (connexCandidates library data search.1 search.2)
  match candidates.find? fun candidate =>
      textOr library (candidate.get? "id") == productId &&
        textOr library (candidate.get? "code") == code with
  | none => .error .unavailable
  | some found => .ok found

/-- `str(body.get("productId") or body.get("id") or "").strip()`. -/
def connexProductId (body : Dict) : String :=
  cleaned (textOr library (orGiven (body.get? "productId") (body.get? "id")))

def queueConnexMatch (db : Database) (itemId : ℕ) (body : Dict) (lookup : Lookup) :
    Except Refusal Database := do
  let discovery ← db.reviewed itemId
  let productId := connexProductId library body
  let code := fieldText library body "code"
  let search := connexSearch library db itemId discovery body
  if productId = "" ∨ code = "" ∨ (search.2 = "" ∧ search.1 = "") then
    .error (.invalid "product")
  else
    match lookup with
    | .failed => .error .lookupFailed
    | .answered data => do
        let found ← chosenConnexMatch library search productId code data
        orRaise (applyConnexMatch library db itemId discovery found)

/-! ## Matches of a batch -/

def batchItems (itemIds : List ℕ) : Except Refusal (List ℕ) :=
  if itemIds = [] ∨ 100 < itemIds.length then .error (.invalid "discovery_ids")
  else .ok itemIds.eraseDups

/-- Write what the lookups of a batch resolved, one product after another; one that is no
longer pending is skipped. -/
def applyResolved (apply : Database → ℕ → Discovery → Dict → Option Database) :
    Database → List (ℕ × Dict) → Option Database
  | db, [] => some db
  | db, (itemId, found) :: rest =>
      match db.pendingDiscovery itemId with
      | none => applyResolved apply db rest
      | some discovery =>
          (apply db itemId discovery found).bind fun applied =>
            applyResolved apply applied rest

def onlyCandidate (itemId : ℕ) : List Dict → Option (ℕ × Dict)
  | [found] => some (itemId, found)
  | _ => none

def resolveAuto (db : Database) (lookups : ℕ → Lookup) (itemId : ℕ) :
    Option (Option (ℕ × Dict)) :=
  match db.pendingDiscovery itemId with
  | none => some none
  | some discovery =>
      if isSearchableEan discovery.scannedEan then
        match lookups itemId with
        | .failed => some none
        | .answered data =>
            (uniqueAutoEanMatches library data).map (onlyCandidate itemId)
      else some none

def resolveConnex (db : Database) (lookups : ℕ → Lookup × Lookup) (itemId : ℕ) :
    Option (Option (ℕ × Dict)) :=
  match db.pendingDiscovery itemId with
  | none => some none
  | some discovery =>
      let reference := cleaned (textOr library (db.mpnValue itemId))
      let ean := if reference = "" then discovery.scannedEan else ""
      if reference = "" ∧ ¬ isSearchableEan discovery.scannedEan then some none
      else
        match (lookups itemId).1 with
        | .failed => some none
        | .answered data =>
            match connexCandidates library data ean reference with
            | some [_] =>
                match (lookups itemId).2 with
                | .failed => some none
                | .answered refreshed =>
                    (connexCandidates library refreshed ean reference).map
                      (onlyCandidate itemId)
            | some _ => some none
            | none => none

/-- What a batch writes: the products resolved, in the order in which their lookups
finish. -/
def resolvedBatch (resolve : ℕ → Option (Option (ℕ × Dict))) (itemIds : List ℕ) :
    Except Refusal (List (ℕ × Dict)) := do
  let resolved ← orRaise ((← batchItems itemIds).mapM resolve)
  .ok (resolved.filterMap id)

def queueBulkMatch (db : Database) (itemIds : List ℕ) (lookups : ℕ → Lookup) :
    Except Refusal Database := do
  let resolved ← resolvedBatch (resolveAuto library db lookups) itemIds
  orRaise (applyResolved (applyMatch library) db resolved)

def queueBulkMatchConnex (db : Database) (itemIds : List ℕ)
    (lookups : ℕ → Lookup × Lookup) : Except Refusal Database := do
  let resolved ← resolvedBatch (resolveConnex library db lookups) itemIds
  orRaise (applyResolved (applyConnexMatch library) db resolved)

/-! ## Runs -/

/-- A request with all it is answered from outside. -/
inductive Request where
  | createItem (request : ItemRequest)
  | importItems (rows : List ItemRequest)
  | createManualCatalogProduct (body : Dict) (drawn suffix : String)
  | stockEntry (scope : WarehouseScope) (mayReceive : Bool) (request : StockEntryRequest)
      (price : Option Value)
  | saveLocalCatalog (itemId : ℕ) (body : Value) (storedImages : Option (List String))
  | saveLocalPrice (itemId : ℕ) (body : Dict) (lookup : Lookup)
  | queueMatch (itemId : ℕ) (body : Dict) (lookup : Lookup)
  | queueConnexMatch (itemId : ℕ) (body : Dict) (lookup : Lookup)
  | queueBulkMatch (itemIds : List ℕ) (lookups : ℕ → Lookup)
  | queueBulkMatchConnex (itemIds : List ℕ) (lookups : ℕ → Lookup × Lookup)

def serve (db : Database) : Request → Except Refusal Database
  | .createItem request => Catalog.createItem db request
  | .importItems rows => Catalog.importItems db rows
  | .createManualCatalogProduct body drawn suffix =>
      Catalog.createManualCatalogProduct library db body drawn suffix
  | .stockEntry scope mayReceive request price =>
      (stockEntryRequest library db scope mayReceive request price).map Prod.fst
  | .saveLocalCatalog itemId body storedImages =>
      Catalog.saveLocalCatalog library db itemId body storedImages
  | .saveLocalPrice itemId body lookup =>
      Catalog.saveLocalPrice library db itemId body lookup
  | .queueMatch itemId body lookup => Catalog.queueMatch library db itemId body lookup
  | .queueConnexMatch itemId body lookup =>
      Catalog.queueConnexMatch library db itemId body lookup
  | .queueBulkMatch itemIds lookups => Catalog.queueBulkMatch library db itemIds lookups
  | .queueBulkMatchConnex itemIds lookups =>
      Catalog.queueBulkMatchConnex library db itemIds lookups

/-- The clock moves on. -/
def Database.tick (db : Database) : Database :=
  { db with clock := db.clock + 1 }

/-- One request: what it writes if it is served, else only the clock moves. -/
def step (db : Database) (request : Request) : Option Database :=
  some ((serve library db request).toOption.getD db).tick

end SentryWms.Catalog
