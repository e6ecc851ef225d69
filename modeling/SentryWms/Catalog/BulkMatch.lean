import SentryWms.Catalog.Requests
import SentryWms.Core.Varchar

/-!
# Matching a batch of products

The two bulk routes with all they answer. They read the products of a batch, look up those
that wait for a review, sort the answers as they come in, and then write the products that
have one candidate, each after locking its discovery again. Nothing is committed before the
last one, and what raises on the way ends the whole request. A discovery is kept under its
item, as in the requests.

The handheld works off a snapshot of the discoveries in batches of six.
-/

namespace SentryWms.Catalog

open Python

/-! ## Columns -/

/-- What becomes of texts and objects on their way into the database. The viscosity of an oil
is read out of the whole candidate, which may fail. -/
structure Storage where
  viscosityOf : Dict → String → Option (Option String)
  takesJson : Dict → Bool

/-- `" · ".join(value for value in (brand, name) if value)[:200] or f"Produs {scanned_ean}"`. -/
def matchedName (brand name scannedEan : String) : String :=
  let joined := " · ".intercalate ([brand, name].filter fun value => value != "")
  if joined = "" then "Produs " ++ scannedEan else String.ofList (joined.toList.take 200)

variable (library : Library) (storage : Storage)

/-- The texts that `_apply_match` writes, with the widths of their columns. -/
def matchColumns (discovery : Discovery) (found : Dict) (viscosity : Option String) :
    List (ℕ × String) :=
  let brand := fieldText library found "brand"
  let name := fieldText library found "name"
  let matchedCode := fieldText library found "code"
  [(200, matchedName brand name discovery.scannedEan),
    (1000, cleaned ("Identificat în TecDoc: " ++ brand ++ " " ++ matchedCode)),
    (64, matchedCode), (100, fieldText library found "id"), (100, matchedCode), (200, brand),
    (300, name), (30, textOr library (found.get? "matchType"))] ++
  viscosity.toList.map fun grade => (32, grade)

def columnsFit (columns : List (ℕ × String)) : Bool :=
  columns.all fun column => Postgres.fits column.1 column.2

/-- The writes of `_apply_match` go through. -/
def storesMatch (discovery : Discovery) (found : Dict) : Bool :=
  match storage.viscosityOf found (fieldText library found "name") with
  | none => false
  | some viscosity =>
      columnsFit (matchColumns library discovery found viscosity) && storage.takesJson found

/-- What the lookup of a product comes to. -/
inductive Answer where
  | failed
  | raised
  | candidates (found : List Dict)

abbrev Change : Type := (Item → Item) × Discovery

/-- What sets the two bulk routes apart. -/
structure Route where
  /-- The discovery is found by the query of the route. -/
  isJoined : ℕ → Bool
  /-- Why a product is not looked up. -/
  unsearchable : ℕ → Discovery → Option String
  answer : ℕ → Discovery → Answer
  noneReason : ℕ → String
  manyReason : ℕ → String
  change : Discovery → Dict → Option Change

/-- `queue_bulk_match`. -/
def tecdocRoute (lookups : ℕ → Lookup) : Route where
  isJoined _ := true
  unsearchable _ discovery :=
    if isSearchableEan discovery.scannedEan then none else some "invalid_ean"
  answer itemId _ :=
    match lookups itemId with
    | .failed => .failed
    | .answered data =>
        match uniqueAutoEanMatches library data with
        | none => .raised
        | some found => .candidates found
  noneReason _ := "no_exact_ean"
  manyReason _ := "multiple_exact_ean"
  change discovery found :=
    if storesMatch library storage discovery found then
      some (fun item => { item with mpn := nullIfEmpty (fieldText library found "code") },
        { discovery with status := .matched, payload := some found })
    else none

/-- `status` of a result. -/
inductive MatchStatus where
  | matched
  | ambiguous
  | notFound
  | skipped
  | error
deriving DecidableEq

/-- One row of `results`. -/
structure MatchResult where
  discoveryId : ℕ
  ean : Option String
  status : MatchStatus
  reason : Option String := none
  code : Option String := none

/-- What happens beside the request: the order in which its lookups finish, and the
discoveries that others review or delete after it has read them. -/
structure Meanwhile where
  order : List (ℕ × Discovery) → List (ℕ × Discovery)
  order_perm : ∀ rows, (order rows).Perm rows
  isReviewed : ℕ → Bool

variable (route : Route) (meanwhile : Meanwhile)

def Route.row (db : Database) (itemId : ℕ) : Option Discovery :=
  if route.isJoined itemId then db.discoveries itemId else none

def skippedResult (row : ℕ × Discovery) (reason : String) : MatchResult :=
  { discoveryId := row.1, ean := some row.2.scannedEan, status := .skipped, reason }

/-- The result of a product that is not looked up. -/
def Route.skip (row : ℕ × Discovery) : Option MatchResult :=
  if row.2.status ≠ .pending then some (skippedResult row "already_reviewed")
  else (route.unsearchable row.1 row.2).map (skippedResult row)

def Route.sortAnswer (state : List MatchResult × List (ℕ × Discovery × Dict))
    (row : ℕ × Discovery) : Option (List MatchResult × List (ℕ × Discovery × Dict)) :=
  let result (status : MatchStatus) (reason : String) : MatchResult :=
    { discoveryId := row.1, ean := some row.2.scannedEan, status, reason }
  match route.answer row.1 row.2 with
  | .raised => none
  | .failed => some (state.1 ++ [result .error "lookup_failed"], state.2)
  | .candidates [] => some (state.1 ++ [result .notFound (route.noneReason row.1)], state.2)
  | .candidates [found] => some (state.1, state.2 ++ [(row.1, row.2, found)])
  | .candidates _ => some (state.1 ++ [result .ambiguous (route.manyReason row.1)], state.2)

/-- The discovery, read once more under its lock, if it still waits for a review. -/
def Meanwhile.lock (db : Database) (itemId : ℕ) : Option Discovery :=
  if meanwhile.isReviewed itemId then none else db.pendingDiscovery itemId

def Database.write (db : Database) (itemId : ℕ) (change : Change) : Database :=
  (db.modifyItem itemId change.1).fileDiscovery library itemId change.2

def Route.apply (state : Database × List MatchResult) (entry : ℕ × Discovery × Dict) :
    Option (Database × List MatchResult) :=
  let row := (entry.1, entry.2.1)
  match meanwhile.lock state.1 entry.1 with
  | none => some (state.1, state.2 ++ [skippedResult row "already_reviewed"])
  | some locked =>
      (route.change locked entry.2.2).map fun change =>
        (state.1.write library entry.1 change, state.2 ++ [
          { discoveryId := entry.1, ean := some entry.2.1.scannedEan, status := .matched
            code := some (textOr library (entry.2.2.get? "code")) }])

def missingResult (itemId : ℕ) : MatchResult :=
  { discoveryId := itemId, ean := none, status := .notFound, reason := "missing_discovery" }

/-- Match the products of a batch; nothing is left of it if an exception ends it. -/
def Route.bulkMatch (db : Database) (itemIds : List ℕ) :
    Option (Database × List MatchResult) := do
  let rows := itemIds.filterMap fun itemId => (route.row db itemId).map fun row => (itemId, row)
  let skipped := rows.filterMap route.skip
  let candidates := rows.filter fun row => (route.skip row).isNone
  let (results, resolved) ← (meanwhile.order candidates).foldlM route.sortAnswer (skipped, [])
  let (after, results) ← resolved.foldlM (route.apply library meanwhile) (db, results)
  let missing := (itemIds.filter fun itemId => (route.row db itemId).isNone).mergeSort
  some (after, results ++ missing.map missingResult)

/-! ## Requests -/

def requestedIds (rawIds : List ℤ) : Except Refusal (List ℕ) :=
  if rawIds = [] then .error (.invalid "Selectează cel puțin un produs.")
  else if 100 < rawIds.length then
    .error (.invalid "Poți echivala maximum 100 de produse într-un lot.")
  else if rawIds.any fun value => value < 1 then
    .error (.invalid "Selecția conține identificatori invalizi.")
  else .ok (rawIds.eraseDups.map Int.toNat)

structure MatchSummary where
  requested : ℕ
  matched : ℕ
  ambiguous : ℕ
  notFound : ℕ
  skipped : ℕ
  failed : ℕ

def countStatus (status : MatchStatus) (results : List MatchResult) : ℕ :=
  results.countP fun result => result.status = status

def summaryOf (itemIds : List ℕ) (results : List MatchResult) : MatchSummary where
  requested := itemIds.length
  matched := countStatus .matched results
  ambiguous := countStatus .ambiguous results
  notFound := countStatus .notFound results
  skipped := countStatus .skipped results
  failed := countStatus .error results

structure BulkAnswer where
  summary : MatchSummary
  results : List MatchResult

def Route.serve (db : Database) (rawIds : List ℤ) : Except Refusal (Database × BulkAnswer) := do
  let itemIds ← requestedIds rawIds
  match route.bulkMatch library meanwhile db itemIds with
  | none => .error .raised
  | some (after, results) => .ok (after, ⟨summaryOf itemIds results, results⟩)

/-! ## The handheld -/

def bulkBatchSize : ℕ := 6

structure MatchProgress where
  total : ℕ
  processed : ℕ
  matched : ℕ
  ambiguous : ℕ
  notFound : ℕ
  skipped : ℕ
  failed : ℕ

def takesResults (batch : List ℕ) (results : List MatchResult) : Bool :=
  results.length == batch.length &&
    (results.map MatchResult.discoveryId).eraseDups.length == batch.length &&
    results.all fun result => batch.contains result.discoveryId

end SentryWms.Catalog
