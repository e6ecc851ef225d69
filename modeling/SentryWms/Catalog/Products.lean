import SentryWms.Core.Value

/-!
# Catalogue products

What `catalog_discovery.py` and `services/local_catalog.py` decide about a product
before any row is written: which codes are searched, which candidates of an upstream
answer are taken, and which product data a form may save. A failed check of the form
carries the text of its `ValueError`; an answer that is not built as expected raises,
which is `none` here.
-/

namespace SentryWms.Catalog

open Python

/-- What the model takes from Python's libraries: the text of a container, case mapping,
a digest and the test for a complete HTTPS address. -/
structure Library where
  reprOf : Value → String
  upper : String → String
  sha256 : String → String
  isHttps : String → Bool

/-- Python's libraries, as far as they matter for texts of upper case ASCII. -/
def plainLibrary : Library where
  reprOf _ := "[]"
  upper content := content
  sha256 content := content
  isHttps address := address.startsWith "https://"

variable (library : Library)

/-! ## Texts -/

def str : Value → String
  | .null => "None"
  | .bool flag => if flag then "True" else "False"
  | .int number => toString number
  | .float content => content
  | .text content => content
  | value => library.reprOf value

/-- `text.strip()`. -/
def cleaned (content : String) : String :=
  String.ofList (PyText.strip content.toList)

@[simp]
theorem cleaned_cleaned (content : String) : cleaned (cleaned content) = cleaned content := by
  rw [cleaned, cleaned, String.toList_ofList]
  exact congrArg String.ofList (PyText.trimBy_trimBy _ _)

def textOr : Option Value → String
  | some value => if value.truthy then str library value else ""
  | none => ""

@[simp]
theorem textOr_text (content : String) :
    textOr library (some (.text content)) = content := by
  by_cases hempty : content = ""
  · simp [textOr, Value.truthy, hempty]
  · simp [textOr, Value.truthy, hempty, str]

/-- `str(fields.get(key) or "").strip()`. -/
def fieldText (fields : Dict) (key : String) : String :=
  cleaned (textOr library (fields.get? key))

theorem fieldText_of_get {library : Library} {fields : Dict} {key content : String}
    (hget : fields.get? key = some (.text content)) :
    fieldText library fields key = cleaned content := by
  rw [fieldText, hget, textOr_text]

/-- The items that a loop over a value meets. -/
def iterate : Value → Option (List Value)
  | .list items => some items
  | .text content => some (content.toList.map fun char => .text (String.singleton char))
  | .object entries => some (entries.map fun entry => .text entry.1)
  | _ => none

def listOr : Option Value → Option (List Value)
  | some value => if value.truthy then iterate value else some []
  | none => some []

/-- The value is there and counts as true. -/
def isGiven : Option Value → Bool
  | some value => value.truthy
  | none => false

/-! ## Codes -/

def checkSum (digits : List ℕ) : ℕ :=
  (digits.zipIdx.map fun entry => entry.1 * if entry.2 % 2 = 0 then 3 else 1).sum

/-- `_is_searchable_ean`, of a text: a GTIN with the right check digit. -/
def isSearchableEan (code : String) : Bool :=
  let chars := (cleaned code).toList
  [8, 12, 13, 14].contains chars.length && chars.all Char.isDigit &&
    match (chars.map PyText.digitValue).reverse with
    | [] => false
    | checkDigit :: rest => (10 - checkSum rest % 10) % 10 == checkDigit

example : isSearchableEan "4006381333931" = true := by decide
example : isSearchableEan "4006381333932" = false := by decide

def normalizedProductCode (code : String) : String :=
  String.ofList ((library.upper code).toList.filter fun char =>
    char.isUpper || char.isDigit)

/-! ## Candidates -/

/-- The catalogue either fails, or answers with an object. -/
inductive Lookup where
  | failed
  | answered (data : Dict)

/-- `lookup.get("matches", [])`, as a loop meets it. -/
def matchesOf (data : Dict) : Option (List Value) :=
  match data.get? "matches" with
  | some value => iterate value
  | none => some []

def firstCandidate (cond : Dict → Bool) : List Value → Option Dict
  | [] => none
  | .object candidate :: rest =>
      if cond candidate then some candidate else firstCandidate cond rest
  | _ :: _ => none

/-- `unique[key] = candidate`. -/
def setCandidate (key : String × String) (candidate : Dict) :
    List ((String × String) × Dict) → List ((String × String) × Dict)
  | [] => [(key, candidate)]
  | entry :: entries =>
      if entry.1 = key then (key, candidate) :: entries
      else entry :: setCandidate key candidate entries

def uniqueCandidates (key : Dict → String × String) (accepts : Dict → Option Bool) :
    List Value → List ((String × String) × Dict) → Option (List Dict)
  | [], unique => some (unique.map Prod.snd)
  | .object candidate :: rest, unique => do
      if ← accepts candidate then
        uniqueCandidates key accepts rest (setCandidate (key candidate) candidate unique)
      else uniqueCandidates key accepts rest unique
  | _ :: _, _ => none

/-- Both halves of a key are there. -/
def isComplete (key : String × String) : Bool :=
  key.1 != "" && key.2 != ""

def isEanLed (data : Dict) : Bool :=
  match data.get? "searchedBy" with
  | some value => value.isText "ean" || value.isText "ean_then_reference"
  | none => false

def hasMatchType (candidate : Dict) (matchType : String) : Bool :=
  match candidate.get? "matchType" with
  | some value => value.isText matchType
  | none => false

def uniqueAutoEanMatches (data : Dict) : Option (List Dict) := do
  let key := fun candidate : Dict =>
    (textOr library (candidate.get? "id"), textOr library (candidate.get? "code"))
  uniqueCandidates key
    (fun candidate => some ((isEanLed data || hasMatchType candidate "ean") &&
      isComplete (key candidate)))
    (← matchesOf data) []

def connexKey (candidate : Dict) : String × String :=
  (fieldText library candidate "id", fieldText library candidate "code")

def isConnexProduct (candidate : Dict) : Bool :=
  isComplete (connexKey library candidate) && isGiven (candidate.get? "brand") &&
    isGiven (candidate.get? "name")

def uniqueConnexEanMatches (data : Dict) (ean : String) : Option (List Dict) := do
  uniqueCandidates (connexKey library)
    (fun candidate => do
      let eans ← listOr (candidate.get? "eans")
      let candidateEans := fieldText library candidate "ean" ::
        eans.map fun value => cleaned (textOr library (some value))
      some (candidateEans.contains (cleaned ean) && isConnexProduct library candidate))
    (← matchesOf data) []

def uniqueConnexReferenceMatches (data : Dict) (reference : String) :
    Option (List Dict) := do
  let expected := normalizedProductCode library reference
  uniqueCandidates (connexKey library)
    (fun candidate => some (expected != "" &&
      normalizedProductCode library (fieldText library candidate "code") == expected &&
      isConnexProduct library candidate))
    (← matchesOf data) []

def connexCandidates (data : Dict) (ean reference : String) : Option (List Dict) :=
  if reference ≠ "" then uniqueConnexReferenceMatches library data reference
  else uniqueConnexEanMatches library data ean

/-! ## The products that a match files -/

/-- The codes a Connex match leaves on the item: the scanned one and those of the
candidate, as far as they can be searched. -/
def connexEans (scannedEan : String) (found : Dict) : Option (List String) := do
  let eans ← listOr (found.get? "eans")
  let scanned := if isSearchableEan scannedEan then scannedEan else ""
  let texts := scanned :: textOr library (found.get? "ean") ::
    eans.map fun value => textOr library (some value)
  some (((texts.filter isSearchableEan).map cleaned).eraseDups.take 50)

/-- What a Connex match writes. -/
structure ConnexProduct where
  mpn : String
  eans : List String
  payload : Dict

/-- `str(value).strip()[:width]`, or the default where nothing is left. -/
def cutOr (width : ℕ) (default content : String) : String :=
  let cut := String.ofList ((cleaned content).toList.take width)
  if cut = "" then default else cut

/-- The data that `_apply_connex_match` files. -/
def connexProduct (scannedEan : String) (found : Dict) : Option ConnexProduct := do
  let eans ← connexEans library scannedEan found
  let images ← listOr (found.get? "images")
  let references ← listOr (found.get? "references")
  let name := fieldText library found "name"
  let code := fieldText library found "code"
  let category := if isGiven (found.get? "category") then
    textOr library (found.get? "category") else "Connex"
  let description := if isGiven (found.get? "description") then
    textOr library (found.get? "description") else name
  let matchType :=
    if hasMatchType found "connex_reference" then "connex_reference" else "connex_ean"
  some
    { mpn := String.ofList (code.toList.take 64), eans
      payload := Dict.update found
        [("source", .text "connex"), ("matchType", .text matchType), ("name", .text name),
          ("brand", .text (fieldText library found "brand")), ("code", .text code),
          ("category", .text (cutOr 100 "Connex" category)),
          ("description", .text (cutOr 1000 "" description)),
          ("eans", .list (eans.map Value.text)), ("images", .list (images.take 10)),
          ("references", .list (references.take 40))] }

/-! ## The form of the local catalogue -/

structure ProductData where
  name : String
  code : String
  brand : String
  category : String
  description : String
  eans : List String
  images : List String
  references : List Dict

def ProductData.payload (product : ProductData) : Dict :=
  [("matchType", .text "manual"), ("name", .text product.name), ("code", .text product.code),
    ("brand", .text product.brand), ("category", .text product.category),
    ("description", .text product.description),
    ("eans", .list (product.eans.map Value.text)),
    ("images", .list (product.images.map Value.text)),
    ("imageUrl", (product.images.head?.map Value.text).getD .null),
    ("references", .list (product.references.map Value.object))]

def formField (body : Dict) (required : Bool) (key : String) (limit : ℕ) :
    Except String String :=
  let value := fieldText library body key
  if limit < value.length ∨ (required = true ∧ value = "") then
    .error s!"Câmpul {key} este obligatoriu sau prea lung (maximum {limit})."
  else .ok value

/-- A list field of the form, each value stripped and kept once. -/
def formList (body : Dict) (key : String) (limit width : ℕ) :
    Except String (List String) :=
  match (body.get? key).getD (.list []) with
  | .list items =>
      if limit < items.length then .error s!"Lista {key} nu este validă (maximum {limit})."
      else
        let values := ((items.map fun value => cleaned (str library value)).filter
          fun value => value != "").eraseDups
        if values.any fun value => decide (width < value.length) then
          .error s!"Valoare prea lungă în {key}."
        else .ok values
  | _ => .error s!"Lista {key} nu este validă (maximum {limit})."

def formReference : Value → Except String Dict
  | .object row =>
      let code := fieldText library row "code"
      let kind := fieldText library row "type"
      let manufacturer := fieldText library row "manufacturer"
      if code = "" ∨ 200 < code.length ∨ 200 < kind.length ∨ 200 < manufacturer.length then
        .error "Codul referinței este obligatoriu; maximum 200 de caractere per câmp."
      else
        .ok [("code", .text code), ("type", .text kind), ("manufacturer", .text manufacturer)]
  | _ => .error "Referință invalidă."

def validateCatalog (body : Value) (requireComplete : Bool) :
    Except String ProductData :=
  match body with
  | .object fields => do
      let name ← formField library fields requireComplete "name" 200
      let code ← formField library fields requireComplete "code" 64
      let brand ← formField library fields requireComplete "brand" 200
      let category ← formField library fields false "category" 100
      let description ← formField library fields false "description" 1000
      let eans ← formList library fields "eans" 50 50
      let images ← formList library fields "images" 10 2000
      if images.any fun address => !library.isHttps address then
        .error "Imaginile trebuie să aibă adrese HTTPS complete."
      else do
        match (Dict.get? fields "references").getD (.list []) with
        | .list rows =>
            if 40 < rows.length then .error "Poți introduce maximum 40 de referințe."
            else do
              let references ← rows.mapM (formReference library)
              .ok { name, code, brand, category, description, eans, images, references }
        | _ => .error "Poți introduce maximum 40 de referințe."
  | _ => .error "Date de produs invalide."

end SentryWms.Catalog
