import SentryWms.Core.Attempts
import SentryWms.Core.Transition
import SentryWms.Core.Value
import SentryWms.Inbound.Version

/-!
# Mapping documents

A mapping document says, for each resource of a source system, how the fields of the
canonical row are computed from the payload of the source: by a JSONPath, by a derived
expression, by a lookup of the canonical id of another record, or by a default.
-/

namespace SentryWms.Inbound

open Attempts
open Python

/-! ## Documents -/

/-- `CANONICAL_RESOURCE_TYPES`: the resources a document may map. -/
inductive Resource where
  | salesOrders
  | items
  | customers
  | vendors
  | purchaseOrders

/-- The plural key of a resource, which is the name of its table. -/
def Resource.key : Resource → String
  | .salesOrders => "sales_orders"
  | .items => "items"
  | .customers => "customers"
  | .vendors => "vendors"
  | .purchaseOrders => "purchase_orders"

structure CrossSystemLookup where
  sourceType : String
  sourceSystem : Option String

structure DerivedExpression where
  expression : String
  whenPresent : Option String

inductive FieldType where
  | string
  | integer
  | decimal
  | boolean
  | uuid
  | isoTimestamp
  | enum
  | json
deriving DecidableEq

structure FieldMapping where
  canonical : String
  type : FieldType
  sourcePath : Option String
  required : Bool
  crossSystemLookup : Option CrossSystemLookup
  derived : Option DerivedExpression
  default : Value
  enumValues : List String
  maxDigits : Option ℕ
  decimalPlaces : Option ℕ
  ge : Option Decimal
  le : Option Decimal

structure LineItemMapping where
  sourcePath : String
  canonicalPath : String
  fields : List FieldMapping

structure ResourceMapping where
  fields : List FieldMapping
  lineItems : Option LineItemMapping

structure MappingDocument where
  sourceSystem : String
  versionCompare : VersionCompare
  resources : Resource → Option ResourceMapping

/-- The libraries an evaluation rests on: `jsonpath_ng` finds the matches of a path,
`simpleeval` evaluates an expression whose shape is allowed, `str` and `repr` write a
value. -/
structure Libraries where
  find : String → Value → Except String (List Value)
  evaluate : String → Value → Except String Value
  str : Value → String
  repr : Value → String

/-- A key of `cross_system_mappings`. -/
@[ext] structure LookupKey where
  sourceSystem : String
  sourceType : String
  sourceId : String
deriving DecidableEq

/-- How `apply` fails: `CrossSystemLookupMiss`, `ValueError` with its text, or an
exception that the handler lets through. -/
inductive ApplyError where
  | lookupMiss (key : LookupKey)
  | valueError (message : String)
  | uncaught (message : String)

/-- `LookupFn`: the canonical id, if there is one, or what the query raises. -/
abbrev Lookup : Type := LookupKey → Except ApplyError (Option ℕ)

/-! ## Fields -/

section Evaluation

variable (libraries : Libraries)

/-- `_resolve_jsonpath`: nothing, the only match, or the list of all matches. -/
def resolveJsonpath (path : String) (payload : Value) : Except ApplyError Value :=
  match libraries.find path payload with
  | .error message => .error (.uncaught message)
  | .ok [] => .ok .null
  | .ok [found] => .ok found
  | .ok found => .ok (.list found)

/-- The text every error of a field begins with. -/
def FieldMapping.label (field : FieldMapping) : String :=
  "field " ++ libraries.repr (.text field.canonical) ++ ": "

def checkBound (violated : Option Bool) (message : String) : Except ApplyError Unit :=
  match violated with
  | none => .error (.uncaught "InvalidOperation")
  | some true => .error (.valueError message)
  | some false => .ok ()

def checkPlaces (field : FieldMapping) (value : Value) (number : Decimal) :
    Except ApplyError Unit :=
  match field.decimalPlaces with
  | none => .ok ()
  | some places =>
      match number.exponent? with
      | none =>
          .error (.valueError (field.label libraries ++ "non-finite decimal " ++
            libraries.repr value))
      | some exponent =>
          if exponent < -(places : ℤ) then
            .error (.valueError (field.label libraries ++ "value " ++
              libraries.repr value ++ " has more than " ++ toString places ++
              " decimal place(s)"))
          else .ok ()

/-- `max_digits`. -/
def checkDigits (field : FieldMapping) (value : Value) (number : Decimal) :
    Except ApplyError Unit :=
  match field.maxDigits with
  | none => .ok ()
  | some digits =>
      if digits < number.digits then
        .error (.valueError (field.label libraries ++ "value " ++ libraries.repr value ++
          " has more than " ++ toString digits ++ " significant digit(s)"))
      else .ok ()

def toDecimal (value : Value) : Except String Decimal :=
  match value with
  | .decimal number => .ok number
  | .bool _ => .error "boolean cannot be coerced to decimal"
  | .int _ | .float _ | .text _ =>
      match Decimal.parse (libraries.str value) with
      | some number => .ok number
      | none => .error "[<class 'decimal.ConversionSyntax'>]"
  | _ => .error ("unsupported type " ++ value.typeName)

def coerceDecimal (field : FieldMapping) (value : Value) : Except ApplyError Value :=
  match toDecimal libraries value with
  | .error message =>
      .error (.valueError (field.label libraries ++ "cannot coerce " ++
        libraries.repr value ++ " to decimal: " ++ message))
  | .ok number => do
      checkPlaces libraries field value number
      checkDigits libraries field value number
      match field.ge with
      | none => pure ()
      | some bound =>
          checkBound (number.lt bound)
            (field.label libraries ++ "value " ++ libraries.repr value ++
              " is less than ge=" ++ libraries.str (.decimal bound))
      match field.le with
      | none => pure ()
      | some bound =>
          checkBound (bound.lt number)
            (field.label libraries ++ "value " ++ libraries.repr value ++
              " exceeds le=" ++ libraries.str (.decimal bound))
      pure (.decimal number)

def coerceOrDefault (field : FieldMapping) (value : Value) : Except ApplyError Value :=
  if value.isNull then .ok .null
  else
    match field.type with
    | .enum =>
        if field.enumValues.any fun expected => value.isText expected then .ok value
        else
          .error (.valueError (field.label libraries ++ "value " ++ libraries.repr value ++
            " not in enum_values"))
    | .decimal => coerceDecimal libraries field value
    | .json =>
        match value.unserialisable? with
        | none => .ok value
        | some typeName =>
            .error (.valueError (field.label libraries ++
              "value is not JSON serialisable: Object of type " ++ typeName ++
              " is not JSON serializable"))
    | _ => .ok value

/-- `_eval_derived`: no value where the expression does not fire. Every exception of it
becomes a `ValueError` of the field. -/
def evalDerived (field : FieldMapping) (derived : DerivedExpression) (payload : Value) :
    Except ApplyError (Option Value) :=
  let failed (message : String) : ApplyError :=
    .valueError ("derived expression for " ++ libraries.repr (.text field.canonical) ++
      " failed: " ++ message)
  let fires : Except ApplyError Bool :=
    match derived.whenPresent with
    | none => .ok true
    | some path =>
        match libraries.find path payload with
        | .error message => .error (failed message)
        | .ok [] => .ok false
        | .ok [found] => .ok !found.isNull
        | .ok _ => .ok true
  match fires with
  | .error error => .error error
  | .ok false => .ok none
  | .ok true =>
      match libraries.evaluate derived.expression payload with
      | .error message => .error (failed message)
      | .ok value => .ok (some value)

/-- `cs.source_system or document.source_system`. -/
def CrossSystemLookup.system (lookup : CrossSystemLookup) (document : MappingDocument) :
    String :=
  match lookup.sourceSystem with
  | some sourceSystem =>
      if sourceSystem = "" then document.sourceSystem else sourceSystem
  | none => document.sourceSystem

def lookupKey (document : MappingDocument) (lookup : CrossSystemLookup)
    (sourceId : Value) : LookupKey :=
  ⟨lookup.system document, lookup.sourceType, libraries.str sourceId⟩

/-- The value of a path or, where it is missing, the default. -/
def resolveSource (field : FieldMapping) (payload : Value) : Except ApplyError Value :=
  match field.sourcePath with
  | some path => resolveJsonpath libraries path payload
  | none => .ok .null

def resolveField (document : MappingDocument) (lookup : Lookup) (payload : Value)
    (field : FieldMapping) : Except ApplyError Value :=
  match field.derived with
  | some derived => do
      match ← evalDerived libraries field derived payload with
      | some value => coerceOrDefault libraries field value
      | none =>
          match field.sourcePath with
          | some path => do
              coerceOrDefault libraries field (← resolveJsonpath libraries path payload)
          | none => coerceOrDefault libraries field field.default
  | none =>
      match field.crossSystemLookup with
      | some crossSystemLookup =>
          match field.sourcePath with
          | none =>
              .error (.valueError (field.label libraries ++
                "cross_system_lookup requires source_path"))
          | some path => do
              let sourceId ← resolveJsonpath libraries path payload
              if sourceId.isNull then coerceOrDefault libraries field .null
              else
                let key := lookupKey libraries document crossSystemLookup sourceId
                match ← lookup key with
                | some canonicalId => .ok (.uuid canonicalId)
                | none =>
                    if field.required then .error (.lookupMiss key)
                    else coerceOrDefault libraries field .null
      | none => do
          let found ← resolveSource libraries field payload
          let value := if found.isNull then field.default else found
          if value.isNull && field.required then
            .error (.valueError (field.label libraries ++ "required path missing"))
          else coerceOrDefault libraries field value

/-! ## Resources -/

def resolveFields (document : MappingDocument) (lookup : Lookup) (payload : Value)
    (fields : List FieldMapping) : Except ApplyError Dict :=
  fields.foldlM (fun out field => do
    pure (out.set field.canonical
      (← resolveField libraries document lookup payload field))) []

def lineBlocks (lineItems : LineItemMapping) (payload : Value) :
    Except ApplyError (List Value) := do
  let blocks ← resolveJsonpath libraries lineItems.sourcePath payload
  if blocks.truthy then
    match blocks with
    | .list items => pure items
    | block => pure [block]
  else pure []

def resolveLines (document : MappingDocument) (lookup : Lookup) (payload : Value)
    (lineItems : LineItemMapping) : Except ApplyError (List Value) := do
  let blocks ← lineBlocks libraries lineItems payload
  blocks.mapM fun block => do
    pure (.object (← resolveFields libraries document lookup block lineItems.fields))

def apply (document : MappingDocument) (resource : Resource) (payload : Value)
    (lookup : Lookup) (override : Dict) : Except ApplyError Dict :=
  match document.resources resource with
  | none =>
      .error (.uncaught ("mapping for resource_key " ++
        libraries.repr (.text resource.key) ++ " not declared"))
  | some mapping => do
      let out ← resolveFields libraries document lookup payload mapping.fields
      match mapping.lineItems with
      | none => pure (out.update override)
      | some lineItems => do
          let lines ← resolveLines libraries document lookup payload lineItems
          pure ((out.set lineItems.canonicalPath (.list lines)).update override)

/-! ## The lookups of an evaluation -/

def askedKey (document : MappingDocument) (payload : Value) (field : FieldMapping) :
    Option LookupKey :=
  match field.crossSystemLookup, field.sourcePath with
  | some crossSystemLookup, some path =>
      match resolveJsonpath libraries path payload with
      | .ok sourceId =>
          if sourceId.isNull then none
          else some (lookupKey libraries document crossSystemLookup sourceId)
      | .error _ => none
  | _, _ => none

def askedByLines (document : MappingDocument) (lineItems : LineItemMapping)
    (payload : Value) : List LookupKey :=
  match lineBlocks libraries lineItems payload with
  | .ok blocks =>
      blocks.flatMap fun block =>
        lineItems.fields.filterMap (askedKey libraries document block)
  | .error _ => []

variable {libraries}

/-! ## The first failure of an evaluation -/

variable (libraries)

def fieldsFailure (document : MappingDocument) (lookup : Lookup) (payload : Value)
    (fields : List FieldMapping) : Option ApplyError :=
  fields.findSome? fun field =>
    failure? (resolveField libraries document lookup payload field)

def linesFailure (document : MappingDocument) (lookup : Lookup) (payload : Value)
    (lineItems : LineItemMapping) : Option ApplyError :=
  match lineBlocks libraries lineItems payload with
  | .error error => some error
  | .ok blocks =>
      blocks.findSome? fun block =>
        fieldsFailure libraries document lookup block lineItems.fields

/-- How the first part of an evaluation fails that does, the header before the lines. -/
def mappingFailure (document : MappingDocument) (lookup : Lookup) (payload : Value)
    (mapping : ResourceMapping) : Option ApplyError :=
  (fieldsFailure libraries document lookup payload mapping.fields).or
    (mapping.lineItems.bind (linesFailure libraries document lookup payload))

variable {libraries}

variable {document : MappingDocument}

theorem failure?_resolveFields {lookup : Lookup} {payload : Value}
    {fields : List FieldMapping} :
    failure? (resolveFields libraries document lookup payload fields) =
      fieldsFailure libraries document lookup payload fields := by
  rw [resolveFields, fieldsFailure]
  apply failure?_foldlM
  intro field hfield out
  exact failure?_map _ _

theorem failure?_resolveLines {lookup : Lookup} {payload : Value}
    {lineItems : LineItemMapping} :
    failure? (resolveLines libraries document lookup payload lineItems) =
      linesFailure libraries document lookup payload lineItems := by
  rw [resolveLines, linesFailure]
  cases lineBlocks libraries lineItems payload with
  | error error => rfl
  | ok blocks =>
      have hblock : ∀ block,
          failure? (resolveFields libraries document lookup block lineItems.fields >>=
            fun line => pure (Value.object line)) =
          fieldsFailure libraries document lookup block lineItems.fields :=
        fun block => (failure?_map _ _).trans failure?_resolveFields
      calc
        _ = blocks.findSome? _ := failure?_mapM _ _
        _ = _ := by simp only [hblock]

theorem failure?_apply {resource : Resource} {mapping : ResourceMapping}
    (hmapping : document.resources resource = some mapping) (payload : Value) (lookup : Lookup)
    (override : Dict) :
    failure? (apply libraries document resource payload lookup override) =
      mappingFailure libraries document lookup payload mapping := by
  simp only [apply, hmapping, mappingFailure, ← failure?_resolveFields]
  apply failure?_bind
  intro out hout
  cases hlines : mapping.lineItems with
  | none => rfl
  | some lineItems =>
      rw [Option.bind_some, ← failure?_resolveLines]
      exact failure?_map _ _

end Evaluation

end SentryWms.Inbound
