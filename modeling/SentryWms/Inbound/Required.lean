import SentryWms.Inbound.Mapping

/-!
# Required fields

The flag `required` of a field is checked where a plain field finds no value and where a
lookup misses. A derived field and a lookup without a source id do not check it, a later
field of the same name or an override replaces a value that was checked, and a path that
raises is no error of the mapping.
-/

namespace SentryWms.Inbound

open Attempts Python

/-! ## Documents -/

/-- `FieldMapping._check_field_shape`, of a known type. -/
def FieldMapping.accepted (field : FieldMapping) : Bool :=
  !(field.type == .enum && field.enumValues.isEmpty) &&
  !(field.derived.isNone && field.sourcePath.isNone && field.default.isNull) &&
  (field.type == .decimal || field.maxDigits.isNone && field.decimalPlaces.isNone &&
    field.ge.isNone && field.le.isNone) &&
  field.maxDigits.all (fun digits => decide (0 < digits)) &&
  match field.maxDigits, field.decimalPlaces with
  | some digits, some places => decide (places ≤ digits)
  | _, _ => true

def ResourceMapping.accepted (mapping : ResourceMapping) : Bool :=
  mapping.fields.all FieldMapping.accepted &&
    mapping.lineItems.all fun lineItems => lineItems.fields.all FieldMapping.accepted

/-! ## What is required -/

def filled (entries : Dict) (name : String) : Bool :=
  (entries.get? name).any fun value => !value.isNull

section Supply

variable (libraries : Libraries)

def finds (path : String) (payload : Value) : Bool :=
  match resolveJsonpath libraries path payload with
  | .ok value => !value.isNull
  | .error _ => false

def named (fields : List FieldMapping) : List (String × FieldMapping) :=
  fields.map fun field => (field.canonical, field)

variable {libraries}

/-! ## What an evaluation stores -/

variable {field : FieldMapping} {value result : Value}

section Evaluation

variable {document : MappingDocument} {lookup : Lookup}

variable {payload : Value} {out : Dict}

end Evaluation

end Supply

/-! ## A derived field -/

end SentryWms.Inbound
