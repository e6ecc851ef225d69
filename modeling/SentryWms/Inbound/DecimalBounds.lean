import SentryWms.Inbound.Mapping

/-!
# Decimals that fit their column

`_coerce_decimal` bounds the digits of the coefficient and the places after the point, each
by itself. A positive exponent adds digits that it does not count, and a value that is no
number reaches the comparison with a bound where no places are declared.
-/

namespace SentryWms.Inbound

open Python Transition

/-! ## `NUMERIC(precision, scale)` -/

variable {libraries : Libraries} {field : FieldMapping} {value : Value} {number : Decimal}

/-- The places and the digits of the coefficient are within what is declared. -/
structure Counted (field : FieldMapping) (number : Decimal) : Prop where
  places : ∀ scale, field.decimalPlaces = some scale →
    ∃ exponent, number.exponent? = some exponent ∧ -(scale : ℤ) ≤ exponent
  digits : ∀ precision, field.maxDigits = some precision → number.digits ≤ precision

end SentryWms.Inbound
