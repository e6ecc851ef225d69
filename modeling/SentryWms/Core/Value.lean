import SentryWms.Core.Numeral

/-!
# Dynamic values

The values that a program meets in a parsed document: the scalars of JSON, decimals and
UUIDs, and lists and dictionaries of values. A dictionary lists its entries in insertion
order and holds every key once.
-/

namespace Python

/-! ## Decimals -/

/-- `decimal.Decimal`: a coefficient scaled by a power of ten, or a special value. -/
inductive Decimal where
  | finite (negative : Bool) (coefficient : ℕ) (exponent : ℤ)
  | infinity (negative : Bool)
  | nan (signaling : Bool) (payload : ℕ)

namespace Decimal

open PyText

def digitsNumber (digits : List Char) : ℕ :=
  digits.foldl (fun value char => value * 10 + digitValue char) 0

/-- `len(d.as_tuple().digits)`. -/
def digits : Decimal → ℕ
  | finite _ coefficient _ => (Nat.toDigits 10 coefficient).length
  | infinity _ => 1
  | nan _ payload => if payload = 0 then 0 else (Nat.toDigits 10 payload).length

/-- `d.as_tuple().exponent`, of a finite number. -/
def exponent? : Decimal → Option ℤ
  | finite _ _ exponent => some exponent
  | _ => none

/-- A decimal is exact within these bounds only. -/
def inRange (coefficient : ℕ) (exponent : ℤ) : Bool :=
  decide (-1999999999999999997 ≤ exponent ∧
    exponent + (Nat.toDigits 10 coefficient).length - 1 ≤ 999999999999999999)

def parseExponent : List Char → Option ℤ
  | '-' :: digits =>
      if digits ≠ [] ∧ digits.all Char.isDigit then some (-(digitsNumber digits : ℤ))
      else none
  | '+' :: digits =>
      if digits ≠ [] ∧ digits.all Char.isDigit then some (digitsNumber digits) else none
  | digits =>
      if digits ≠ [] ∧ digits.all Char.isDigit then some (digitsNumber digits) else none

/-- The digits after a decimal point, if there is one, and what follows them. -/
def splitFraction : List Char → List Char × List Char
  | '.' :: rest => (rest.takeWhile Char.isDigit, rest.dropWhile Char.isDigit)
  | rest => ([], rest)

/-- A finite number without its sign. -/
def parseFinite (negative : Bool) (text : List Char) : Option Decimal := do
  let whole := text.takeWhile Char.isDigit
  let (fraction, rest) := splitFraction (text.dropWhile Char.isDigit)
  if whole = [] ∧ fraction = [] then none
  else do
    let scale ← match rest with
      | [] => some 0
      | 'e' :: digits => parseExponent digits
      | _ => none
    let coefficient := digitsNumber (whole ++ fraction)
    let exponent := scale - fraction.length
    if inRange coefficient exponent then some (finite negative coefficient exponent)
    else none

/-- A number without its sign, in lower case. -/
def parseUnsigned (negative : Bool) : List Char → Option Decimal
  | ['i', 'n', 'f'] | ['i', 'n', 'f', 'i', 'n', 'i', 't', 'y'] => some (infinity negative)
  | 'n' :: 'a' :: 'n' :: payload =>
      if payload.all Char.isDigit then some (nan false (digitsNumber payload)) else none
  | 's' :: 'n' :: 'a' :: 'n' :: payload =>
      if payload.all Char.isDigit then some (nan true (digitsNumber payload)) else none
  | text => parseFinite negative text

/-- `Decimal(text)`: blanks around the text and underscores are dropped. -/
def parse (text : String) : Option Decimal :=
  match ((strip text.toList).filter fun char => char != '_').map Char.toLower with
  | '-' :: rest => parseUnsigned true rest
  | '+' :: rest => parseUnsigned false rest
  | rest => parseUnsigned false rest

/-- The value of a finite decimal. -/
def signed (negative : Bool) (coefficient : ℕ) (exponent : ℤ) : ℚ :=
  (if negative then -(coefficient : ℚ) else coefficient) * 10 ^ exponent

/-- `<`, which raises `InvalidOperation` where a side is not a number. -/
def lt : Decimal → Decimal → Option Bool
  | finite negative coefficient exponent, finite negative' coefficient' exponent' =>
      some (decide (signed negative coefficient exponent <
        signed negative' coefficient' exponent'))
  | finite _ _ _, infinity negative => some !negative
  | infinity negative, finite _ _ _ => some negative
  | infinity negative, infinity negative' => some (negative && !negative')
  | _, _ => none

end Decimal

/-! ## Values -/

/-- A value. A float is kept as the text that `repr` gives it, a UUID as its number. -/
inductive Value where
  | null
  | bool (flag : Bool)
  | int (number : ℤ)
  | float (text : String)
  | decimal (number : Decimal)
  | text (text : String)
  | uuid (number : ℕ)
  | list (items : List Value)
  | object (entries : List (String × Value))

abbrev Dict : Type := List (String × Value)

namespace Dict

def get? (entries : Dict) (key : String) : Option Value :=
  (entries.find? fun entry => entry.1 == key).map Prod.snd

/-- `entries[key] = value`. -/
def set (key : String) (value : Value) : Dict → Dict
  | [] => [(key, value)]
  | entry :: entries =>
      if entry.1 = key then (key, value) :: entries else entry :: set key value entries

def update (entries other : Dict) : Dict :=
  other.foldl (fun entries entry => entries.set entry.1 entry.2) entries

end Dict

namespace Value

/-- `value is None`. -/
def isNull : Value → Bool
  | null => true
  | _ => false

def isText (expected : String) : Value → Bool
  | text actual => actual == expected
  | _ => false

def truthy : Value → Bool
  | null => false
  | bool flag => flag
  | int number => number != 0
  | float repr => repr != "0.0" && repr != "-0.0"
  | decimal (.finite _ coefficient _) => coefficient != 0
  | decimal _ => true
  | text content => content != ""
  | uuid _ => true
  | list items => !items.isEmpty
  | object entries => !entries.isEmpty

def typeName : Value → String
  | null => "NoneType"
  | bool _ => "bool"
  | int _ => "int"
  | float _ => "float"
  | decimal _ => "Decimal"
  | text _ => "str"
  | uuid _ => "UUID"
  | list _ => "list"
  | object _ => "dict"

mutual

/-- The type of the first part that `json.dumps(value)` cannot write. -/
def unserialisable? : Value → Option String
  | decimal _ => some "Decimal"
  | uuid _ => some "UUID"
  | list items => firstUnserialisable? items
  | object entries => entryUnserialisable? entries
  | _ => none

/-- The same among the items of a list. -/
def firstUnserialisable? : List Value → Option String
  | [] => none
  | value :: values => (unserialisable? value).or (firstUnserialisable? values)

/-- The same among the entries of a dictionary. -/
def entryUnserialisable? : List (String × Value) → Option String
  | [] => none
  | (_, value) :: entries => (unserialisable? value).or (entryUnserialisable? entries)

end

end Value

end Python
