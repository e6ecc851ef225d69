import SentryWms.Core.Numeral

/-!
# Texts of UUIDs

How `uuid.UUID(text)` reads a text of ASCII characters, and what `str` makes of the
result. Prefixes and braces are dropped and hyphens may stand anywhere; what is left has
to be 32 characters long and is read by `int(text, 16)`, which takes more than digits.
-/

namespace PyText

/-- The value of a hexadecimal digit. -/
def hexValue (char : Char) : Option ℕ :=
  if char.isDigit then some (digitValue char)
  else if 'a' ≤ char ∧ char ≤ 'f' then some (char.toNat - 'a'.toNat + 10)
  else if 'A' ≤ char ∧ char ≤ 'F' then some (char.toNat - 'A'.toNat + 10)
  else none

/-- The number that hexadecimal digits continue. -/
def hexDigitsValue : ℕ → List Char → Option ℕ
  | _, [] => none
  | value, [char] => (hexValue char).map fun digit => value * 16 + digit
  | value, char :: '_' :: rest =>
      (hexValue char).bind fun digit => hexDigitsValue (value * 16 + digit) rest
  | value, char :: next :: rest =>
      (hexValue char).bind fun digit => hexDigitsValue (value * 16 + digit) (next :: rest)

/-- The digits behind `0x`, which an underscore may follow. -/
def dropHexPrefix : List Char → List Char
  | '0' :: marker :: rest =>
      if marker = 'x' ∨ marker = 'X' then
        match rest with
        | '_' :: digits => digits
        | digits => digits
      else '0' :: marker :: rest
  | digits => digits

/-- `int(text, 16)`. -/
def parseHex (text : List Char) : Option ℤ :=
  match strip text with
  | '+' :: digits => (hexDigitsValue 0 (dropHexPrefix digits)).map fun value => (value : ℤ)
  | '-' :: digits => (hexDigitsValue 0 (dropHexPrefix digits)).map fun value => -(value : ℤ)
  | digits => (hexDigitsValue 0 (dropHexPrefix digits)).map fun value => (value : ℤ)

/-- `text.replace(pattern, "")`, after some characters that belong to a match. -/
def removeAll (pattern : List Char) : ℕ → List Char → List Char
  | _, [] => []
  | skip + 1, _ :: rest => removeAll pattern skip rest
  | 0, char :: rest =>
      if pattern.isPrefixOf (char :: rest) then removeAll pattern (pattern.length - 1) rest
      else char :: removeAll pattern 0 rest

def isBrace (char : Char) : Bool :=
  char.toNat == 0x7b || char.toNat == 0x7d

def stripBraces (text : List Char) : List Char :=
  ((text.dropWhile isBrace).reverse.dropWhile isBrace).reverse

def parseUuid (text : List Char) : Option ℕ :=
  let bare := removeAll "uuid:".toList 0 (removeAll "urn:".toList 0 text)
  let hex := (stripBraces bare).filter fun char => char != '-'
  if hex.length = 32 then
    (parseHex hex).bind fun value =>
      if 0 ≤ value ∧ value < 2 ^ 128 then some value.toNat else none
  else none

/-- The last hexadecimal digits of a number. -/
def hexText : ℕ → ℕ → List Char
  | 0, _ => []
  | digits + 1, value => hexText digits (value / 16) ++ [Nat.digitChar (value % 16)]

def uuidText (value : ℕ) : String :=
  let hex := hexText 32 value
  String.ofList (hex.take 8 ++ '-' :: (hex.drop 8).take 4 ++ '-' :: (hex.drop 12).take 4 ++
    '-' :: (hex.drop 16).take 4 ++ '-' :: hex.drop 20)

/-- The urn form and the plain one name the same UUID. -/
example :
    parseUuid "urn:uuid:0000000A-0000-4000-8000-00000000000B".toList =
      parseUuid "0000000a000040008000-00000000000b".toList := by decide +kernel

end PyText
