import SentryWms.Core.Table
import SentryWms.Core.Transition

/-!
# Bin labels

What `create_bin` and the bins import accept, the barcode that `encodeCode128B` prints for a
bin, what `normalizeScannedBarcode` makes of a scan, and the bin that `lookup_bin` answers
with. A text is a list of characters; what is printed is ASCII, and the functions that read
it are modelled on ASCII.
-/

namespace SentryWms.Labels

open Relational

/-- A code, a barcode or a scan. -/
abbrev Text := List Char

/-! ## Bins -/

/-- The columns of `bins` that labels and scans look at. -/
structure LabelledBin where
  warehouseId : ℕ
  binCode : Text
  binBarcode : Text
deriving DecidableEq

/-- `UNIQUE(warehouse_id, bin_code)`, and the check before it. -/
def codeTaken (bins : Table LabelledBin) (warehouseId : ℕ) (binCode : Text) : Bool :=
  bins.entries.any fun entry =>
    entry.2.warehouseId == warehouseId && entry.2.binCode == binCode

def insertBin (bins : Table LabelledBin) (warehouseId : ℕ) (binCode binBarcode : Text) :
    Option (Table LabelledBin) :=
  if codeTaken bins warehouseId binCode then none
  else if 50 < binCode.length ∨ 100 < binBarcode.length then none
  else some (bins.insert ⟨warehouseId, binCode, binBarcode⟩)

/-- `create_bin` of a `CreateBinRequest`. -/
def createBin (bins : Table LabelledBin) (warehouseId : ℕ) (binCode binBarcode : Text) :
    Option (Table LabelledBin) :=
  if binCode.isEmpty || decide (64 < binCode.length) || binBarcode.isEmpty ||
      decide (128 < binBarcode.length) then none
  else insertBin bins warehouseId binCode binBarcode

/-- `_FORMULA_PREFIXES`. -/
def formulaStarts : List Char :=
  ['=', '+', '-', '@', '\t', '\r']

/-- `_reject_formula_prefix` lets the cell through. -/
def cellAllowed (cell : Text) : Bool :=
  cell.head?.all fun first => !formulaStarts.contains first

/-- `_import_bin` of a `BinImportRow`: an absent or empty barcode is the code. -/
def importBin (bins : Table LabelledBin) (warehouseId : ℕ) (binCode : Text)
    (binBarcode : Option Text) : Option (Table LabelledBin) :=
  if binCode.isEmpty || decide (64 < binCode.length) || !cellAllowed binCode ||
      !binBarcode.all (fun binBarcode =>
        decide (binBarcode.length ≤ 128) && cellAllowed binBarcode) then none
  else
    match binBarcode with
    | some (first :: rest) => insertBin bins warehouseId binCode (first :: rest)
    | _ => insertBin bins warehouseId binCode binCode

/-- A request of the create route, or a row of an import. -/
inductive BinRequest where
  | create (warehouseId : ℕ) (binCode binBarcode : Text)
  | importRow (warehouseId : ℕ) (binCode : Text) (binBarcode : Option Text)

/-- The bins after a request; a refusal leaves them as they are. -/
def acceptBin (bins : Table LabelledBin) : BinRequest → Table LabelledBin
  | .create warehouseId binCode binBarcode =>
      (createBin bins warehouseId binCode binBarcode).getD bins
  | .importRow warehouseId binCode binBarcode =>
      (importBin bins warehouseId binCode binBarcode).getD bins

def acceptedBins (requests : List BinRequest) : Table LabelledBin :=
  requests.foldl acceptBin .empty

/-! ## The encoder -/

/-- `PATTERNS`: the widths of the bars and spaces of each symbol. -/
def patterns : List (List ℕ) :=
  [[2, 1, 2, 2, 2, 2], [2, 2, 2, 1, 2, 2], [2, 2, 2, 2, 2, 1], [1, 2, 1, 2, 2, 3],
   [1, 2, 1, 3, 2, 2], [1, 3, 1, 2, 2, 2], [1, 2, 2, 2, 1, 3], [1, 2, 2, 3, 1, 2],
   [1, 3, 2, 2, 1, 2], [2, 2, 1, 2, 1, 3], [2, 2, 1, 3, 1, 2], [2, 3, 1, 2, 1, 2],
   [1, 1, 2, 2, 3, 2], [1, 2, 2, 1, 3, 2], [1, 2, 2, 2, 3, 1], [1, 1, 3, 2, 2, 2],
   [1, 2, 3, 1, 2, 2], [1, 2, 3, 2, 2, 1], [2, 2, 3, 2, 1, 1], [2, 2, 1, 1, 3, 2],
   [2, 2, 1, 2, 3, 1], [2, 1, 3, 2, 1, 2], [2, 2, 3, 1, 1, 2], [3, 1, 2, 1, 3, 1],
   [3, 1, 1, 2, 2, 2], [3, 2, 1, 1, 2, 2], [3, 2, 1, 2, 2, 1], [3, 1, 2, 2, 1, 2],
   [3, 2, 2, 1, 1, 2], [3, 2, 2, 2, 1, 1], [2, 1, 2, 1, 2, 3], [2, 1, 2, 3, 2, 1],
   [2, 3, 2, 1, 2, 1], [1, 1, 1, 3, 2, 3], [1, 3, 1, 1, 2, 3], [1, 3, 1, 3, 2, 1],
   [1, 1, 2, 3, 1, 3], [1, 3, 2, 1, 1, 3], [1, 3, 2, 3, 1, 1], [2, 1, 1, 3, 1, 3],
   [2, 3, 1, 1, 1, 3], [2, 3, 1, 3, 1, 1], [1, 1, 2, 1, 3, 3], [1, 1, 2, 3, 3, 1],
   [1, 3, 2, 1, 3, 1], [1, 1, 3, 1, 2, 3], [1, 1, 3, 3, 2, 1], [1, 3, 3, 1, 2, 1],
   [3, 1, 3, 1, 2, 1], [2, 1, 1, 3, 3, 1], [2, 3, 1, 1, 3, 1], [2, 1, 3, 1, 1, 3],
   [2, 1, 3, 3, 1, 1], [2, 1, 3, 1, 3, 1], [3, 1, 1, 1, 2, 3], [3, 1, 1, 3, 2, 1],
   [3, 3, 1, 1, 2, 1], [3, 1, 2, 1, 1, 3], [3, 1, 2, 3, 1, 1], [3, 3, 2, 1, 1, 1],
   [3, 1, 4, 1, 1, 1], [2, 2, 1, 4, 1, 1], [4, 3, 1, 1, 1, 1], [1, 1, 1, 2, 2, 4],
   [1, 1, 1, 4, 2, 2], [1, 2, 1, 1, 2, 4], [1, 2, 1, 4, 2, 1], [1, 4, 1, 1, 2, 2],
   [1, 4, 1, 2, 2, 1], [1, 1, 2, 2, 1, 4], [1, 1, 2, 4, 1, 2], [1, 2, 2, 1, 1, 4],
   [1, 2, 2, 4, 1, 1], [1, 4, 2, 1, 1, 2], [1, 4, 2, 2, 1, 1], [2, 4, 1, 2, 1, 1],
   [2, 2, 1, 1, 1, 4], [4, 1, 3, 1, 1, 1], [2, 4, 1, 1, 1, 2], [1, 3, 4, 1, 1, 1],
   [1, 1, 1, 2, 4, 2], [1, 2, 1, 1, 4, 2], [1, 2, 1, 2, 4, 1], [1, 1, 4, 2, 1, 2],
   [1, 2, 4, 1, 1, 2], [1, 2, 4, 2, 1, 1], [4, 1, 1, 2, 1, 2], [4, 2, 1, 1, 1, 2],
   [4, 2, 1, 2, 1, 1], [2, 1, 2, 1, 4, 1], [2, 1, 4, 1, 2, 1], [4, 1, 2, 1, 2, 1],
   [1, 1, 1, 1, 4, 3], [1, 1, 1, 3, 4, 1], [1, 3, 1, 1, 4, 1], [1, 1, 4, 1, 1, 3],
   [1, 1, 4, 3, 1, 1], [4, 1, 1, 1, 1, 3], [4, 1, 1, 3, 1, 1], [1, 1, 3, 1, 4, 1],
   [1, 1, 4, 1, 3, 1], [3, 1, 1, 1, 4, 1], [4, 1, 1, 1, 3, 1], [2, 1, 1, 4, 1, 2],
   [2, 1, 1, 2, 1, 4], [2, 1, 1, 2, 3, 2]]

def stopPattern : List ℕ :=
  [2, 3, 3, 1, 1, 1, 2]

def startB : ℕ := 104

/-- A bar or a space. -/
structure Segment where
  width : ℕ
  black : Bool

/-- What `encodeCode128B` returns. -/
structure Encoded where
  segments : List Segment
  totalModules : ℕ

/-- The symbol of a character: of a question mark, for one that subset B does not have. -/
def symbolValue (ch : Char) : ℕ :=
  if 32 ≤ ch.toNat ∧ ch.toNat ≤ 127 then ch.toNat - 32 else '?'.toNat - 32

/-- The start symbol, counted once, and every other symbol times its position. -/
def checksum (values : List ℕ) : ℕ :=
  (startB + (values.zipIdx.map fun value => value.1 * value.2).sum) % 103

def symbolValues (text : Text) : List ℕ :=
  startB :: text.map symbolValue ++ [checksum (startB :: text.map symbolValue)]

/-- The bars and spaces of a pattern, which starts with a bar. -/
def segmentsOf (pattern : List ℕ) : List Segment :=
  pattern.zipIdx.map fun width => ⟨width.1, width.2 % 2 == 0⟩

def Encoded.push (drawn : Encoded) (segment : Segment) : Encoded :=
  ⟨drawn.segments ++ [segment], drawn.totalModules + segment.width⟩

/-- The loop over the widths of a pattern. -/
def Encoded.draw (drawn : Encoded) (pattern : List ℕ) : Encoded :=
  (segmentsOf pattern).foldl Encoded.push drawn

def encodeCode128B (text : Text) : Encoded :=
  if text.isEmpty then ⟨[], 0⟩
  else
    let drawn := (symbolValues text).foldl
      (fun (drawn : Encoded) value => drawn.draw (patterns.getD value [])) ⟨[], 0⟩
    drawn.draw stopPattern

/-- The value that a label is printed for. -/
def LabelledBin.labelText (bin : LabelledBin) : Text :=
  if bin.binBarcode.isEmpty then bin.binCode else bin.binBarcode

/-! ## Scanning -/

def isSpace (ch : Char) : Bool :=
  ch == ' ' || (decide (9 ≤ ch.toNat) && decide (ch.toNat ≤ 13))

/-- `trim` and `strip`. -/
def trim (text : Text) : Text :=
  ((text.dropWhile isSpace).reverse.dropWhile isSpace).reverse

/-- `replace(r"\*", "*")`. -/
def unescape : Text → Text
  | '\\' :: '*' :: rest => '*' :: unescape rest
  | ch :: rest => ch :: unescape rest
  | [] => []

def separatorOf (raw : Text) : Option Char :=
  if '*' ∈ raw then some '*' else if '|' ∈ raw then some '|' else none

/-- `toUpperCase` and `upper`, as far as the kind of an envelope rests on them: the long s is
the only letter beyond ASCII whose upper case stands in a kind. -/
def upper (text : Text) : Text :=
  text.map fun ch => if ch = 'ſ' then 'S' else ch.toUpper

def fieldsOf (separator : Char) (raw : Text) : List Text :=
  (raw.splitOn separator).map trim

def kindOf (parts : List Text) : Text :=
  upper (parts.headD [])

/-- The address of an `ASL2` envelope, if it is complete. -/
def joinedAddress (parts : List Text) : Option Text :=
  let addressParts := (parts.drop 2).take 3
  if addressParts.all fun part => !part.isEmpty then some (['-'].intercalate addressParts)
  else none

/-- `COMPLETE_BIN_CODE`: three or more parts that are not empty, joined by hyphens. -/
def completeBinCode (candidate : Text) : Bool :=
  let parts := candidate.splitOn '-'
  decide (3 ≤ parts.length) && parts.all fun part =>
    !part.isEmpty && !part.contains '*' && !part.contains '|'

def normalizeScannedBarcode (rawValue : Text) : Text :=
  let raw := trim (unescape (rawValue.filter fun ch => !isSpace ch))
  match separatorOf raw with
  | none => raw
  | some separator =>
      let parts := fieldsOf separator raw
      if kindOf parts = ['A', 'S', 'L', '1'] then
        let candidate := parts.getD 2 []
        if completeBinCode candidate then candidate else raw
      else if kindOf parts = ['A', 'S', 'L', '2'] ∧ 5 ≤ parts.length then
        (joinedAddress parts).getD raw
      else raw

def autosavBinCode (barcode : Text) : Text :=
  let raw := unescape (trim barcode)
  match separatorOf raw with
  | none => raw
  | some separator =>
      let parts := fieldsOf separator raw
      if kindOf parts = ['A', 'S', 'L', '1'] ∧ 3 ≤ parts.length then parts.getD 2 []
      else if kindOf parts = ['A', 'S', 'L', '2'] ∧ 5 ≤ parts.length then
        (joinedAddress parts).getD raw
      else raw

/-- `lookup_bin`, for a user of some warehouses or for an administrator. Nothing orders the
rows, so the one that it answers with is a choice. -/
def lookupBin (choice : Option ℕ) (warehouseIds : Option (List ℕ)) (bins : Table LabelledBin)
    (barcode : Text) : Option (ℕ × LabelledBin) :=
  limitOne choice (bins.select fun bin =>
    (bin.binBarcode == autosavBinCode barcode || bin.binCode == autosavBinCode barcode) &&
      warehouseIds.all fun warehouseIds => warehouseIds.contains bin.warehouseId)

end SentryWms.Labels
