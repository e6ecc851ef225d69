import SentryWms.Core.Numeral

/-!
# Versions of a source record

`_is_newer` compares the version of the applied row with an incoming one by the
strategy of the mapping document. Where a version does not parse, the comparison is one
of texts; timestamps of which only one has an offset cannot be compared at all.
-/

namespace SentryWms.Inbound

open PyText

inductive VersionCompare where
  | isoTimestamp
  | integer
  | lexicographic

/-! ## `datetime.fromisoformat` -/

/-- A `datetime`: microseconds of the local time since the start of the first year, and
the offset from UTC of an aware one. -/
structure DateTime where
  microseconds : ℤ
  offset : Option ℤ

def isLeap (year : ℕ) : Bool :=
  year % 4 == 0 && (year % 100 != 0 || year % 400 == 0)

def daysInMonth (year : ℕ) : ℕ → ℕ
  | 2 => if isLeap year then 29 else 28
  | 4 | 6 | 9 | 11 => 30
  | _ => 31

def daysBeforeYear (year : ℕ) : ℕ :=
  (year - 1) * 365 + (year - 1) / 4 - (year - 1) / 100 + (year - 1) / 400

/-- `_ymd2ord` of a valid date. -/
def dateOrdinal (year month day : ℕ) : Option ℕ :=
  if 1 ≤ year ∧ 1 ≤ month ∧ month ≤ 12 ∧ 1 ≤ day ∧ day ≤ daysInMonth year month then
    some (daysBeforeYear year +
      ((List.range (month - 1)).map fun index => daysInMonth year (index + 1)).sum + day)
  else none

/-- `_isoweek1monday`. -/
def isoWeekOneMonday (year : ℕ) : ℤ :=
  let firstDay : ℤ := daysBeforeYear year + 1
  let firstWeekday := (firstDay + 6) % 7
  let monday := firstDay - firstWeekday
  if 3 < firstWeekday then monday + 7 else monday

/-- The year has a week 53: it starts on a Thursday, or on a Wednesday and is leap. -/
def hasWeek53 (year : ℕ) : Bool :=
  let firstWeekday := (daysBeforeYear year + 1) % 7
  firstWeekday == 4 || firstWeekday == 3 && isLeap year

/-- `_isoweek_to_gregorian`, as an ordinal in the range of `date`. -/
def weekOrdinal (year week day : ℕ) : Option ℕ :=
  if 1 ≤ year ∧ (1 ≤ week ∧ week ≤ 52 ∨ week = 53 ∧ hasWeek53 year) ∧ 1 ≤ day ∧
      day ≤ 7 then
    let ordinal := isoWeekOneMonday year + ((week : ℤ) - 1) * 7 + ((day : ℤ) - 1)
    if 1 ≤ ordinal ∧ ordinal ≤ 3652059 then some ordinal.toNat else none
  else none

/-- Read a fixed number of digits. -/
def takeDigits : ℕ → ℕ → List Char → Option (ℕ × List Char)
  | 0, value, rest => some (value, rest)
  | _ + 1, _, [] => none
  | count + 1, value, char :: rest =>
      if char.isDigit then takeDigits count (value * 10 + digitValue char) rest else none

/-- `_find_isoformat_datetime_separator`, for a text of more than seven characters. -/
def separatorIndex (text : List Char) : ℕ :=
  if text[4]? = some '-' then
    if text[5]? = some 'W' then
      if text[8]? = some '-' then
        if text[10]?.any Char.isDigit then 8 else 10
      else 8
    else 10
  else if text[4]? = some 'W' then
    let digits := ((text.drop 7).takeWhile Char.isDigit).length
    if 7 + digits < 9 then 7 + digits
    else if (7 + digits) % 2 = 0 then 7
    else 8
  else 8

def parseWeekDay (year week : ℕ) (hasSep : Bool) : List Char → Option ℕ
  | [] => weekOrdinal year week 1
  | '-' :: rest =>
      if hasSep then
        match takeDigits 1 0 rest with
        | some (day, []) => weekOrdinal year week day
        | _ => none
      else none
  | rest =>
      if hasSep then none
      else
        match takeDigits 1 0 rest with
        | some (day, []) => weekOrdinal year week day
        | _ => none

/-- `_parse_isoformat_date`, as an ordinal. -/
def parseDate (text : List Char) : Option ℕ := do
  let (year, rest) ← takeDigits 4 0 text
  let hasSep := rest.head? == some '-'
  let rest := if hasSep then rest.tail else rest
  match rest with
  | 'W' :: rest => do
      let (week, rest) ← takeDigits 2 0 rest
      parseWeekDay year week hasSep rest
  | rest => do
      let (month, rest) ← takeDigits 2 0 rest
      if (rest.head? == some '-') ≠ hasSep then none
      else do
        let (day, rest) ← takeDigits 2 0 (if hasSep then rest.tail else rest)
        if rest.isEmpty then dateOrdinal year month day else none

/-- The fraction of a second, cut to microseconds. -/
def parseFraction : List Char → Option ℕ
  | [] => some 0
  | mark :: digits =>
      if (mark = '.' ∨ mark = ',') ∧ digits ≠ [] ∧ digits.all Char.isDigit then
        let kept := digits.take 6
        some ((kept.foldl (fun value char => value * 10 + digitValue char) 0) *
          10 ^ (6 - kept.length))
      else none

/-- A time of day, or an offset. -/
structure Clock where
  hours : ℕ
  minutes : ℕ
  seconds : ℕ
  microseconds : ℕ

/-- Drop the separator, which stands between all components or none. -/
def dropColon (hasSep : Bool) (text : List Char) : Option (List Char) :=
  if hasSep then
    match text with
    | ':' :: rest => some rest
    | _ => none
  else some text

/-- `_parse_hh_mm_ss_ff`. -/
def parseClock (text : List Char) : Option Clock := do
  let (hours, rest) ← takeDigits 2 0 text
  let hasSep := rest.head? == some ':'
  if rest.isEmpty then some ⟨hours, 0, 0, 0⟩
  else do
    let (minutes, rest) ← takeDigits 2 0 (← dropColon hasSep rest)
    if rest.isEmpty then some ⟨hours, minutes, 0, 0⟩
    else do
      let (seconds, rest) ← takeDigits 2 0 (← dropColon hasSep rest)
      let microseconds ← parseFraction rest
      some ⟨hours, minutes, seconds, microseconds⟩

def Clock.total (clock : Clock) : ℤ :=
  ((clock.hours * 60 + clock.minutes) * 60 + clock.seconds : ℕ) * 1000000 +
    clock.microseconds

def Clock.isTime (clock : Clock) : Bool :=
  decide (clock.hours < 24 ∧ clock.minutes < 60 ∧ clock.seconds < 60)

/-- A zone is less than a day away from UTC. -/
def parseOffset (sign : ℤ) (text : List Char) : Option ℤ := do
  let clock ← parseClock text
  if clock.total < 86400000000 then some (sign * clock.total) else none

/-- The zone after a time: none, `Z`, or a signed offset. -/
def parseZone : List Char → Option (Option ℤ)
  | [] => some none
  | ['Z'] => some (some 0)
  | '+' :: offset => (parseOffset 1 offset).map some
  | '-' :: offset => (parseOffset (-1) offset).map some
  | _ => none

/-- `datetime.fromisoformat`. -/
def fromIsoFormat (text : String) : Option DateTime := do
  let chars := text.toList
  if chars.length < 7 then none
  else do
    let separator := if chars.length = 7 then 7 else separatorIndex chars
    let ordinal ← parseDate (chars.take separator)
    let time := chars.drop (separator + 1)
    if time.isEmpty then some ⟨(ordinal : ℤ) * 86400000000, none⟩
    else do
      let clock ← parseClock (time.takeWhile fun char =>
        char != '+' && char != '-' && char != 'Z')
      let offset ← parseZone (time.dropWhile fun char =>
        char != '+' && char != '-' && char != 'Z')
      if clock.isTime then
        some ⟨(ordinal : ℤ) * 86400000000 + clock.total, offset⟩
      else none

/-! ## The comparison -/

/-- `can't compare offset-naive and offset-aware datetimes`. -/
inductive VersionError where
  | naiveAndAware
deriving DecidableEq

/-- `>` of datetimes: aware ones by the instant they name. -/
def DateTime.gt (left right : DateTime) : Except VersionError Bool :=
  match left.offset, right.offset with
  | none, none => .ok (decide (right.microseconds < left.microseconds))
  | some offset, some offset' =>
      .ok (decide (right.microseconds - offset' < left.microseconds - offset))
  | _, _ => .error .naiveAndAware

def textGt (left right : String) : Bool :=
  decide (right < left)

/-- `_is_newer`: the version of the server is strictly newer than the incoming one. -/
def isNewer (strategy : VersionCompare) (server incoming : String) :
    Except VersionError Bool :=
  match strategy with
  | .isoTimestamp =>
      match fromIsoFormat server, fromIsoFormat incoming with
      | some left, some right => left.gt right
      | _, _ => .ok (textGt server incoming)
  | .integer =>
      match parseInt server, parseInt incoming with
      | some left, some right => .ok (decide (right < left))
      | _, _ => .ok (textGt server incoming)
  | .lexicographic => .ok (textGt server incoming)

end SentryWms.Inbound
