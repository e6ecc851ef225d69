import Mathlib

/-!
# Numerals in texts

How `int(text)` reads a text: blanks around it are dropped, a sign may stand before the
digits and single underscores between them. Digits are those of ASCII.
-/

namespace PyText

def digitValue (char : Char) : ℕ :=
  char.toNat - '0'.toNat

/-- The number that digits continue. -/
def digitsValue : ℕ → List Char → Option ℕ
  | _, [] => none
  | value, [char] =>
      if char.isDigit then some (value * 10 + digitValue char) else none
  | value, char :: '_' :: rest =>
      if char.isDigit then digitsValue (value * 10 + digitValue char) rest else none
  | value, char :: next :: rest =>
      if char.isDigit then digitsValue (value * 10 + digitValue char) (next :: rest)
      else none

/-- `str.isspace`, of a character. -/
def isSpace (char : Char) : Bool :=
  let code := char.toNat
  (decide (9 ≤ code) && decide (code ≤ 13)) || (decide (28 ≤ code) && decide (code ≤ 32)) ||
    (decide (0x2000 ≤ code) && decide (code ≤ 0x200A)) ||
    [0x85, 0xA0, 0x1680, 0x2028, 0x2029, 0x202F, 0x205F, 0x3000].contains code

def trimBy (blank : Char → Bool) (text : List Char) : List Char :=
  ((text.dropWhile blank).reverse.dropWhile blank).reverse

theorem trimBy_isPrefix (blank : Char → Bool) (text : List Char) :
    trimBy blank text <+: text.dropWhile blank := by
  rw [trimBy, ← List.reverse_suffix, List.reverse_reverse]
  exact List.dropWhile_suffix _

/-- Nothing is left to drop. -/
theorem trimBy_trimBy (blank : Char → Bool) (text : List Char) :
    trimBy blank (trimBy blank text) = trimBy blank text := by
  have hfirst : (trimBy blank text).dropWhile blank = trimBy blank text := by
    rw [List.dropWhile_eq_self_iff]
    intro hlength
    have hkept := trimBy_isPrefix blank text
    rw [hkept.getElem hlength]
    exact List.dropWhile_get_zero_not blank text (hlength.trans_le hkept.length_le)
  rw [trimBy, hfirst, trimBy, List.reverse_reverse, List.dropWhile_idempotent]

variable {blank : Char → Bool} {text : List Char}

theorem mem_of_mem_trimBy {char : Char} (hchar : char ∈ trimBy blank text) : char ∈ text :=
  List.dropWhile_subset _ ((trimBy_isPrefix blank text).subset hchar)

theorem length_trimBy_le (blank : Char → Bool) (text : List Char) :
    (trimBy blank text).length ≤ text.length :=
  (trimBy_isPrefix blank text).length_le.trans (List.dropWhile_suffix _).length_le

/-- A text of which nothing is lost in length is kept. -/
theorem trimBy_eq_self_of_length
    (hlength : text.length ≤ (trimBy blank text).length) : trimBy blank text = text := by
  have hdropped : text.dropWhile blank = text :=
    (List.dropWhile_suffix blank).eq_of_length_le
      (hlength.trans (trimBy_isPrefix blank text).length_le)
  have hkept := trimBy_isPrefix blank text
  rw [hdropped] at hkept
  exact hkept.eq_of_length_le hlength

/-- A text is kept when it neither starts nor ends with a blank. -/
theorem trimBy_eq_self_iff :
    trimBy blank text = text ↔
      (∀ char ∈ text.head?, blank char = false) ∧
        ∀ char ∈ text.getLast?, blank char = false := by
  have hkept : ∀ {text : List Char}, text.dropWhile blank = text ↔
      ∀ char ∈ text.head?, blank char = false := by
    intro text
    cases text with
    | nil => simp
    | cons char rest =>
        rw [List.dropWhile_eq_self_iff]
        simp
  constructor
  · intro htext
    have hfirst : text.dropWhile blank = text :=
      (List.dropWhile_suffix blank).eq_of_length_le
        (by simpa [htext] using (trimBy_isPrefix blank text).length_le)
    refine ⟨hkept.mp hfirst, ?_⟩
    rw [trimBy, hfirst, List.reverse_eq_iff] at htext
    simpa using hkept.mp htext
  · rintro ⟨hfirst, hlast⟩
    have hend : text.reverse.dropWhile blank = text.reverse :=
      hkept.mpr (by simpa using hlast)
    rw [trimBy, hkept.mpr hfirst, hend, List.reverse_reverse]

/-- `str.strip()`. -/
def strip (text : List Char) : List Char :=
  trimBy isSpace text

def parseInt (text : String) : Option ℤ :=
  match strip text.toList with
  | '+' :: digits => (digitsValue 0 digits).map fun value => (value : ℤ)
  | '-' :: digits => (digitsValue 0 digits).map fun value => -(value : ℤ)
  | digits => (digitsValue 0 digits).map fun value => (value : ℤ)

end PyText
