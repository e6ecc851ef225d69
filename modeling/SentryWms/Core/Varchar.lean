import Mathlib

/-!
# Text and integer columns

What PostgreSQL stores of a text in a column of bounded width. Blanks beyond the width are cut
off, anything else beyond it is refused. No text may hold a zero, not even one that is only
compared. An `INT` holds four bytes.
-/

namespace Postgres

/-- The text holds no zero. -/
def plain (content : String) : Bool :=
  content.toList.all fun char => char.toNat != 0

/-- A column of this width takes the text. -/
def fits (width : ℕ) (content : String) : Bool :=
  (content.toList.drop width).all (fun char => char == ' ') && plain content

/-- What `VARCHAR(width)` stores. -/
def varchar (width : ℕ) (content : String) : Option String :=
  if fits width content then some (String.ofList (content.toList.take width)) else none

/-- What a `VARCHAR(width)` stores that may be null. -/
def nullable (width : ℕ) : Option String → Option (Option String)
  | none => some none
  | some content => (varchar width content).map some

/-- What `INT` stores. -/
def int4 (number : ℤ) : Option ℤ :=
  if -2147483648 ≤ number ∧ number ≤ 2147483647 then some number else none

end Postgres
