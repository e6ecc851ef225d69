import SentryWms.Labels.ScansBack

/-!
# Handheld and server read alike

The handheld opens an envelope before it sends a scan, and the lookup opens what it gets. An
escape is undone on both sides, so a scan reads alike only if nothing is left for the second
pass: no escape, and no envelope in the address that the handheld has taken out.
-/

namespace SentryWms.Labels

/-! ## A second pass -/

variable {text : Text}

/-- A field before a star loses the backslash at its end. -/
def chop (field : Text) : Text :=
  if field.getLast? = some '\\' then field.dropLast else field

variable {field : Text}

theorem chop_eq_self_iff : chop field = field ↔ field.getLast? ≠ some '\\' := by
  rw [chop]
  split
  · next hlast =>
      obtain ⟨front, rfl⟩ := List.getLast?_eq_some_iff.mp hlast
      simp
  · next hlast => simp [hlast]

variable {raw : Text}

/-- A text in which no separator stands. -/
def Unparted (text : Text) : Prop :=
  ∀ ch ∈ text, ch ≠ '*' ∧ ch ≠ '|'

structure AddressPart where
  text : Text
  nonempty : text ≠ []
  plain : ∀ ch ∈ text, isSpace ch = false ∧ ch ∉ ['-', '*', '|', '\\']

/-- A field as it is after the escapes are undone. -/
def settled (separator : Char) (field : Text × Bool) : Text :=
  if separator = '*' ∧ field.2 = false then chop field.1 else field.1

section Envelope

variable {separator : Char} {fields : List (Text × Bool)} {last : Text}

end Envelope

/-! ## Both sides open an envelope -/

theorem Unparted.filter (htext : Unparted text) (cond : Char → Bool) :
    Unparted (text.filter cond) :=
  fun ch hch => htext ch (List.mem_of_mem_filter hch)

/-- A field without blanks, separators and backslashes. -/
def PlainField (text : Text) : Prop :=
  ∀ ch ∈ text, isSpace ch = false ∧ ch ∉ ['*', '|', '\\']

theorem PlainField.filter (htext : PlainField text) :
    text.filter (fun ch => !isSpace ch) = text := by
  rw [List.filter_eq_self]
  exact fun ch hch => by rw [(htext ch hch).1]; rfl

theorem PlainField.settled (htext : PlainField text) (separator : Char)
    (escaped : Bool) : trim (Labels.settled separator (text, escaped)) = text := by
  have hlast : text.getLast? ≠ some '\\' := by
    intro hlast
    exact (htext _ (List.mem_of_getLast? hlast)).2 (by simp)
  have hsettled : Labels.settled separator (text, escaped) = text := by
    rw [Labels.settled]
    split
    · exact chop_eq_self_iff.mpr hlast
    · rfl
  rw [hsettled]
  exact trim_of_not_isSpace fun ch hch => (htext ch hch).1

theorem AddressPart.plainField (part : AddressPart) : PlainField part.text := by
  intro ch hch
  refine ⟨(part.plain ch hch).1, fun hmem => (part.plain ch hch).2 ?_⟩
  exact List.mem_cons_of_mem _ hmem

section Address

variable {separator : Char} {escaped : ℕ → Bool} {warehouse name : Text} {a b c : AddressPart}

end Address

end SentryWms.Labels
