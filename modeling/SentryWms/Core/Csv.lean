import Mathlib

/-!
# Tables of comma separated values

A record is a line, its fields stand between commas. A field between quotes holds any
characters, a quote as two; a field without them holds no quote, comma or line break. Lines end
in a line feed, with or without a carriage return before it, and the last line may lack it.
-/

namespace Csv

/-! ## Writing -/

/-- An entry of a table, written as it stands or between quotes. -/
inductive Entry where
  | bare (content : List Char)
  | quoted (content : List Char)

/-- Every quote is written twice. -/
def escape (content : List Char) : List Char :=
  content.flatMap fun char => if char = '"' then ['"', '"'] else [char]

namespace Entry

def content : Entry → List Char
  | bare content => content
  | quoted content => content

def written : Entry → List Char
  | bare content => content
  | quoted content => '"' :: (escape content ++ ['"'])

end Entry

def lineText (line : List Entry) : List Char :=
  [','].intercalate (line.map Entry.written)

def tableText (lines : List (List Entry)) : List Char :=
  ['\n'].intercalate (lines.map lineText)

/-! ## Reading -/

/-- Where in a field the reader stands. -/
inductive Mode where
  | start
  | bare
  | quoted
  /-- After a quote that ends the field, unless another one follows. -/
  | closed
  /-- After a carriage return. -/
  | returned

/-- The field that is read, the fields after it in its record, and the records after that. -/
structure Reading where
  field : List Char
  fields : List (List Char)
  records : List (List (List Char))

namespace Reading

def ended : Reading :=
  ⟨[], [], []⟩

def push (char : Char) (reading : Reading) : Reading :=
  { reading with field := char :: reading.field }

def nextField (reading : Reading) : Reading :=
  ⟨[], reading.field :: reading.fields, reading.records⟩

def nextRecord (reading : Reading) : Reading :=
  ⟨[], [], (reading.field :: reading.fields) :: reading.records⟩

end Reading

/-- What follows a line break: another record, unless nothing does. -/
def afterBreak (rest : List Char) (reading : Option Reading) : Option Reading :=
  if rest = [] then some .ended else reading.map .nextRecord

/-- A character that ends a field, or another one. -/
def separator (char : Char) (rest : List Char) (next : Mode → Option Reading)
    (other : Option Reading) : Option Reading :=
  if char = ',' then (next .start).map .nextField
  else if char = '\n' then afterBreak rest (next .start)
  else if char = '\r' then next .returned
  else other

def step (char : Char) (rest : List Char) (next : Mode → Option Reading) :
    Mode → Option Reading
  | .start =>
      separator char rest next
        (if char = '"' then next .quoted else (next .bare).map (.push char))
  | .bare => separator char rest next (if char = '"' then none else (next .bare).map (.push char))
  | .quoted => if char = '"' then next .closed else (next .quoted).map (.push char)
  | .closed =>
      separator char rest next (if char = '"' then (next .quoted).map (.push char) else none)
  | .returned => if char = '\n' then afterBreak rest (next .start) else none

/-- Read what is left of a table. -/
def read (mode : Mode) : List Char → Option Reading
  | [] =>
      match mode with
      | .quoted | .returned => none
      | _ => some .ended
  | char :: rest => step char rest (fun mode => read mode rest) mode

/-- The records of a table. -/
def parse (text : List Char) : Option (List (List (List Char))) :=
  if text = [] then some []
  else (read .start text).map fun reading =>
    (reading.field :: reading.fields) :: reading.records

example : parse "a,\"b\"\"c\",\r\n1,,\n".toList =
    some [["a".toList, "b\"c".toList, []], ["1".toList, [], []]] := by decide

/-! ## Fields -/

/-- A character that a field without quotes may hold. -/
def bareChar (char : Char) : Bool :=
  char != '"' && char != ',' && char != '\n' && char != '\r'

/-- An entry that is read back: one without quotes holds no separator. -/
def Entry.Sound : Entry → Prop
  | bare content => ∀ char ∈ content, bareChar char = true
  | quoted _ => True

/-- What may follow an entry. -/
def Separated (rest : List Char) : Prop :=
  rest = [] ∨ rest.head? = some ',' ∨ rest.head? = some '\n'

@[simp]
theorem escape_nil : escape [] = [] :=
  rfl

theorem escape_cons (char : Char) (content : List Char) :
    escape (char :: content) =
      (if char = '"' then ['"', '"'] else [char]) ++ escape content :=
  List.flatMap_cons

variable {rest : List Char}

theorem Separated.cases (hrest : Separated rest) :
    rest = [] ∨ (∃ tail, rest = ',' :: tail) ∨ ∃ tail, rest = '\n' :: tail := by
  rcases hrest with rfl | hhead | hhead
  · exact .inl rfl
  · obtain ⟨tail, rfl⟩ := List.head?_eq_some_iff.mp hhead
    exact .inr (.inl ⟨tail, rfl⟩)
  · obtain ⟨tail, rfl⟩ := List.head?_eq_some_iff.mp hhead
    exact .inr (.inr ⟨tail, rfl⟩)

@[simp]
theorem read_closed_nil : read .closed [] = some .ended :=
  rfl

@[simp]
theorem read_closed_comma (rest : List Char) :
    read .closed (',' :: rest) = (read .start rest).map .nextField :=
  rfl

@[simp]
theorem read_closed_break (rest : List Char) :
    read .closed ('\n' :: rest) = afterBreak rest (read .start rest) :=
  rfl

variable {mode : Mode}

/-- Where no field goes on, it does not matter how the last one was written. -/
theorem read_of_separated (hrest : Separated rest)
    (hmode : mode = .start ∨ mode = .bare) : read mode rest = read .closed rest := by
  rcases hrest.cases with rfl | ⟨tail, rfl⟩ | ⟨tail, rfl⟩ <;> rcases hmode with rfl | rfl <;> rfl

variable {reading : Reading}

theorem field_of_afterBreak {next : Option Reading}
    (hread : afterBreak rest next = some reading) : reading.field = [] := by
  rw [afterBreak] at hread
  split at hread
  · cases hread
    rfl
  · obtain ⟨_, -, rfl⟩ := Option.map_eq_some_iff.mp hread
    rfl

theorem read_cons (mode : Mode) (char : Char) (rest : List Char) :
    read mode (char :: rest) = step char rest (fun mode => read mode rest) mode :=
  rfl

variable {text : List Char}

theorem field_of_returned
    (hread : read .returned text = some reading) : reading.field = [] := by
  cases text with
  | nil => cases hread
  | cons char rest =>
      rw [read_cons, step] at hread
      split at hread
      · exact field_of_afterBreak hread
      · cases hread

/-- A field ends where a separator stands, or goes on. -/
theorem of_separator {char : Char} {other : Option Reading}
    (hread : separator char rest (fun mode => read mode rest) other = some reading) :
    reading.field = [] ∨
      (char ≠ ',' ∧ char ≠ '\n' ∧ char ≠ '\r') ∧ other = some reading := by
  rw [separator] at hread
  split at hread
  · obtain ⟨_, -, rfl⟩ := Option.map_eq_some_iff.mp hread
    exact .inl rfl
  · next hcomma =>
      split at hread
      · exact .inl (field_of_afterBreak hread)
      · next hbreak =>
          split at hread
          · exact .inl (field_of_returned hread)
          · next hreturn => exact .inr ⟨⟨hcomma, hbreak, hreturn⟩, hread⟩

theorem field_of_separated (hrest : Separated rest)
    (hread : read .closed rest = some reading) : reading.field = [] := by
  rcases hrest.cases with rfl | ⟨tail, rfl⟩ | ⟨tail, rfl⟩
  · cases hread
    rfl
  · rw [read_closed_comma, Option.map_eq_some_iff] at hread
    obtain ⟨_, -, rfl⟩ := hread
    rfl
  · exact field_of_afterBreak hread

/-! ## What is written is read -/

namespace Reading

/-- The reading with more characters at the front of its field. -/
def prepend (content : List Char) (reading : Reading) : Reading :=
  { reading with field := content ++ reading.field }

@[simp]
theorem prepend_nil (reading : Reading) : reading.prepend [] = reading :=
  rfl

theorem push_prepend (char : Char) (content : List Char) (reading : Reading) :
    (reading.prepend content).push char = reading.prepend (char :: content) :=
  rfl

end Reading

theorem map_push_prepend (char : Char) (content : List Char) (reading : Option Reading) :
    (reading.map (Reading.prepend content)).map (Reading.push char) =
      reading.map (Reading.prepend (char :: content)) := by
  rw [Option.map_map]
  rfl

theorem read_bareChar {char : Char} (hchar : bareChar char = true)
    (hmode : mode = .start ∨ mode = .bare) :
    read mode (char :: rest) = (read .bare rest).map (.push char) := by
  simp only [bareChar, Bool.and_eq_true, bne_iff_ne] at hchar
  obtain ⟨⟨⟨hquote, hcomma⟩, hbreak⟩, hreturn⟩ := hchar
  rcases hmode with rfl | rfl <;> simp [read, step, separator, hquote, hcomma, hbreak, hreturn]

theorem read_bare {content : List Char} (hcontent : ∀ char ∈ content, bareChar char = true)
    (hrest : Separated rest) (hmode : mode = .start ∨ mode = .bare) :
    read mode (content ++ rest) = (read .closed rest).map (.prepend content) := by
  induction content generalizing mode with
  | nil =>
      rw [List.nil_append, read_of_separated hrest hmode]
      cases read .closed rest <;> rfl
  | cons char content ih =>
      obtain ⟨hchar, hcontent⟩ := List.forall_mem_cons.mp hcontent
      rw [List.cons_append, read_bareChar hchar hmode, ih hcontent (.inr rfl), map_push_prepend]

theorem read_quoted (content rest : List Char) :
    read .quoted (escape content ++ '"' :: rest) =
      (read .closed rest).map (.prepend content) := by
  induction content with
  | nil =>
      rw [escape_nil, List.nil_append]
      change read .closed rest = _
      cases read .closed rest <;> rfl
  | cons char content ih =>
      rw [escape_cons, ← map_push_prepend, ← ih]
      by_cases hquote : char = '"'
      · subst hquote
        rfl
      · simp [read, step, hquote]

variable {entry : Entry}

theorem read_entry (hentry : entry.Sound) (hrest : Separated rest) :
    read .start (entry.written ++ rest) =
      (read .closed rest).map (.prepend entry.content) := by
  cases entry with
  | bare content => exact read_bare hentry hrest (.inl rfl)
  | quoted content =>
      have hquoted : read .start ((Entry.quoted content).written ++ rest) =
          read .quoted (escape content ++ '"' :: rest) := by
        simp [Entry.written, read, step, separator]
      rw [hquoted, read_quoted]
      rfl

/-! ## What is read was written so -/

/-- A field without quotes holds no separator. -/
theorem bareChar_of_read (hread : read mode text = some reading)
    (hmode : mode = .bare ∨ mode = .start ∧ text.head? ≠ some '"') :
    ∀ char ∈ reading.field, bareChar char = true := by
  have hempty : ∀ {reading : Reading}, reading.field = [] →
      ∀ char ∈ reading.field, bareChar char = true := by
    intro reading hfield char hchar
    rw [hfield] at hchar
    cases hchar
  induction text generalizing mode reading with
  | nil =>
      rcases hmode with rfl | ⟨rfl, -⟩ <;> cases hread <;> exact hempty rfl
  | cons char text ih =>
      have hgoes : separator char text (fun mode => read mode text)
            (if char = '"' then none else (read .bare text).map (.push char)) =
          some reading := by
        rcases hmode with rfl | ⟨rfl, hhead⟩
        · exact hread
        · have hquote : char ≠ '"' := fun heq => hhead (heq ▸ rfl)
          rw [if_neg hquote]
          rwa [read_cons, step, if_neg hquote] at hread
      rcases of_separator hgoes with hfield | ⟨⟨hcomma, hbreak, hreturn⟩, hlater⟩
      · exact hempty hfield
      · split at hlater
        · cases hlater
        · next hquote =>
            obtain ⟨later, hnext, rfl⟩ := Option.map_eq_some_iff.mp hlater
            refine List.forall_mem_cons.mpr ⟨?_, ih hnext (.inl rfl)⟩
            simp [bareChar, hquote, hcomma, hbreak, hreturn]

/-- A field between quotes was written with its quotes doubled. -/
theorem escaped_of_read :
    (read .quoted text = some reading →
      ∃ rest, text = escape reading.field ++ '"' :: rest) ∧
    (read .closed text = some reading →
      ∃ rest, '"' :: text = escape reading.field ++ '"' :: rest) := by
  induction text generalizing reading with
  | nil =>
      refine ⟨(fun hread => nomatch hread), fun hread => ?_⟩
      cases hread
      exact ⟨[], rfl⟩
  | cons char text ih =>
      constructor
      · intro hread
        rw [read_cons, step] at hread
        split at hread
        · next hquote =>
            subst hquote
            exact ih.2 hread
        · next hquote =>
            obtain ⟨later, hnext, rfl⟩ := Option.map_eq_some_iff.mp hread
            obtain ⟨rest, rfl⟩ := ih.1 hnext
            refine ⟨rest, ?_⟩
            rw [Reading.push, escape_cons, if_neg hquote]
            rfl
      · intro hread
        rcases of_separator hread with hfield | ⟨-, hlater⟩
        · rw [hfield]
          exact ⟨char :: text, rfl⟩
        · split at hlater
          · next hquote =>
              subst hquote
              obtain ⟨later, hnext, rfl⟩ := Option.map_eq_some_iff.mp hlater
              obtain ⟨rest, rfl⟩ := ih.1 hnext
              exact ⟨rest, by rw [Reading.push, escape_cons, if_pos rfl]; rfl⟩
          · cases hlater

/-- A text is too short for what escaping it gives after one more quote. -/
theorem append_ne_escape {content : List Char} (hrest : rest.head? ≠ some '"') (quotes : ℕ)
    (tail : List Char) :
    content ++ rest ≠ List.replicate (quotes + 1) '"' ++ (escape content ++ tail) := by
  induction content generalizing quotes with
  | nil =>
      intro heq
      rw [List.nil_append, List.replicate_succ] at heq
      rw [heq] at hrest
      exact hrest rfl
  | cons char content ih =>
      intro heq
      rw [List.replicate_succ, List.cons_append, List.cons_append] at heq
      obtain ⟨rfl, heq⟩ := List.cons.inj heq
      apply ih (quotes + 1)
      rw [heq, escape_cons, if_pos rfl]
      simp [List.replicate_succ']

/-- An entry is read back as what it holds if and only if it is sound. -/
theorem read_entry_iff {fields : List (List Char)} {records : List (List (List Char))}
    (hrest : Separated rest) :
    read .start (entry.written ++ rest) = some ⟨entry.content, fields, records⟩ ↔
      entry.Sound ∧ read .closed rest = some ⟨[], fields, records⟩ := by
  have hback : entry.Sound →
      (read .start (entry.written ++ rest) = some ⟨entry.content, fields, records⟩ ↔
        read .closed rest = some ⟨[], fields, records⟩) := by
    intro hsound
    rw [read_entry hsound hrest, Option.map_eq_some_iff]
    constructor
    · rintro ⟨later, hlater, heq⟩
      have hfield := field_of_separated hrest hlater
      rw [hlater]
      simp only [Reading.prepend, Reading.mk.injEq] at heq
      rw [← heq.2.1, ← heq.2.2, ← hfield]
    · intro hlater
      exact ⟨_, hlater, by rw [Reading.prepend, List.append_nil]⟩
  refine ⟨fun hread => ?_, fun hsound => (hback hsound.1).mpr hsound.2⟩
  suffices hsound : entry.Sound from ⟨hsound, (hback hsound).mp hread⟩
  cases entry with
  | quoted content => trivial
  | bare content =>
      have hhead : rest.head? ≠ some '"' := by
        rcases hrest.cases with rfl | ⟨tail, rfl⟩ | ⟨tail, rfl⟩ <;> simp
      by_cases hquote : (content ++ rest).head? = some '"'
      · obtain ⟨text, htext⟩ := List.head?_eq_some_iff.mp hquote
        cases content with
        | nil => exact absurd hquote hhead
        | cons char content =>
            obtain ⟨rfl, rfl⟩ := List.cons.inj htext
            -- Read as a quoted field, it would have to be longer than it is.
            obtain ⟨tail, htail⟩ := escaped_of_read.1
              (show read .quoted (content ++ rest) = _ from hread)
            refine absurd (htail.trans ?_) (append_ne_escape hhead 1 ('"' :: tail))
            simp only [Entry.content, escape_cons, if_pos, List.append_assoc]
            rfl
      · exact bareChar_of_read hread (.inr ⟨rfl, hquote⟩)

/-! ## Tables -/

/-- What follows an entry, if the rest of its line is followed by `below`. -/
def lineRest (below : List Char) : List Entry → List Char
  | [] => below
  | entry :: line => ',' :: (entry.written ++ lineRest below line)

/-- What follows a line. -/
def tableRest : List (List Entry) → List Char
  | [] => []
  | line :: lines => '\n' :: (lineText line ++ tableRest lines)

theorem lineText_cons (entry : Entry) (line : List Entry) (below : List Char) :
    lineText (entry :: line) ++ below = entry.written ++ lineRest below line := by
  induction line generalizing entry with
  | nil => simp [lineText, lineRest]
  | cons next line ih =>
      rw [lineRest, ← ih next]
      simp only [lineText, List.map_cons, List.intercalate_cons_cons, List.append_assoc]
      rfl

theorem tableText_cons (line : List Entry) (lines : List (List Entry)) :
    tableText (line :: lines) = lineText line ++ tableRest lines := by
  induction lines generalizing line with
  | nil => simp [tableText, tableRest]
  | cons next lines ih =>
      rw [tableRest, ← ih next]
      simp only [tableText, List.map_cons, List.intercalate_cons_cons, List.append_assoc]
      rfl

theorem separated_lineRest {below : List Char} (hbelow : Separated below)
    (line : List Entry) : Separated (lineRest below line) := by
  cases line with
  | nil => exact hbelow
  | cons entry line => exact .inr (.inl rfl)

theorem separated_tableRest (lines : List (List Entry)) : Separated (tableRest lines) := by
  cases lines with
  | nil => exact .inl rfl
  | cons line lines => exact .inr (.inr rfl)

variable {line : List Entry}

theorem read_lineRest_iff {below : List Char} {records : List (List (List Char))}
    (hbelow : Separated below) :
    read .closed (lineRest below line) = some ⟨[], line.map Entry.content, records⟩ ↔
      (∀ entry ∈ line, entry.Sound) ∧ read .closed below = some ⟨[], [], records⟩ := by
  induction line with
  | nil => simp [lineRest]
  | cons entry line ih =>
      have hnext : ∀ reading : Reading,
          reading.nextField = ⟨[], (entry :: line).map Entry.content, records⟩ ↔
            reading = ⟨entry.content, line.map Entry.content, records⟩ := by
        intro reading
        cases reading
        simp [Reading.nextField, and_assoc]
      rw [lineRest, read_closed_comma, Option.map_eq_some_iff]
      simp only [hnext, exists_eq_right]
      rw [read_entry_iff (separated_lineRest hbelow line), ih, List.forall_mem_cons, and_assoc]

structure Readable (lines : List (List Entry)) : Prop where
  filled : ∀ line ∈ lines, line ≠ []
  sound : ∀ line ∈ lines, ∀ entry ∈ line, entry.Sound
  last : lines.getLast? ≠ some [.bare []]

theorem Entry.written_eq_nil : entry.written = [] ↔ entry = .bare [] := by
  cases entry <;> simp [Entry.written]

variable {lines : List (List Entry)}

theorem rest_eq_nil :
    entry.written ++ lineRest (tableRest lines) line = [] ↔
      (entry :: line = [.bare []]) ∧ lines = [] := by
  rw [List.append_eq_nil_iff, Entry.written_eq_nil]
  cases line <;> cases lines <;> simp [lineRest, tableRest]

theorem readable_cons :
    Readable ((entry :: line) :: lines) ↔
      ¬(entry :: line = [.bare []] ∧ lines = []) ∧ entry.Sound ∧
        (∀ entry ∈ line, entry.Sound) ∧ Readable lines := by
  have hlast : ((entry :: line) :: lines).getLast? ≠ some [.bare []] ↔
      ¬(entry :: line = [.bare []] ∧ lines = []) ∧ lines.getLast? ≠ some [.bare []] := by
    cases lines with
    | nil => simp
    | cons next lines => simp [List.getLast?_cons_cons]
  constructor
  · rintro ⟨hlines, hsound, hblank⟩
    obtain ⟨hfirst, hsound⟩ := List.forall_mem_cons.mp hsound
    obtain ⟨hentry, hline⟩ := List.forall_mem_cons.mp hfirst
    obtain ⟨hone, hblank⟩ := hlast.mp hblank
    exact ⟨hone, hentry, hline, (List.forall_mem_cons.mp hlines).2, hsound, hblank⟩
  · rintro ⟨hone, hentry, hline, hreadable⟩
    exact ⟨List.forall_mem_cons.mpr ⟨List.cons_ne_nil _ _, hreadable.filled⟩,
      List.forall_mem_cons.mpr ⟨List.forall_mem_cons.mpr ⟨hentry, hline⟩, hreadable.sound⟩,
      hlast.mpr ⟨hone, hreadable.last⟩⟩

theorem read_tableRest_iff :
    read .closed (tableRest lines) =
        some ⟨[], [], lines.map fun line => line.map Entry.content⟩ ↔ Readable lines := by
  induction lines with
  | nil => exact ⟨fun _ => ⟨by simp, by simp, by simp⟩, fun _ => rfl⟩
  | cons line lines ih =>
      have hrecord : ∀ reading : Reading, reading.nextRecord =
            ⟨[], [], (line :: lines).map fun line => line.map Entry.content⟩ ↔
          reading.field :: reading.fields = line.map Entry.content ∧
            reading.records = lines.map fun line => line.map Entry.content := by
        intro reading
        simp [Reading.nextRecord]
      rw [tableRest, read_closed_break, afterBreak]
      cases line with
      | nil =>
          refine iff_of_false ?_ fun hreadable =>
            hreadable.filled [] List.mem_cons_self rfl
          split
          · simp [Reading.ended]
          · rw [Option.map_eq_some_iff]
            rintro ⟨reading, -, heq⟩
            exact absurd ((hrecord reading).mp heq).1 (List.cons_ne_nil _ _)
      | cons entry line =>
          have hreading : ∀ reading : Reading, reading.nextRecord =
                ⟨[], [], ((entry :: line) :: lines).map fun line => line.map Entry.content⟩ ↔
              reading = ⟨entry.content, line.map Entry.content,
                lines.map fun line => line.map Entry.content⟩ := by
            intro reading
            rw [hrecord]
            cases reading
            simp [and_assoc]
          rw [readable_cons, lineText_cons, ← rest_eq_nil, ← ih,
            ← read_lineRest_iff (separated_tableRest lines),
            ← read_entry_iff (separated_lineRest (separated_tableRest lines) line)]
          split
          · next hempty => simp [hempty, Reading.ended]
          · next hgiven =>
              rw [Option.map_eq_some_iff]
              simp only [hreading, exists_eq_right, hgiven, not_false_eq_true, true_and]

theorem read_closed_break_eq (text : List Char) :
    read .closed ('\n' :: text) = (parse text).map fun records => ⟨[], [], records⟩ := by
  rw [read_closed_break, afterBreak, parse]
  split
  · rfl
  · rw [Option.map_map]
    rfl

/-- A table is read back as it was written if and only if it is readable. -/
theorem parse_tableText_iff :
    parse (tableText lines) = some (lines.map fun line => line.map Entry.content) ↔
      Readable lines := by
  cases lines with
  | nil => exact ⟨fun _ => read_tableRest_iff.mp rfl, fun _ => rfl⟩
  | cons line lines =>
      rw [← read_tableRest_iff, tableRest, ← tableText_cons, read_closed_break_eq,
        Option.map_eq_some_iff]
      simp

end Csv
