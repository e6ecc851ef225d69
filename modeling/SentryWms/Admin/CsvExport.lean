import SentryWms.Core.Csv

/-!
# The table export

`exportCSV` writes the table that `DataTable` shows. Cells that hold text are put between
quotes, with an apostrophe before what a spreadsheet would take for a formula. Labels, numbers,
lists and the like are joined as they are.
-/

namespace SentryWms.Admin

abbrev Text : Type := List Char

/-! ## Cells -/

/-- A finite number, as it is written. -/
structure Number where
  text : Text
  given : text ≠ []
  digits : ∀ char ∈ text, char ∈ "0123456789.e+-".toList

/-- What a row holds under a key, and what `csvValue` and `render` may return. -/
inductive Cell where
  | text (val : Text)
  | number (val : Number)
  | bool (val : Bool)
  | null
  | undefined
  | array (items : List Cell)
  | object

mutual

/-- A value as `join` writes it. -/
def Cell.joined : Cell → Text
  | .text val => val
  | .number val => val.text
  | .bool val => if val then "true".toList else "false".toList
  | .null => []
  | .undefined => []
  | .array items => [','].intercalate (joinedAll items)
  | .object => "[object Object]".toList

def joinedAll : List Cell → List Text
  | [] => []
  | item :: items => item.joined :: joinedAll items

end

namespace Cell

@[simp]
theorem joined_text (val : Text) : (text val).joined = val :=
  rfl

@[simp]
theorem joined_bool (val : Bool) :
    (bool val).joined = if val then "true".toList else "false".toList :=
  rfl

@[simp]
theorem joined_object : object.joined = "[object Object]".toList :=
  rfl

end Cell

/-- `[=+\-@\t\r]`. -/
def formulaChar (char : Char) : Bool :=
  ['=', '+', '-', '@', '\t', '\r'].contains char

/-- `/^[=+\-@\t\r]/.test(val)`. -/
def startsFormula (val : Text) : Bool :=
  val.head?.any formulaChar

def sanitizeCsvValue : Cell → Cell
  | .text val =>
      let escaped := '"' :: (Csv.escape val ++ ['"'])
      if startsFormula val then .text ('"' :: '\'' :: (Csv.escape val ++ ['"']))
      else .text escaped
  | .null => .text []
  | .undefined => .text []
  | val => val

/-! ## The table -/

/-- A row holds a value under each key, `undefined` where it has none. -/
abbrev Row : Type := Text → Cell

structure Column where
  label : Text
  key : Text
  csvValue : Option (Row → Cell)
  render : Option (Row → Cell)

def computeCellValue (col : Column) (row : Row) : Cell :=
  match col.csvValue with
  | some csvValue => csvValue row
  | none =>
      match col.render with
      | some render =>
          match render row with
          | .null => row col.key
          | .undefined => row col.key
          | .array _ => row col.key
          | .object => row col.key
          | rendered => rendered
      | none => row col.key

/-- The text that `exportCSV` saves; `t` shows the labels in the user's language. -/
def exportCSV (t : Text → Text) (columns : List Column) (data : Option (List Row)) :
    Option Text :=
  match data with
  | none => none
  | some [] => none
  | some data =>
      let headers := columns.map fun c => t c.label
      let rows := data.map fun row =>
        columns.map fun c => sanitizeCsvValue (computeCellValue c row)
      some (['\n'].intercalate ([','].intercalate headers ::
        rows.map fun r => [','].intercalate (r.map Cell.joined)))

/-! ## Reading back -/

/-- The field that a cell should be read back as. -/
def fieldOf : Cell → Text
  | .text val => if startsFormula val then '\'' :: val else val
  | cell => cell.joined

/-- The export is read back as the labels and the rows, and no field of a text is a formula. -/
def ReadsBack (t : Text → Text) (columns : List Column) (rows : List Row) : Prop :=
  ∃ csv, exportCSV t columns (some rows) = some csv ∧
    Csv.parse csv = some ((columns.map fun c => t c.label) ::
      rows.map fun row => columns.map fun c => fieldOf (computeCellValue c row)) ∧
    ∀ row ∈ rows, ∀ column ∈ columns, ∀ val, computeCellValue column row = .text val →
      startsFormula (fieldOf (.text val)) = false

/-- No quote, comma or line break. -/
def Bare (val : Text) : Prop :=
  ∀ char ∈ val, Csv.bareChar char = true

instance (val : Text) : Decidable (Bare val) :=
  inferInstanceAs (Decidable (∀ char ∈ val, Csv.bareChar char = true))

/-- The cell leaves nothing in its line. -/
def Cell.Blank : Cell → Prop
  | .text _ => False
  | cell => cell.joined = []

/-- The labels and lists need no quotes, and a table of one column does not end in a blank
line. -/
structure Exportable (t : Text → Text) (columns : List Column) (rows : List Row) : Prop where
  shown : columns ≠ []
  labels : ∀ column ∈ columns, Bare (t column.label)
  arrays : ∀ row ∈ rows, ∀ column ∈ columns, ∀ items,
    computeCellValue column row = .array items → Bare (Cell.array items).joined
  last : ∀ column row, columns = [column] → rows.getLast? = some row →
    ¬(computeCellValue column row).Blank

def entryOf : Cell → Csv.Entry
  | .text val => .quoted (fieldOf (.text val))
  | cell => .bare cell.joined

theorem content_entryOf (cell : Cell) : (entryOf cell).content = fieldOf cell := by
  cases cell <;> rfl

theorem joined_sanitizeCsvValue (cell : Cell) :
    (sanitizeCsvValue cell).joined = (entryOf cell).written := by
  cases cell with
  | text val =>
      have hapostrophe : Csv.escape ('\'' :: val) = '\'' :: Csv.escape val := by
        simp [Csv.escape_cons]
      by_cases hformula : startsFormula val = true
      · rw [sanitizeCsvValue, if_pos hformula, entryOf, fieldOf, if_pos hformula, Cell.joined_text,
          Csv.Entry.written, hapostrophe, List.cons_append]
      · rw [sanitizeCsvValue, if_neg hformula, entryOf, fieldOf, if_neg hformula, Cell.joined_text,
          Csv.Entry.written]
  | _ => rfl

theorem startsFormula_fieldOf (val : Text) : startsFormula (fieldOf (.text val)) = false := by
  rw [fieldOf]
  split
  · rfl
  · next hplain => simpa using hplain

/-! ## The cells that are written as they are -/

theorem bare_number (val : Number) : Bare val.text := by
  have hdigits : ∀ char ∈ "0123456789.e+-".toList, Csv.bareChar char = true := by
    simp [Csv.bareChar]
  exact fun char hchar => hdigits char (val.digits char hchar)

theorem sound_entryOf_iff (cell : Cell) :
    (entryOf cell).Sound ↔ ∀ items, cell = .array items → Bare (Cell.array items).joined := by
  have hfixed : ∀ {cell : Cell}, (entryOf cell).Sound → (∀ items, cell ≠ .array items) →
      ((entryOf cell).Sound ↔
        ∀ items, cell = .array items → Bare (Cell.array items).joined) :=
    fun hsound hother => iff_of_true hsound fun items heq => absurd heq (hother items)
  cases cell with
  | text val => exact hfixed trivial (by rintro _ ⟨⟩)
  | number val => exact hfixed (bare_number val) (by rintro _ ⟨⟩)
  | bool val =>
      have hbool : Bare (Cell.bool val).joined := by
        cases val <;> simp [Bare, Csv.bareChar]
      exact hfixed hbool (by rintro _ ⟨⟩)
  | null => exact hfixed (List.forall_mem_nil _) (by rintro _ ⟨⟩)
  | undefined => exact hfixed (List.forall_mem_nil _) (by rintro _ ⟨⟩)
  | array items =>
      constructor
      · intro hsound others heq
        exact heq ▸ hsound
      · exact fun harrays => harrays items rfl
  | object =>
      have hobject : Bare Cell.object.joined := by simp [Bare, Csv.bareChar]
      exact hfixed hobject (by rintro _ ⟨⟩)

theorem entryOf_eq_blank_iff (cell : Cell) : entryOf cell = .bare [] ↔ cell.Blank := by
  cases cell <;> simp [entryOf, Cell.Blank]

/-! ## The export as a table -/

variable {t : Text → Text} {columns : List Column} {rows : List Row}

def linesOf (t : Text → Text) (columns : List Column) (rows : List Row) :
    List (List Csv.Entry) :=
  (columns.map fun c => .bare (t c.label)) ::
    rows.map fun row => columns.map fun c => entryOf (computeCellValue c row)

theorem exportCSV_eq (hrows : rows ≠ []) :
    exportCSV t columns (some rows) = some (Csv.tableText (linesOf t columns rows)) := by
  have hlabels : (columns.map fun c => t c.label) =
      (columns.map fun c => Csv.Entry.bare (t c.label)).map Csv.Entry.written := by
    rw [List.map_map]
    rfl
  have hcells : ∀ row : Row,
      (columns.map fun c => sanitizeCsvValue (computeCellValue c row)).map Cell.joined =
        (columns.map fun c => entryOf (computeCellValue c row)).map Csv.Entry.written := by
    intro row
    rw [List.map_map, List.map_map]
    exact List.map_congr_left fun c _ => joined_sanitizeCsvValue _
  cases rows with
  | nil => exact absurd rfl hrows
  | cons row rows =>
      rw [exportCSV, Csv.tableText, linesOf]
      simp only [hlabels, List.map_cons, List.map_map, Function.comp_def, hcells, Csv.lineText]
      · rintro ⟨⟩

theorem contents_linesOf :
    (linesOf t columns rows).map (fun line => line.map Csv.Entry.content) =
      (columns.map fun c => t c.label) ::
        rows.map fun row => columns.map fun c => fieldOf (computeCellValue c row) := by
  rw [linesOf]
  simp only [List.map_cons, List.map_map, Function.comp_def, content_entryOf]
  rfl

theorem readable_linesOf_iff (hrows : rows ≠ []) :
    Csv.Readable (linesOf t columns rows) ↔ Exportable t columns rows := by
  have hlast : (linesOf t columns rows).getLast? ≠ some [.bare []] ↔
      ∀ column row, columns = [column] → rows.getLast? = some row →
        ¬(computeCellValue column row).Blank := by
    obtain ⟨row, hrow⟩ := Option.isSome_iff_exists.mp (List.getLast?_isSome.mpr hrows)
    have hline : (linesOf t columns rows).getLast? =
        some (columns.map fun c => entryOf (computeCellValue c row)) := by
      rw [linesOf, List.getLast?_cons, List.getLast?_map, hrow]
      rfl
    rw [hline, ne_eq, Option.some.injEq, List.map_eq_singleton_iff]
    simp only [entryOf_eq_blank_iff, hrow, Option.some.injEq]
    constructor
    · rintro hblank column _ rfl rfl hcell
      exact hblank ⟨column, rfl, hcell⟩
    · rintro hblank ⟨column, rfl, hcell⟩
      exact hblank column row rfl rfl hcell
  constructor
  · rintro ⟨hfilled, hsound, hblank⟩
    obtain ⟨hlabels, hcells⟩ := List.forall_mem_cons.mp hsound
    refine ⟨?_, ?_, ?_, hlast.mp hblank⟩
    · rintro rfl
      exact hfilled _ List.mem_cons_self rfl
    · exact fun column hcolumn => hlabels _ (List.mem_map_of_mem hcolumn)
    · intro row hrow column hcolumn items hcell
      have hentry := hcells _ (List.mem_map_of_mem hrow) _ (List.mem_map_of_mem hcolumn)
      exact (sound_entryOf_iff _).mp hentry items hcell
  · rintro ⟨hshown, hlabels, harrays, hblank⟩
    refine ⟨?_, ?_, hlast.mpr hblank⟩
    · intro line hline
      rcases List.mem_cons.mp hline with rfl | hline
      · simpa using hshown
      · obtain ⟨row, -, rfl⟩ := List.mem_map.mp hline
        simpa using hshown
    · refine List.forall_mem_cons.mpr ⟨?_, ?_⟩
      · intro entry hentry
        obtain ⟨column, hcolumn, rfl⟩ := List.mem_map.mp hentry
        exact hlabels column hcolumn
      · intro line hline entry hentry
        obtain ⟨row, hrow, rfl⟩ := List.mem_map.mp hline
        obtain ⟨column, hcolumn, rfl⟩ := List.mem_map.mp hentry
        exact (sound_entryOf_iff _).mpr (harrays row hrow column hcolumn)

/-- The export is read back if and only if the table is exportable. -/
theorem readsBack_iff (hrows : rows ≠ []) :
    ReadsBack t columns rows ↔ Exportable t columns rows := by
  rw [← readable_linesOf_iff hrows, ← Csv.parse_tableText_iff, contents_linesOf, ReadsBack]
  simp only [exportCSV_eq hrows, Option.some.injEq, exists_eq_left']
  exact and_iff_left fun row _ column _ val _ => startsFormula_fieldOf val

/-! ## A table of users -/

/-- The users of the admin, with the warehouses they work in. -/
def userColumns : List Column :=
  [⟨"Utilizator".toList, ['u'], none, none⟩, ⟨"Depozite".toList, ['w'], none, none⟩]

def userRow (name : Text) (warehouses : Cell) : Row := fun key =>
  if key = ['u'] then .text name else if key = ['w'] then warehouses else .undefined

def oneDigit (digit : Char) (hdigit : digit ∈ "0123456789.e+-".toList) : Number :=
  ⟨[digit], List.cons_ne_nil _ _, List.forall_mem_singleton.mpr hdigit⟩

theorem readsBack_users :
    ReadsBack id userColumns [userRow "=Ana \"A\", ".toList .null] := by
  refine (readsBack_iff (List.cons_ne_nil _ _)).mpr ⟨List.cons_ne_nil _ _, ?_, ?_, nofun⟩
  · simp [userColumns, Bare, Csv.bareChar]
  · simp [userColumns, computeCellValue, userRow]

/-- A list of two numbers is read back as two fields. -/
theorem listCell_split :
    ¬ ∀ (t : Text → Text) (columns : List Column) (rows : List Row),
      rows ≠ [] → ReadsBack t columns rows := by
  intro hclaim
  obtain ⟨csv, hcsv, hparse, -⟩ := hclaim id userColumns
    [userRow ['A'] (.array [.number (oneDigit '1' (by simp)), .number (oneDigit '2' (by simp))])]
    (List.cons_ne_nil _ _)
  obtain rfl := Option.some.inj hcsv
  revert hparse
  decide +kernel

end SentryWms.Admin
