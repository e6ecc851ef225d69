import SentryWms.Catalog.Products
import SentryWms.Core.Grouping
import SentryWms.Core.Transition

/-!
# The review form

`catalogToForm` puts the product data of an item into the fields of the handheld's form, the
lists one value a line, and `formToCatalog` reads the fields back for the server to check
again. Both sides drop blanks, but not the same ones, and each has its own test for the
address of an image.
-/

namespace SentryWms.Catalog

open Python

/-! ## Texts on the handheld -/

/-- `\s`, and what `trim` drops. -/
def jsSpace (char : Char) : Bool :=
  let code := char.toNat
  (decide (9 ≤ code) && decide (code ≤ 13)) ||
    (decide (0x2000 ≤ code) && decide (code ≤ 0x200A)) ||
    [0x20, 0xA0, 0x1680, 0x2028, 0x2029, 0x202F, 0x205F, 0x3000, 0xFEFF].contains code

/-- `value.trim()`. -/
def jsTrim (content : String) : String :=
  String.ofList (PyText.trimBy jsSpace content.toList)

/-- `value.split(/\r?\n/)`. -/
def splitLines : List Char → List (List Char)
  | [] => [[]]
  | '\r' :: '\n' :: rest => [] :: splitLines rest
  | '\n' :: rest => [] :: splitLines rest
  | char :: rest => (splitLines rest).modifyHead (List.cons char)

/-- `values.join('\n')`. -/
def joinLines (values : List String) : String :=
  String.ofList (['\n'].intercalate (values.map String.toList))

/-- `list`, which reads the values of a field. -/
def listOf (field : String) : List String :=
  (((splitLines field.toList).map fun line => jsTrim (String.ofList line)).filter
    fun value => value != "").eraseDups

/-- `/^https:\/\/[^/\s]+(?:\/[^\s]*)?$/`. -/
def isImageAddress (address : String) : Bool :=
  match address.toList with
  | 'h' :: 't' :: 't' :: 'p' :: 's' :: ':' :: '/' :: '/' :: rest =>
      rest.head?.any (fun first => first != '/') && rest.all fun char => !jsSpace char
  | _ => false

/-! ## The form -/

structure ReferenceRow where
  code : String
  type : String
  manufacturer : String

/-- `{ code: row.code || '', ... }`, of a reference whose values are texts. -/
def referenceRow (row : Dict) : ReferenceRow :=
  let value (key : String) : String :=
    match row.get? key with
    | some (.text content) => content
    | _ => ""
  ⟨value "code", value "type", value "manufacturer"⟩

/-- What `catalogToForm` fills in. -/
structure CatalogForm where
  name : String
  brand : String
  code : String
  category : String
  description : String
  eans : String
  images : String
  references : List ReferenceRow

def ProductData.imageUrl (catalog : ProductData) : Option String :=
  catalog.images.head?

def catalogToForm (catalog : ProductData) : CatalogForm where
  name := catalog.name
  brand := catalog.brand
  code := catalog.code
  category := catalog.category
  description := catalog.description
  eans := joinLines catalog.eans
  images := joinLines (if catalog.images ≠ [] then catalog.images else catalog.imageUrl.toList)
  references := catalog.references.map referenceRow

/-- What `formToCatalog` returns. -/
structure EditedCatalog where
  name : String
  brand : String
  code : String
  category : String
  description : String
  eans : List String
  images : List String
  references : List ReferenceRow

/-- The fields of a reference without blanks around them. -/
def ReferenceRow.trimmed (row : ReferenceRow) : ReferenceRow :=
  ⟨jsTrim row.code, jsTrim row.type, jsTrim row.manufacturer⟩

/-- The catalogue entry in the fields of a form, before it is checked. -/
def CatalogForm.edited (form : CatalogForm) : EditedCatalog where
  name := jsTrim form.name
  brand := jsTrim form.brand
  code := jsTrim form.code
  category := jsTrim form.category
  description := jsTrim form.description
  eans := listOf form.eans
  images := listOf form.images
  references := form.references.map ReferenceRow.trimmed

def formToCatalog (form : CatalogForm) : Except String EditedCatalog :=
  let catalog := form.edited
  if catalog.name = "" ∨ catalog.brand = "" ∨ catalog.code = "" then
    .error "Completează denumirea, marca și codul producătorului."
  else if 50 < catalog.eans.length ∨ 10 < catalog.images.length ∨
      40 < catalog.references.length then
    .error "Maximum 50 coduri EAN, 10 imagini și 40 referințe."
  else if catalog.images.any fun address => !isImageAddress address then
    .error "Imaginile trebuie să fie adrese HTTPS valide, câte una pe linie."
  else if catalog.references.any fun row => row.code == "" then
    .error "Completează codul fiecărei referințe sau elimină referința goală."
  else .ok catalog

def ReferenceRow.body (row : ReferenceRow) : Dict :=
  [("code", .text row.code), ("type", .text row.type), ("manufacturer", .text row.manufacturer)]

def EditedCatalog.body (catalog : EditedCatalog) : Dict :=
  [("name", .text catalog.name), ("brand", .text catalog.brand), ("code", .text catalog.code),
    ("category", .text catalog.category), ("description", .text catalog.description),
    ("eans", .list (catalog.eans.map Value.text)),
    ("images", .list (catalog.images.map Value.text)),
    ("references", .list (catalog.references.map fun row => .object row.body))]

/-- Opened and saved without a change, the entry is accepted and is the same again. -/
def KeptUnchanged (library : Library) (catalog : ProductData) : Prop :=
  ∃ edited, formToCatalog (catalogToForm catalog) = .ok edited ∧
    validateCatalog library (.object edited.body) true = .ok catalog

/-! ## Lines -/

theorem splitLines_cons {char : Char} {rest : List Char} (hchar : char ≠ '\n')
    (hpair : char = '\r' → rest.head? ≠ some '\n') :
    splitLines (char :: rest) = (splitLines rest).modifyHead (List.cons char) := by
  rw [splitLines.eq_def]
  split
  · next heq => cases heq
  · next heq =>
      cases heq
      exact absurd rfl (hpair rfl)
  · next heq =>
      cases heq
      exact absurd rfl hchar
  · next heq =>
      cases heq
      rfl

theorem splitLines_ne_nil (text : List Char) : splitLines text ≠ [] := by
  fun_induction splitLines text with
  | case1 => exact List.cons_ne_nil _ _
  | case2 rest ih => exact List.cons_ne_nil _ _
  | case3 rest ih => exact List.cons_ne_nil _ _
  | case4 char rest _ _ ih => simpa using ih

variable {line : List Char}

theorem mem_splitLines {text : List Char} (hline : line ∈ splitLines text) :
    '\n' ∉ line := by
  fun_induction splitLines text generalizing line with
  | case1 =>
      rw [List.mem_singleton] at hline
      exact hline ▸ List.not_mem_nil
  | case2 rest ih =>
      rcases List.mem_cons.mp hline with rfl | hrest
      · exact List.not_mem_nil
      · exact ih hrest
  | case3 rest ih =>
      rcases List.mem_cons.mp hline with rfl | hrest
      · exact List.not_mem_nil
      · exact ih hrest
  | case4 char rest _ hchar ih =>
      cases hsplit : splitLines rest with
      | nil => exact absurd hsplit (splitLines_ne_nil _)
      | cons first lines =>
          rw [hsplit, List.modifyHead_cons, List.mem_cons] at hline
          rcases hline with rfl | hrest
          · rw [List.mem_cons, not_or]
            exact ⟨fun heq => hchar heq.symm, ih (hsplit ▸ List.mem_cons_self)⟩
          · exact ih (hsplit ▸ List.mem_cons_of_mem _ hrest)

theorem splitLines_append (hline : '\n' ∉ line) (hlast : line.getLast? ≠ some '\r')
    (rest : List Char) :
    splitLines (line ++ '\n' :: rest) = line :: splitLines rest := by
  induction line with
  | nil => simp [splitLines]
  | cons char line ih =>
      rw [List.mem_cons, not_or] at hline
      have hpair : char = '\r' → (line ++ '\n' :: rest).head? ≠ some '\n' := by
        rintro rfl
        cases line with
        | nil => exact absurd rfl hlast
        | cons next line =>
            intro heq
            rw [List.cons_append, List.head?_cons, Option.some.injEq] at heq
            exact hline.2 (heq ▸ List.mem_cons_self)
      have hrest : line.getLast? ≠ some '\r' := by
        intro heq
        apply hlast
        rw [List.getLast?_cons, heq]
        rfl
      rw [List.cons_append, splitLines_cons (Ne.symm hline.1) hpair, ih hline.2 hrest,
        List.modifyHead_cons]

theorem splitLines_of_not_mem (hline : '\n' ∉ line) :
    splitLines line = [line] := by
  induction line with
  | nil => rfl
  | cons char line ih =>
      rw [List.mem_cons, not_or] at hline
      have hpair : char = '\r' → line.head? ≠ some '\n' := by
        intro _ heq
        exact hline.2 (List.mem_of_head? heq)
      rw [splitLines_cons (Ne.symm hline.1) hpair, ih hline.2, List.modifyHead_cons]

theorem splitLines_joinLines {values : List String} (hvalues : values ≠ [])
    (hlines : ∀ value ∈ values, '\n' ∉ value.toList ∧ value.toList.getLast? ≠ some '\r') :
    splitLines (joinLines values).toList = values.map String.toList := by
  rw [joinLines, String.toList_ofList]
  induction values with
  | nil => exact absurd rfl hvalues
  | cons value values ih =>
      have hfirst := hlines value List.mem_cons_self
      cases values with
      | nil =>
          rw [List.map_singleton, List.intercalate_singleton]
          exact splitLines_of_not_mem hfirst.1
      | cons next values =>
          have hrest := ih (List.cons_ne_nil _ _) fun value hvalue =>
            hlines value (List.mem_cons_of_mem _ hvalue)
          rw [List.map_cons, List.map_cons, List.intercalate_cons_cons, List.append_assoc,
            List.singleton_append, splitLines_append hfirst.1 hfirst.2]
          rw [List.map_cons] at hrest
          rw [hrest]

/-! ## Blanks -/

/-- No byte order mark at either end: the handheld drops it, the server does not. -/
def Unmarked (content : String) : Prop :=
  content.toList.head? ≠ some '\uFEFF' ∧ content.toList.getLast? ≠ some '\uFEFF'

instance (content : String) : Decidable (Unmarked content) :=
  inferInstanceAs (Decidable (_ ∧ _))

theorem isSpace_of_jsSpace {char : Char} (hspace : jsSpace char = true)
    (hmark : char ≠ '\uFEFF') : PyText.isSpace char = true := by
  have hcode : char.toNat ≠ 0xFEFF := by
    intro heq
    apply hmark
    rw [← Char.ofNat_toNat char, heq]
  simp only [jsSpace, PyText.isSpace, Bool.or_eq_true, Bool.and_eq_true, decide_eq_true_eq,
    List.contains_eq_mem, List.mem_cons, List.not_mem_nil, or_false] at hspace ⊢
  omega

theorem length_cleaned_le (content : String) : (cleaned content).length ≤ content.length := by
  rw [cleaned, String.length_ofList, ← String.length_toList]
  exact PyText.length_trimBy_le _ _

variable {content : String}

theorem strip_of_cleaned (hclean : cleaned content = content) :
    PyText.trimBy PyText.isSpace content.toList = content.toList := by
  have htext := congrArg String.toList hclean
  rwa [cleaned, String.toList_ofList] at htext

theorem jsTrim_of_unmarked (hclean : cleaned content = content)
    (hunmarked : Unmarked content) : jsTrim content = content := by
  obtain ⟨hfirst, hlast⟩ := PyText.trimBy_eq_self_iff.mp (strip_of_cleaned hclean)
  have hkept : PyText.trimBy jsSpace content.toList = content.toList := by
    rw [PyText.trimBy_eq_self_iff]
    constructor
    · intro char hchar
      by_contra hspace
      rw [Bool.not_eq_false] at hspace
      have hpython := isSpace_of_jsSpace hspace fun heq => hunmarked.1 (heq ▸ hchar)
      rw [hfirst char hchar] at hpython
      cases hpython
    · intro char hchar
      by_contra hspace
      rw [Bool.not_eq_false] at hspace
      have hpython := isSpace_of_jsSpace hspace fun heq => hunmarked.2 (heq ▸ hchar)
      rw [hlast char hchar] at hpython
      cases hpython
  rw [jsTrim, hkept, String.ofList_toList]

/-- What comes back after both sides have dropped their blanks has lost nothing. -/
theorem unmarked_of_cleaned_jsTrim
    (hround : cleaned (jsTrim content) = content) : Unmarked content := by
  have hlength : content.length ≤ (jsTrim content).length :=
    calc content.length = (cleaned (jsTrim content)).length := by rw [hround]
      _ ≤ (jsTrim content).length := length_cleaned_le _
  rw [jsTrim, String.length_ofList, ← String.length_toList] at hlength
  obtain ⟨hfirst, hlast⟩ :=
    PyText.trimBy_eq_self_iff.mp (PyText.trimBy_eq_self_of_length hlength)
  constructor
  · intro hmark
    exact absurd (hfirst _ hmark) (by decide)
  · intro hmark
    exact absurd (hlast _ hmark) (by decide)

/-! ## Lists -/

def serverValues (values : List String) : List String :=
  ((values.map cleaned).filter fun value => value != "").eraseDups

structure Stored (values : List String) : Prop where
  nodup : values.Nodup
  clean : ∀ value ∈ values, cleaned value = value
  nonempty : ∀ value ∈ values, value ≠ ""

theorem stored_serverValues (values : List String) : Stored (serverValues values) := by
  constructor
  · exact Grouping.nodup_eraseDups _
  · intro value hvalue
    obtain ⟨source, -, rfl⟩ :=
      List.mem_map.mp (List.mem_filter.mp (List.mem_eraseDups.mp hvalue)).1
    exact cleaned_cleaned source
  · intro value hvalue
    simpa using (List.mem_filter.mp (List.mem_eraseDups.mp hvalue)).2

variable {values : List String}

theorem Stored.getLast?_ne (hstored : Stored values) {value : String}
    (hvalue : value ∈ values) : value.toList.getLast? ≠ some '\r' := by
  intro hlast
  have hclean := strip_of_cleaned (hstored.clean value hvalue)
  exact absurd ((PyText.trimBy_eq_self_iff.mp hclean).2 _ hlast) (by decide)

theorem Stored.serverValues (hstored : Stored values) :
    Catalog.serverValues values = values := by
  have hclean : values.map cleaned = values := by
    conv_rhs => rw [← List.map_id values]
    exact List.map_congr_left hstored.clean
  have hkept : (values.filter fun value => value != "") = values := by
    rw [List.filter_eq_self]
    exact fun value hvalue => by simpa using hstored.nonempty value hvalue
  rw [Catalog.serverValues, hclean, hkept, Grouping.eraseDups_of_nodup hstored.nodup]

theorem Stored.lines (hstored : Stored values)
    (hlines : ∀ value ∈ values, '\n' ∉ value.toList) :
    listOf (joinLines values) =
      ((values.map jsTrim).filter fun value => value != "").eraseDups := by
  by_cases hempty : values = []
  · subst hempty
    simp [joinLines, listOf, splitLines, jsTrim, PyText.trimBy]
  · have hsplit := splitLines_joinLines hempty fun value hvalue =>
      ⟨hlines value hvalue, hstored.getLast?_ne hvalue⟩
    have htrimmed : (values.map String.toList).map
        (fun line => jsTrim (String.ofList line)) = values.map jsTrim := by
      rw [List.map_map]
      exact List.map_congr_left fun value _ => by rw [Function.comp_apply, String.ofList_toList]
    rw [listOf, hsplit, htrimmed]

theorem Stored.listOf_joinLines (hstored : Stored values)
    (hkept : ∀ value ∈ values, Unmarked value ∧ '\n' ∉ value.toList) :
    listOf (joinLines values) = values := by
  have htrim : values.map jsTrim = values := by
    conv_rhs => rw [← List.map_id values]
    exact List.map_congr_left fun value hvalue =>
      jsTrim_of_unmarked (hstored.clean value hvalue) (hkept value hvalue).1
  have hnonempty : (values.filter fun value => value != "") = values := by
    rw [List.filter_eq_self]
    exact fun value hvalue => by simpa using hstored.nonempty value hvalue
  rw [hstored.lines fun value hvalue => (hkept value hvalue).2, htrim, hnonempty,
    Grouping.eraseDups_of_nodup hstored.nodup]

theorem Stored.of_round (hstored : Stored values)
    (hround : Catalog.serverValues (listOf (joinLines values)) = values) :
    ∀ value ∈ values, Unmarked value ∧ '\n' ∉ value.toList := by
  have hlines : ∀ value ∈ values, '\n' ∉ value.toList := by
    intro value hvalue hbreak
    rw [← hround] at hvalue
    obtain ⟨source, hsource, rfl⟩ :=
      List.mem_map.mp (List.mem_filter.mp (List.mem_eraseDups.mp hvalue)).1
    obtain ⟨line, hline, rfl⟩ :=
      List.mem_map.mp (List.mem_filter.mp (List.mem_eraseDups.mp hsource)).1
    rw [cleaned, String.toList_ofList] at hbreak
    have htrimmed := PyText.mem_of_mem_trimBy hbreak
    rw [jsTrim, String.toList_ofList, String.toList_ofList] at htrimmed
    exact mem_splitLines hline (PyText.mem_of_mem_trimBy htrimmed)
  have hsublist : values.Sublist ((values.map jsTrim).map cleaned) := by
    conv_lhs => rw [← hround]
    rw [hstored.lines hlines, Catalog.serverValues]
    refine (Grouping.eraseDups_sublist _).trans (List.filter_sublist.trans ?_)
    exact ((Grouping.eraseDups_sublist _).trans List.filter_sublist).map _
  have hsame : (values.map jsTrim).map cleaned = values.map id := by
    rw [List.map_id]
    exact (hsublist.eq_of_length (by simp)).symm
  rw [List.map_map] at hsame
  intro value hvalue
  exact ⟨unmarked_of_cleaned_jsTrim (List.map_inj_left.mp hsame value hvalue),
    hlines value hvalue⟩

theorem of_isImageAddress {address : String} (haddress : isImageAddress address = true) :
    Unmarked address ∧ '\n' ∉ address.toList := by
  rw [isImageAddress] at haddress
  split at haddress
  · next rest htext =>
      rw [Bool.and_eq_true, List.all_eq_true] at haddress
      obtain ⟨hfirst, hrest⟩ := haddress
      have hplain : ∀ char ∈ rest, jsSpace char = false :=
        fun char hchar => by simpa using hrest char hchar
      rw [Unmarked, htext]
      refine ⟨⟨fun hmark => absurd (Option.some.inj hmark) (by decide), ?_⟩, ?_⟩
      · cases rest with
        | nil => cases hfirst
        | cons char rest =>
            simp only [List.getLast?_cons_cons]
            intro hlast
            exact absurd (hplain _ (List.mem_of_getLast? hlast)) (by decide)
      · simp only [List.mem_cons, not_or]
        refine ⟨by decide, by decide, by decide, by decide, by decide, by decide, by decide,
          by decide, fun hmem => ?_⟩
        exact absurd (hplain _ hmem) (by decide)
  · cases haddress

/-! ## What the server accepts -/

variable {library : Library} {fields : Dict} {catalog : ProductData}

structure Accepted (library : Library) (fields : Dict) (catalog : ProductData) : Prop where
  name : formField library fields true "name" 200 = .ok catalog.name
  code : formField library fields true "code" 64 = .ok catalog.code
  brand : formField library fields true "brand" 200 = .ok catalog.brand
  category : formField library fields false "category" 100 = .ok catalog.category
  description : formField library fields false "description" 1000 = .ok catalog.description
  eans : formList library fields "eans" 50 50 = .ok catalog.eans
  images : formList library fields "images" 10 2000 = .ok catalog.images
  https : ∀ image ∈ catalog.images, library.isHttps image = true
  references : ∃ rows, (fields.get? "references").getD (.list []) = .list rows ∧
    rows.length ≤ 40 ∧ rows.mapM (formReference library) = .ok catalog.references

theorem accepted_of_validateCatalog
    (hvalid : validateCatalog library (.object fields) true = .ok catalog) :
    Accepted library fields catalog := by
  obtain ⟨name, hname, hvalid⟩ := Transition.bind_eq_ok.mp hvalid
  obtain ⟨code, hcode, hvalid⟩ := Transition.bind_eq_ok.mp hvalid
  obtain ⟨brand, hbrand, hvalid⟩ := Transition.bind_eq_ok.mp hvalid
  obtain ⟨category, hcategory, hvalid⟩ := Transition.bind_eq_ok.mp hvalid
  obtain ⟨description, hdescription, hvalid⟩ := Transition.bind_eq_ok.mp hvalid
  obtain ⟨eans, heans, hvalid⟩ := Transition.bind_eq_ok.mp hvalid
  obtain ⟨images, himages, hvalid⟩ := Transition.bind_eq_ok.mp hvalid
  split at hvalid
  · cases hvalid
  · next hhttps =>
      split at hvalid
      · next rows hrows =>
          split at hvalid
          · cases hvalid
          · next hlength =>
              obtain ⟨references, hreferences, hvalid⟩ := Transition.bind_eq_ok.mp hvalid
              cases hvalid
              refine ⟨hname, hcode, hbrand, hcategory, hdescription, heans, himages, ?_, rows,
                hrows, not_lt.mp hlength, hreferences⟩
              intro image himage
              by_contra hplain
              exact hhttps (List.any_eq_true.mpr ⟨image, himage, by simpa using hplain⟩)
      · cases hvalid

theorem Accepted.validateCatalog (haccepted : Accepted library fields catalog) :
    Catalog.validateCatalog library (.object fields) true = .ok catalog := by
  obtain ⟨rows, hrows, hlength, hreferences⟩ := haccepted.references
  have hhttps : (catalog.images.any fun address => !library.isHttps address) = false := by
    rw [List.any_eq_false]
    intro image himage
    simp [haccepted.https image himage]
  rw [Catalog.validateCatalog]
  simp only [haccepted.name, haccepted.code, haccepted.brand, haccepted.category,
    haccepted.description, haccepted.eans, haccepted.images, bind, Except.bind, hhttps, hrows,
    Bool.false_eq_true, if_false, if_neg hlength.not_gt, hreferences]

structure StoredText (required : Bool) (limit : ℕ) (content : String) : Prop where
  clean : cleaned content = content
  within : content.length ≤ limit
  given : required = true → content ≠ ""

variable {key : String} {limit : ℕ}

theorem formField_eq_ok_iff {required : Bool} {value : String} :
    formField library fields required key limit = .ok value ↔
      value = fieldText library fields key ∧ StoredText required limit value := by
  rw [formField]
  have hclean : cleaned (fieldText library fields key) = fieldText library fields key :=
    cleaned_cleaned _
  split
  · next hrefused =>
      simp only [reduceCtorEq, false_iff, not_and]
      rintro rfl hstored
      rcases hrefused with hlong | ⟨hrequired, hempty⟩
      · exact absurd hstored.within hlong.not_ge
      · exact hstored.given hrequired hempty
  · next hkept =>
      rw [not_or, not_lt, not_and] at hkept
      rw [Except.ok.injEq, eq_comm]
      constructor
      · rintro rfl
        exact ⟨rfl, hclean, hkept.1, hkept.2⟩
      · exact And.left

structure StoredList (limit width : ℕ) (values : List String) : Prop extends Stored values where
  few : values.length ≤ limit
  within : ∀ value ∈ values, value.length ≤ width

theorem formList_eq_ok_iff {width : ℕ} :
    formList library fields key limit width = .ok values ↔
      ∃ items, (fields.get? key).getD (.list []) = .list items ∧
        StoredList limit width values ∧ items.length ≤ limit ∧
        values = serverValues (items.map (str library)) := by
  rw [formList]
  split
  · next items hitems =>
      have hvalues : ((items.map fun value => cleaned (str library value)).filter
          fun value => value != "").eraseDups = serverValues (items.map (str library)) := by
        rw [serverValues, List.map_map]
        rfl
      have hlength : (serverValues (items.map (str library))).length ≤ items.length :=
        calc (serverValues (items.map (str library))).length
            ≤ (((items.map (str library)).map cleaned).filter fun value => value != "").length :=
              (Grouping.eraseDups_sublist _).length_le
          _ ≤ ((items.map (str library)).map cleaned).length := List.length_filter_le _ _
          _ = items.length := by rw [List.length_map, List.length_map]
      simp only [hvalues, hitems, Value.list.injEq, exists_eq_left']
      split
      · next hmany =>
          simp only [reduceCtorEq, false_iff, not_and]
          exact fun _ hfew => absurd hfew hmany.not_ge
      · next hfew =>
          split
          · next hwide =>
              simp only [reduceCtorEq, false_iff, not_and]
              rintro hstored - rfl
              obtain ⟨value, hvalue, hlt⟩ := List.any_eq_true.mp hwide
              exact (hstored.within value hvalue).not_gt (of_decide_eq_true hlt)
          · next hnarrow =>
              rw [Except.ok.injEq, eq_comm]
              refine ⟨?_, fun hvalues => hvalues.2.2⟩
              rintro rfl
              refine ⟨⟨stored_serverValues _, hlength.trans (not_lt.mp hfew), ?_⟩,
                not_lt.mp hfew, rfl⟩
              intro value hvalue
              by_contra hlt
              exact hnarrow
                (List.any_eq_true.mpr ⟨value, hvalue, decide_eq_true (not_le.mp hlt)⟩)
  · next hother =>
      simp only [reduceCtorEq, false_iff, not_exists, not_and]
      exact fun items hitems => absurd hitems (hother items)

theorem formList_texts {width : ℕ} {given : List String}
    (hfield : fields.get? key = some (.list (given.map Value.text))) :
    formList library fields key limit width = .ok values ↔
      StoredList limit width values ∧ given.length ≤ limit ∧ values = serverValues given := by
  have htexts : (given.map Value.text).map (str library) = given := by
    rw [List.map_map]
    exact List.map_id given
  simp only [formList_eq_ok_iff, hfield, Option.getD_some, Value.list.injEq, exists_eq_left',
    htexts, List.length_map]

structure StoredReference (row : ReferenceRow) : Prop where
  code : StoredText true 200 row.code
  type : StoredText false 200 row.type
  manufacturer : StoredText false 200 row.manufacturer

/-- The fields of a reference without the blanks the server drops. -/
def ReferenceRow.stripped (row : ReferenceRow) : ReferenceRow :=
  ⟨cleaned row.code, cleaned row.type, cleaned row.manufacturer⟩

def rowOf (library : Library) (row : Dict) : ReferenceRow :=
  ⟨fieldText library row "code", fieldText library row "type",
    fieldText library row "manufacturer"⟩

variable {row : ReferenceRow}

theorem storedReference_iff (hclean : row.stripped = row) :
    StoredReference row ↔ ¬(row.code = "" ∨ 200 < row.code.length ∨ 200 < row.type.length ∨
      200 < row.manufacturer.length) := by
  simp only [not_or, not_lt]
  constructor
  · intro hstored
    exact ⟨hstored.code.given rfl, hstored.code.within, hstored.type.within,
      hstored.manufacturer.within⟩
  · rintro ⟨hgiven, hcode, htype, hmanufacturer⟩
    exact ⟨⟨congrArg ReferenceRow.code hclean, hcode, fun _ => hgiven⟩,
      ⟨congrArg ReferenceRow.type hclean, htype, nofun⟩,
      ⟨congrArg ReferenceRow.manufacturer hclean, hmanufacturer, nofun⟩⟩

theorem formReference_eq_ok_iff {row result : Dict} :
    formReference library (.object row) = .ok result ↔
      result = (rowOf library row).body ∧ StoredReference (rowOf library row) := by
  have hclean : (rowOf library row).stripped = rowOf library row := by
    simp only [rowOf, ReferenceRow.stripped, fieldText, cleaned_cleaned]
  have hform : formReference library (.object row) =
      if (rowOf library row).code = "" ∨ 200 < (rowOf library row).code.length ∨
        200 < (rowOf library row).type.length ∨ 200 < (rowOf library row).manufacturer.length then
        .error "Codul referinței este obligatoriu; maximum 200 de caractere per câmp."
      else .ok (rowOf library row).body := rfl
  rw [hform, storedReference_iff hclean]
  split
  · next hrefused =>
      rw [iff_false_left (by rintro ⟨⟩)]
      exact fun hresult => hresult.2 hrefused
  · next hkept =>
      rw [Except.ok.injEq, eq_comm]
      exact ⟨fun hresult => ⟨hresult, hkept⟩, And.left⟩

theorem formReference_body {result : Dict} :
    formReference library (.object row.body) = .ok result ↔
      result = row.stripped.body ∧ StoredReference row.stripped := by
  have hcode : Dict.get? row.body "code" = some (.text row.code) := rfl
  have htype : Dict.get? row.body "type" = some (.text row.type) := rfl
  have hmanufacturer : Dict.get? row.body "manufacturer" = some (.text row.manufacturer) := rfl
  rw [formReference_eq_ok_iff, rowOf, fieldText_of_get hcode, fieldText_of_get htype,
    fieldText_of_get hmanufacturer, ReferenceRow.stripped]

/-- An entry as the server stores it. -/
structure StoredCatalog (library : Library) (catalog : ProductData)
    (rows : List ReferenceRow) : Prop where
  name : StoredText true 200 catalog.name
  code : StoredText true 64 catalog.code
  brand : StoredText true 200 catalog.brand
  category : StoredText false 100 catalog.category
  description : StoredText false 1000 catalog.description
  eans : StoredList 50 50 catalog.eans
  images : StoredList 10 2000 catalog.images
  https : ∀ image ∈ catalog.images, library.isHttps image = true
  listed : catalog.references = rows.map ReferenceRow.body
  few : rows.length ≤ 40
  references : ∀ row ∈ rows, StoredReference row

theorem storedRows_of_forall₂ {rows : List Value} {results : List Dict}
    (hresults : List.Forall₂ (fun row result => formReference library row = .ok result)
      rows results) :
    ∃ stored : List ReferenceRow, results = stored.map ReferenceRow.body ∧
      stored.length = rows.length ∧ ∀ row ∈ stored, StoredReference row := by
  induction hresults with
  | nil => exact ⟨[], rfl, rfl, by simp⟩
  | @cons row result _ _ hfirst _ ih =>
      obtain ⟨stored, rfl, hlength, hstored⟩ := ih
      cases row with
      | object row =>
          obtain ⟨rfl, hrow⟩ := formReference_eq_ok_iff.mp hfirst
          exact ⟨rowOf library row :: stored, rfl, congrArg (· + 1) hlength,
            List.forall_mem_cons.mpr ⟨hrow, hstored⟩⟩
      | _ => cases hfirst

theorem Accepted.stored (haccepted : Accepted library fields catalog) :
    ∃ rows, StoredCatalog library catalog rows := by
  obtain ⟨given, -, hlength, hreferences⟩ := haccepted.references
  obtain ⟨rows, hrows, hsame, hstored⟩ :=
    storedRows_of_forall₂ (Transition.forall₂_of_mapM hreferences)
  obtain ⟨_, -, heans, -⟩ := formList_eq_ok_iff.mp haccepted.eans
  obtain ⟨_, -, himages, -⟩ := formList_eq_ok_iff.mp haccepted.images
  exact ⟨rows, (formField_eq_ok_iff.mp haccepted.name).2,
    (formField_eq_ok_iff.mp haccepted.code).2, (formField_eq_ok_iff.mp haccepted.brand).2,
    (formField_eq_ok_iff.mp haccepted.category).2,
    (formField_eq_ok_iff.mp haccepted.description).2, heans, himages, haccepted.https, hrows,
    hsame ▸ hlength, hstored⟩

/-! ## There and back -/

/-- What the handheld leaves as it is. -/
structure Kept (catalog : ProductData) : Prop where
  texts : ∀ content ∈ [catalog.name, catalog.brand, catalog.code, catalog.category,
    catalog.description], Unmarked content
  eans : ∀ ean ∈ catalog.eans, Unmarked ean ∧ '\n' ∉ ean.toList
  images : ∀ image ∈ catalog.images, isImageAddress image = true
  references : ∀ row ∈ catalog.references.map referenceRow,
    ∀ content ∈ [row.code, row.type, row.manufacturer], Unmarked content

theorem formToCatalog_eq_ok_iff {form : CatalogForm} {edited : EditedCatalog} :
    formToCatalog form = .ok edited ↔
      edited = form.edited ∧
        ¬(edited.name = "" ∨ edited.brand = "" ∨ edited.code = "") ∧
        ¬(50 < edited.eans.length ∨ 10 < edited.images.length ∨ 40 < edited.references.length) ∧
        (∀ image ∈ edited.images, isImageAddress image = true) ∧
        ∀ row ∈ edited.references, row.code ≠ "" := by
  rw [formToCatalog]
  constructor
  · intro hform
    split at hform
    · cases hform
    · next hgiven =>
        split at hform
        · cases hform
        · next hfew =>
            split at hform
            · cases hform
            · next himages =>
                split at hform
                · cases hform
                · next hcodes =>
                    cases hform
                    exact ⟨rfl, hgiven, hfew, by simpa using himages, by simpa using hcodes⟩
  · rintro ⟨rfl, hgiven, hfew, himages, hcodes⟩
    rw [if_neg hgiven, if_neg hfew, if_neg (by simpa using himages), if_neg (by simpa using hcodes)]

@[simp]
theorem referenceRow_body (row : ReferenceRow) : referenceRow row.body = row :=
  rfl

theorem ReferenceRow.body_injective : Function.Injective ReferenceRow.body := by
  intro row other hbody
  rw [← referenceRow_body row, ← referenceRow_body other, hbody]

theorem mapM_formReference {given rows : List ReferenceRow} :
    (given.map fun row => Value.object row.body).mapM (formReference library) =
        .ok (rows.map ReferenceRow.body) ↔
      given.map ReferenceRow.stripped = rows ∧ ∀ row ∈ rows, StoredReference row := by
  induction given generalizing rows with
  | nil => cases rows <;> simp [pure, Except.pure]
  | cons row given ih =>
      simp only [List.map_cons, List.mapM_cons, Transition.bind_eq_ok]
      constructor
      · rintro ⟨first, hfirst, rest, hrest, hall⟩
        cases rows with
        | nil => cases hall
        | cons stored rows =>
            obtain ⟨rfl, rfl⟩ := List.cons.inj (Except.ok.inj hall)
            obtain ⟨hbody, hstored⟩ := formReference_body.mp hfirst
            obtain ⟨rfl, hrows⟩ := ih.mp hrest
            obtain rfl := ReferenceRow.body_injective hbody
            exact ⟨rfl, List.forall_mem_cons.mpr ⟨hstored, hrows⟩⟩
      · rintro ⟨rfl, hstored⟩
        obtain ⟨hfirst, hrest⟩ := List.forall_mem_cons.mp hstored
        exact ⟨_, formReference_body.mpr ⟨rfl, hfirst⟩, _, ih.mpr ⟨rfl, hrest⟩, rfl⟩

/-- The entry as the form would give it back untouched. -/
def ProductData.editedWith (catalog : ProductData) (rows : List ReferenceRow) : EditedCatalog where
  name := catalog.name
  brand := catalog.brand
  code := catalog.code
  category := catalog.category
  description := catalog.description
  eans := catalog.eans
  images := catalog.images
  references := rows

theorem catalogToForm_images (catalog : ProductData) :
    (catalogToForm catalog).images = joinLines catalog.images := by
  cases himages : catalog.images <;> simp [catalogToForm, ProductData.imageUrl, himages]

variable {rows : List ReferenceRow}

theorem StoredCatalog.catalogToForm_references (hstored : StoredCatalog library catalog rows) :
    (catalogToForm catalog).references = rows := by
  have hreferences : (catalogToForm catalog).references =
      (rows.map ReferenceRow.body).map referenceRow := by
    rw [← hstored.listed]
    rfl
  rw [hreferences, List.map_map]
  exact List.map_id rows

theorem StoredReference.trimmed (hstored : StoredReference row)
    (hkept : ∀ content ∈ [row.code, row.type, row.manufacturer], Unmarked content) :
    row.trimmed = row := by
  rw [ReferenceRow.trimmed, jsTrim_of_unmarked hstored.code.clean (hkept _ (by simp)),
    jsTrim_of_unmarked hstored.type.clean (hkept _ (by simp)),
    jsTrim_of_unmarked hstored.manufacturer.clean (hkept _ (by simp))]

theorem StoredReference.stripped (hstored : StoredReference row) :
    row.stripped = row := by
  rw [ReferenceRow.stripped, hstored.code.clean, hstored.type.clean, hstored.manufacturer.clean]

theorem ReferenceRow.unmarked (hround : row.trimmed.stripped = row) :
    ∀ content ∈ [row.code, row.type, row.manufacturer], Unmarked content := by
  obtain ⟨code, type, manufacturer⟩ := row
  simp only [ReferenceRow.trimmed, ReferenceRow.stripped, ReferenceRow.mk.injEq] at hround
  obtain ⟨hcode, htype, hmanufacturer⟩ := hround
  rw [List.forall_mem_cons, List.forall_mem_cons, List.forall_mem_singleton]
  exact ⟨unmarked_of_cleaned_jsTrim hcode, unmarked_of_cleaned_jsTrim htype,
    unmarked_of_cleaned_jsTrim hmanufacturer⟩

theorem StoredCatalog.edited (hstored : StoredCatalog library catalog rows)
    (hkept : Kept catalog) : (catalogToForm catalog).edited = catalog.editedWith rows := by
  have htrimmed : rows.map ReferenceRow.trimmed = rows := by
    conv_rhs => rw [← List.map_id rows]
    refine List.map_congr_left fun row hrow => ?_
    refine (hstored.references row hrow).trimmed (hkept.references row ?_)
    rw [show catalog.references.map referenceRow = rows from hstored.catalogToForm_references]
    exact hrow
  have himages : ∀ image ∈ catalog.images, Unmarked image ∧ '\n' ∉ image.toList :=
    fun image himage => of_isImageAddress (hkept.images image himage)
  rw [CatalogForm.edited, ProductData.editedWith, catalogToForm_images,
    hstored.catalogToForm_references, htrimmed,
    hstored.images.toStored.listOf_joinLines himages]
  have htexts := hkept.texts
  simp only [List.forall_mem_cons] at htexts
  obtain ⟨hname, hbrand, hcode, hcategory, hdescription, -⟩ := htexts
  congr
  · exact jsTrim_of_unmarked hstored.name.clean hname
  · exact jsTrim_of_unmarked hstored.brand.clean hbrand
  · exact jsTrim_of_unmarked hstored.code.clean hcode
  · exact jsTrim_of_unmarked hstored.category.clean hcategory
  · exact jsTrim_of_unmarked hstored.description.clean hdescription
  · exact hstored.eans.toStored.listOf_joinLines hkept.eans

theorem StoredCatalog.accepted (hstored : StoredCatalog library catalog rows) :
    Accepted library (catalog.editedWith rows).body catalog := by
  have hfield : ∀ {required : Bool} {key content : String} {limit : ℕ},
      Dict.get? (catalog.editedWith rows).body key = some (.text content) →
      StoredText required limit content →
      formField library (catalog.editedWith rows).body required key limit = .ok content := by
    intro required key content limit hget htext
    rw [formField_eq_ok_iff, fieldText_of_get hget]
    exact ⟨htext.clean.symm, htext⟩
  have hlist : ∀ {key : String} {limit width : ℕ} {given : List String},
      Dict.get? (catalog.editedWith rows).body key = some (.list (given.map Value.text)) →
      StoredList limit width given →
      formList library (catalog.editedWith rows).body key limit width = .ok given := by
    intro key limit width given hget hgiven
    exact (formList_texts hget).mpr ⟨hgiven, hgiven.few, hgiven.toStored.serverValues.symm⟩
  refine ⟨hfield rfl hstored.name, hfield rfl hstored.code, hfield rfl hstored.brand,
    hfield rfl hstored.category, hfield rfl hstored.description, hlist rfl hstored.eans,
    hlist rfl hstored.images, hstored.https, rows.map fun row => .object row.body, rfl, ?_, ?_⟩
  · rw [List.length_map]
    exact hstored.few
  · rw [hstored.listed, mapM_formReference]
    refine ⟨?_, hstored.references⟩
    conv_rhs => rw [← List.map_id rows]
    exact List.map_congr_left fun row hrow => (hstored.references row hrow).stripped

theorem StoredCatalog.keptUnchanged (hstored : StoredCatalog library catalog rows)
    (hkept : Kept catalog) : KeptUnchanged library catalog := by
  refine ⟨catalog.editedWith rows, ?_, hstored.accepted.validateCatalog⟩
  rw [formToCatalog_eq_ok_iff]
  refine ⟨(hstored.edited hkept).symm, ?_, ?_, hkept.images, ?_⟩
  · rintro (hname | hbrand | hcode)
    · exact hstored.name.given rfl hname
    · exact hstored.brand.given rfl hbrand
    · exact hstored.code.given rfl hcode
  · rintro (heans | himages | hreferences)
    · exact absurd hstored.eans.few heans.not_ge
    · exact absurd hstored.images.few himages.not_ge
    · exact absurd hstored.few hreferences.not_ge
  · exact fun row hrow => (hstored.references row hrow).code.given rfl

theorem StoredCatalog.kept (hstored : StoredCatalog library catalog rows)
    (hround : KeptUnchanged library catalog) : Kept catalog := by
  obtain ⟨_, hform, hvalid⟩ := hround
  obtain ⟨rfl, -, -, himages, -⟩ := formToCatalog_eq_ok_iff.mp hform
  have haccepted := accepted_of_validateCatalog hvalid
  have htext : ∀ {required : Bool} {key content : String} {limit : ℕ},
      Dict.get? (catalogToForm catalog).edited.body key = some (.text (jsTrim content)) →
      formField library (catalogToForm catalog).edited.body required key limit = .ok content →
      Unmarked content := by
    intro required key content limit hget hfield
    have hvalue := (formField_eq_ok_iff.mp hfield).1
    rw [fieldText_of_get hget] at hvalue
    exact unmarked_of_cleaned_jsTrim hvalue.symm
  have hlist : ∀ {key : String} {limit width : ℕ} {given : List String}, Stored given →
      Dict.get? (catalogToForm catalog).edited.body key =
        some (.list ((listOf (joinLines given)).map Value.text)) →
      formList library (catalogToForm catalog).edited.body key limit width = .ok given →
      ∀ value ∈ given, Unmarked value ∧ '\n' ∉ value.toList := by
    intro key limit width given hgiven hget hfield
    exact hgiven.of_round ((formList_texts hget).mp hfield).2.2.symm
  have himagesKept := hlist hstored.images.toStored
    (by rw [← catalogToForm_images]; rfl) haccepted.images
  refine ⟨?_, hlist hstored.eans.toStored rfl haccepted.eans, ?_, ?_⟩
  · simp only [List.forall_mem_cons, List.not_mem_nil, false_imp_iff, implies_true, and_true]
    exact ⟨htext rfl haccepted.name, htext rfl haccepted.brand, htext rfl haccepted.code,
      htext rfl haccepted.category, htext rfl haccepted.description⟩
  · have hsame : (catalogToForm catalog).edited.images = catalog.images := by
      rw [CatalogForm.edited, catalogToForm_images]
      exact hstored.images.toStored.listOf_joinLines himagesKept
    rwa [hsame] at himages
  · obtain ⟨given, hgiven, -, hreferences⟩ := haccepted.references
    have hbodies : given = (rows.map ReferenceRow.trimmed).map fun row => Value.object row.body := by
      rw [← hstored.catalogToForm_references]
      exact (Value.list.inj hgiven).symm
    rw [hbodies, hstored.listed, mapM_formReference, List.map_map] at hreferences
    rw [show catalog.references.map referenceRow = rows from hstored.catalogToForm_references]
    have hsame := hreferences.1.trans (List.map_id rows).symm
    exact fun row hrow => ReferenceRow.unmarked (List.map_inj_left.mp hsame row hrow)

/-- An entry survives being opened and saved if and only if neither side changes its texts
and the handheld takes its images. -/
theorem keptUnchanged_iff {body : Value} {catalog : ProductData}
    (hvalid : validateCatalog library body true = .ok catalog) :
    KeptUnchanged library catalog ↔ Kept catalog := by
  cases body with
  | object fields =>
      obtain ⟨rows, hstored⟩ := (accepted_of_validateCatalog hvalid).stored
      exact ⟨hstored.kept, hstored.keptUnchanged⟩
  | _ => cases hvalid

def oilFilter (image : String) : ProductData where
  name := "Filtru ulei"
  code := "OC 90"
  brand := "MAHLE"
  category := ""
  description := ""
  eans := ["4009026018460"]
  images := [image]
  references := [ReferenceRow.body ⟨"7701", "OEM", ""⟩]

theorem storedText_iff {required : Bool} :
    StoredText required limit content ↔
      cleaned content = content ∧ content.length ≤ limit ∧ (required = true → content ≠ "") :=
  ⟨fun htext => ⟨htext.clean, htext.within, htext.given⟩,
    fun htext => ⟨htext.1, htext.2.1, htext.2.2⟩⟩

theorem stored_oilFilter {image : String} (hclean : cleaned image = image)
    (hgiven : image ≠ "") (hwithin : image.length ≤ 2000)
    (hhttps : plainLibrary.isHttps image = true) :
    StoredCatalog plainLibrary (oilFilter image) [⟨"7701", "OEM", ""⟩] where
  name := (storedText_iff.mpr (by decide +kernel) : StoredText true 200 "Filtru ulei")
  code := (storedText_iff.mpr (by decide +kernel) : StoredText true 64 "OC 90")
  brand := (storedText_iff.mpr (by decide +kernel) : StoredText true 200 "MAHLE")
  category := (storedText_iff.mpr (by decide +kernel) : StoredText false 100 "")
  description := (storedText_iff.mpr (by decide +kernel) : StoredText false 1000 "")
  eans := (⟨⟨by decide, by decide +kernel, by decide +kernel⟩, by decide, by decide +kernel⟩ :
    StoredList 50 50 ["4009026018460"])
  images := ⟨⟨List.nodup_singleton _, by simpa [oilFilter] using hclean,
    by simpa [oilFilter] using hgiven⟩, by simp [oilFilter], by simpa [oilFilter] using hwithin⟩
  https := by simpa [oilFilter] using hhttps
  listed := rfl
  few := by decide
  references := List.forall_mem_singleton.mpr ⟨storedText_iff.mpr (by decide +kernel),
    storedText_iff.mpr (by decide +kernel), storedText_iff.mpr (by decide +kernel)⟩

theorem keptUnchanged_oilFilter :
    KeptUnchanged plainLibrary (oilFilter "https://cdn.ro/oc90.jpg") := by
  have hstored := @stored_oilFilter "https://cdn.ro/oc90.jpg" (by decide +kernel) (by decide)
    (by decide +kernel) (by decide +kernel)
  refine (keptUnchanged_iff hstored.accepted.validateCatalog).mpr ⟨?_, ?_, ?_, ?_⟩
  all_goals decide +kernel

/-- The server takes an address with a blank in its path, and the handheld then refuses to
save the entry. -/
theorem spacedImage_refused :
    ¬ ∀ (library : Library) (body : Value) (catalog : ProductData),
      validateCatalog library body true = .ok catalog → KeptUnchanged library catalog := by
  intro hclaim
  have hstored := @stored_oilFilter "https://cdn.ro/filtru ulei.jpg" (by decide +kernel)
    (by decide) (by decide +kernel) (by decide +kernel)
  obtain ⟨edited, hform, -⟩ := hclaim _ _ _ hstored.accepted.validateCatalog
  have hrefused : (formToCatalog (catalogToForm
      (oilFilter "https://cdn.ro/filtru ulei.jpg"))).toOption = none := by
    decide +kernel
  rw [hform] at hrefused
  cases hrefused

end SentryWms.Catalog
