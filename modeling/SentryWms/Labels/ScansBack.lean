import SentryWms.Labels.BinLabels

/-!
# Labels that scan back

A reader takes the symbols of a printed label back to its text, with a question mark for every
character that the encoder does not have. What the handheld and the lookup make of that text
is the bin's own barcode when the barcode is plain.
-/

namespace SentryWms.Labels

open Relational

/-! ## A reader of labels -/

/-- The widths in sixes; what is left over is dropped. -/
def sixes : List ℕ → List (List ℕ)
  | a :: b :: c :: d :: e :: f :: rest => [a, b, c, d, e, f] :: sixes rest
  | _ => []

def readCode128B (encoded : Encoded) : Option Text :=
  let symbols := sixes (encoded.segments.map Segment.width)
  match symbols.dropLast.map fun symbol => patterns.idxOf symbol with
  | [] => none
  | start :: values =>
      if start = startB ∧ values.getLast? = some (checksum (start :: values.dropLast)) ∧
          symbols.getLast? = some (stopPattern.take 6) then
        some (values.dropLast.map fun value => Char.ofNat (value + 32))
      else none

/-- What a label shows for a character. -/
def printedChar (ch : Char) : Char :=
  if 32 ≤ ch.toNat ∧ ch.toNat ≤ 127 then ch else '?'

def printed (text : Text) : Text :=
  text.map printedChar

theorem sixes_append {symbol : List ℕ} (hsymbol : symbol.length = 6) (rest : List ℕ) :
    sixes (symbol ++ rest) = symbol :: sixes rest := by
  match symbol, hsymbol with
  | [a, b, c, d, e, f], _ => rfl

theorem sixes_flatMap {pattern : ℕ → List ℕ} {values : List ℕ}
    (hlength : ∀ value ∈ values, (pattern value).length = 6) (rest : List ℕ) :
    sixes (values.flatMap pattern ++ rest) = values.map pattern ++ sixes rest := by
  induction values with
  | nil => rfl
  | cons value values ih =>
      have hrest := ih fun value hvalue => hlength value (List.mem_cons_of_mem _ hvalue)
      rw [List.flatMap_cons, List.append_assoc, sixes_append (hlength value List.mem_cons_self),
        hrest, List.map_cons, List.cons_append]

theorem segmentsOf_widths (pattern : List ℕ) :
    (segmentsOf pattern).map Segment.width = pattern := by
  rw [segmentsOf, List.map_map]
  exact List.zipIdx_map_fst 0 pattern

theorem draw_segments (drawn : Encoded) (pattern : List ℕ) :
    (drawn.draw pattern).segments = drawn.segments ++ segmentsOf pattern := by
  have hpush : ∀ segments : List Segment,
      (segments.foldl Encoded.push drawn).segments = drawn.segments ++ segments := by
    intro segments
    induction segments using List.reverseRecOn with
    | nil => simp
    | append_singleton segments segment ih => simp [Encoded.push, ih]
  exact hpush _

theorem drawn_segments (values : List ℕ) (drawn : Encoded) :
    (values.foldl (fun (drawn : Encoded) value => drawn.draw (patterns.getD value []))
      drawn).segments =
        drawn.segments ++ values.flatMap fun value => segmentsOf (patterns.getD value []) := by
  induction values generalizing drawn with
  | nil => simp
  | cons value values ih =>
      rw [List.foldl_cons, ih, draw_segments, List.flatMap_cons, List.append_assoc]

variable {text : Text}

theorem encode_segments (htext : text ≠ []) :
    (encodeCode128B text).segments =
      (symbolValues text).flatMap (fun value => segmentsOf (patterns.getD value [])) ++
        segmentsOf stopPattern := by
  rw [encodeCode128B, if_neg (by rwa [List.isEmpty_iff])]
  rw [draw_segments, drawn_segments, List.nil_append]

theorem length_pattern : ∀ pattern ∈ patterns, pattern.length = 6 := by
  decide +kernel

theorem length_patterns : patterns.length = 106 := by
  decide +kernel

theorem nodup_patterns : patterns.Nodup := by
  decide +kernel

theorem idxOf_pattern {value : ℕ} (hvalue : value < 106) :
    patterns.idxOf (patterns.getD value []) = value := by
  have hbound : value < patterns.length := hvalue.trans_eq length_patterns.symm
  rw [List.getD_eq_getElem _ _ hbound]
  exact nodup_patterns.idxOf_getElem value hbound

theorem symbolValue_lt (ch : Char) : symbolValue ch < 96 := by
  rw [symbolValue]
  split
  · omega
  · decide

theorem symbolValues_lt {value : ℕ} (hvalue : value ∈ symbolValues text) :
    value < 106 := by
  rw [symbolValues, List.mem_append, List.mem_cons, List.mem_map, List.mem_singleton] at hvalue
  rcases hvalue with (rfl | ⟨ch, _, rfl⟩) | rfl
  · decide
  · exact (symbolValue_lt ch).trans (by decide)
  · exact (Nat.mod_lt _ (by decide)).trans (by decide)

theorem sixes_encode (htext : text ≠ []) :
    sixes ((encodeCode128B text).segments.map Segment.width) =
      (symbolValues text).map (fun value => patterns.getD value []) ++
        [stopPattern.take 6] := by
  have hlength : ∀ value ∈ symbolValues text, (patterns.getD value []).length = 6 := by
    intro value hvalue
    have hbound : value < patterns.length :=
      (symbolValues_lt hvalue).trans_eq length_patterns.symm
    rw [List.getD_eq_getElem _ _ hbound]
    exact length_pattern _ (List.getElem_mem hbound)
  have hwidths : (encodeCode128B text).segments.map Segment.width =
      (symbolValues text).flatMap (fun value => patterns.getD value []) ++ stopPattern := by
    rw [encode_segments htext, List.map_append, segmentsOf_widths, List.map_flatMap]
    simp only [segmentsOf_widths]
  rw [hwidths, sixes_flatMap hlength]
  rfl

theorem char_of_symbolValue (ch : Char) :
    Char.ofNat (symbolValue ch + 32) = printedChar ch := by
  rw [symbolValue, printedChar]
  split
  · next hrange =>
      rw [Nat.sub_add_cancel hrange.1]
      exact Char.ofNat_toNat ch
  · rfl

theorem read_encode (htext : text ≠ []) :
    readCode128B (encodeCode128B text) = some (printed text) := by
  have hvalues : ((symbolValues text).map fun value => patterns.getD value []).map
      (fun symbol => patterns.idxOf symbol) = symbolValues text := by
    rw [List.map_map]
    conv_rhs => rw [← List.map_id (symbolValues text)]
    exact List.map_congr_left fun value hvalue => idxOf_pattern (symbolValues_lt hvalue)
  have hchars : (text.map symbolValue).map (fun value => Char.ofNat (value + 32)) =
      printed text := by
    rw [List.map_map, printed]
    exact List.map_congr_left fun ch _ => char_of_symbolValue ch
  rw [readCode128B]
  simp only [sixes_encode htext, List.dropLast_concat, hvalues, List.getLast?_concat]
  simp [symbolValues, hchars]

/-! ## Texts that pass unchanged -/

/-- A character of subset B other than the blank. -/
def visible (ch : Char) : Bool :=
  decide (33 ≤ ch.toNat) && decide (ch.toNat ≤ 127)

/-- An envelope that the lookup unwraps. -/
def enveloped (text : Text) : Bool :=
  match separatorOf text with
  | none => false
  | some separator =>
      let parts := fieldsOf separator text
      (decide (kindOf parts = ['A', 'S', 'L', '1']) && decide (3 ≤ parts.length)) ||
        (decide (kindOf parts = ['A', 'S', 'L', '2']) && decide (5 ≤ parts.length) &&
          (joinedAddress parts).isSome)

/-- A text of visible characters without an escape, which is no envelope. -/
structure Plain (text : Text) : Prop where
  visible : ∀ ch ∈ text, visible ch = true
  unescaped : unescape text = text
  bare : enveloped text = false

variable {ch : Char}

theorem not_isSpace_of_visible (hvisible : visible ch = true) :
    isSpace ch = false := by
  rw [visible, Bool.and_eq_true, decide_eq_true_iff, decide_eq_true_iff] at hvisible
  have hblank : ch ≠ ' ' := by
    rintro rfl
    exact absurd hvisible.1 (by decide)
  rw [isSpace, beq_eq_false_iff_ne.mpr hblank, Bool.false_or, Bool.and_eq_false_iff,
    decide_eq_false_iff_not, decide_eq_false_iff_not]
  omega

theorem printedChar_of_visible (hvisible : visible ch = true) :
    printedChar ch = ch := by
  rw [visible, Bool.and_eq_true, decide_eq_true_iff, decide_eq_true_iff] at hvisible
  exact if_pos ⟨by omega, hvisible.2⟩

theorem visible_printedChar (hspace : isSpace (printedChar ch) = false) :
    visible (printedChar ch) = true := by
  rw [printedChar] at hspace ⊢
  split
  · next hrange =>
      rw [if_pos hrange, isSpace, Bool.or_eq_false_iff, beq_eq_false_iff_ne] at hspace
      have hblank : ch.toNat ≠ 32 := by
        intro heq
        apply hspace.1
        rw [← Char.ofNat_toNat ch, heq]
      rw [visible, Bool.and_eq_true, decide_eq_true_iff, decide_eq_true_iff]
      omega
  · decide

/-- What is left of a printed text without its blanks. -/
def squeezed (text : Text) : Text :=
  (printed text).filter fun ch => !isSpace ch

theorem visible_of_mem_squeezed (hch : ch ∈ squeezed text) :
    visible ch = true := by
  rw [squeezed, List.mem_filter, Bool.not_eq_true'] at hch
  obtain ⟨source, _, rfl⟩ := List.mem_map.mp hch.1
  exact visible_printedChar hch.2

theorem squeezed_of_visible (hvisible : ∀ ch ∈ text, visible ch = true) :
    squeezed text = text := by
  have hprinted : printed text = text := by
    rw [printed]
    conv_rhs => rw [← List.map_id text]
    exact List.map_congr_left fun ch hch => printedChar_of_visible (hvisible ch hch)
  rw [squeezed, hprinted, List.filter_eq_self]
  intro ch hch
  rw [not_isSpace_of_visible (hvisible ch hch)]
  rfl

theorem trim_of_not_isSpace (htext : ∀ ch ∈ text, isSpace ch = false) :
    trim text = text := by
  have hkept : ∀ {text : Text}, (∀ ch ∈ text, isSpace ch = false) →
      text.dropWhile isSpace = text := by
    intro text htext
    cases text with
    | nil => rfl
    | cons ch rest =>
        exact List.dropWhile_cons_of_neg (by
          rw [htext ch List.mem_cons_self]
          exact Bool.false_ne_true)
  rw [trim, hkept htext, hkept, List.reverse_reverse]
  exact fun ch hch => htext ch (List.mem_reverse.mp hch)

theorem trim_of_visible (hvisible : ∀ ch ∈ text, visible ch = true) :
    trim text = text :=
  trim_of_not_isSpace fun ch hch => not_isSpace_of_visible (hvisible ch hch)

theorem mem_of_mem_trim (hch : ch ∈ trim text) : ch ∈ text := by
  rw [trim, List.mem_reverse] at hch
  exact List.dropWhile_subset _ (List.mem_reverse.mp (List.dropWhile_subset _ hch))

/-- To drop the backslashes of escapes keeps the other characters. -/
theorem mem_unescape (hch : ch ≠ '\\') :
    ch ∈ unescape text ↔ ch ∈ text := by
  fun_induction unescape text with
  | case1 rest ih => simp [ih, hch]
  | case2 first rest hescape ih => simp [ih]
  | case3 => rfl

theorem mem_of_mem_unescape (hch : ch ∈ unescape text) :
    ch ∈ text := by
  fun_induction unescape text with
  | case1 rest ih =>
      rcases List.mem_cons.mp hch with rfl | hrest
      · simp
      · simp [ih hrest]
  | case2 first rest hescape ih =>
      rcases List.mem_cons.mp hch with rfl | hrest
      · exact List.mem_cons_self
      · exact List.mem_cons_of_mem _ (ih hrest)
  | case3 => exact hch

theorem unescape_shorter (text : Text) :
    unescape text = text ∨ (unescape text).length < text.length := by
  fun_induction unescape text with
  | case1 rest ih =>
      right
      rcases ih with heq | hlt
      · simp [heq]
      · simp only [List.length_cons]
        omega
  | case2 first rest hescape ih =>
      rcases ih with heq | hlt
      · exact .inl (by rw [heq])
      · exact .inr (Nat.succ_lt_succ hlt)
  | case3 => exact .inl rfl

theorem length_unescape_le (text : Text) : (unescape text).length ≤ text.length := by
  rcases unescape_shorter text with heq | hlt
  · rw [heq]
  · exact hlt.le

theorem separatorOf_unescape (text : Text) :
    separatorOf (unescape text) = separatorOf text := by
  have hstar : '*' ∈ unescape text ↔ '*' ∈ text := mem_unescape (by decide)
  have hbar : '|' ∈ unescape text ↔ '|' ∈ text := mem_unescape (by decide)
  simp only [separatorOf, hstar, hbar]

variable {separator : Char}

theorem separatorOf_eq_some
    (hseparator : separatorOf text = some separator) : separator ∈ text ∧ separator ≠ '-' := by
  rw [separatorOf] at hseparator
  split at hseparator
  · next hstar =>
      cases hseparator
      exact ⟨hstar, by decide⟩
  · split at hseparator
    · next hbar =>
        cases hseparator
        exact ⟨hbar, by decide⟩
    · cases hseparator

/-! ## Envelopes -/

theorem mem_splitOn {piece : Text} (hpiece : piece ∈ text.splitOn separator) :
    ∀ ch ∈ piece, ch ∈ text ∧ ch ≠ separator := by
  induction text generalizing piece with
  | nil =>
      rw [List.splitOn_nil, List.mem_singleton] at hpiece
      subst hpiece
      exact fun ch hch => absurd hch List.not_mem_nil
  | cons first rest ih =>
      intro ch hch
      rw [List.splitOn_cons_eq_if_modifyHead] at hpiece
      split at hpiece
      · rcases List.mem_cons.mp hpiece with rfl | hrest
        · exact absurd hch List.not_mem_nil
        · exact (ih hrest ch hch).imp_left (List.mem_cons_of_mem _)
      · next hfirst =>
          cases hsplit : rest.splitOn separator with
          | nil => exact absurd hsplit (List.splitOn_ne_nil _ _)
          | cons head pieces =>
              rw [hsplit, List.modifyHead_cons, List.mem_cons] at hpiece
              rcases hpiece with rfl | hrest
              · rcases List.mem_cons.mp hch with rfl | hhead
                · exact ⟨List.mem_cons_self, by simpa using hfirst⟩
                · exact (ih (hsplit ▸ List.mem_cons_self) ch hhead).imp_left
                    (List.mem_cons_of_mem _)
              · exact (ih (hsplit ▸ List.mem_cons_of_mem _ hrest) ch hch).imp_left
                  (List.mem_cons_of_mem _)

variable {field : Text}

theorem mem_fieldsOf (hfield : field ∈ fieldsOf separator text) :
    ∀ ch ∈ field, ch ∈ text ∧ ch ≠ separator := by
  obtain ⟨piece, hpiece, rfl⟩ := List.mem_map.mp hfield
  exact fun ch hch => mem_splitOn hpiece ch (mem_of_mem_trim hch)

theorem mem_joined {parts : List Text}
    (hch : ch ∈ ['-'].intercalate parts) : ch = '-' ∨ ∃ part ∈ parts, ch ∈ part := by
  induction parts with
  | nil => exact absurd hch List.not_mem_nil
  | cons part parts ih =>
      cases parts with
      | nil =>
          rw [List.intercalate_singleton] at hch
          exact .inr ⟨part, List.mem_cons_self, hch⟩
      | cons next parts =>
          rw [List.intercalate_cons_cons, List.mem_append, List.mem_append,
            List.mem_singleton] at hch
          rcases hch with (hpart | hhyphen) | hrest
          · exact .inr ⟨part, List.mem_cons_self, hpart⟩
          · exact .inl hhyphen
          · exact (ih hrest).imp_right fun ⟨other, hother, hmem⟩ =>
              ⟨other, List.mem_cons_of_mem _ hother, hmem⟩

/-- What is taken out of an envelope has its characters and hyphens, but no separator. -/
structure Unwraps (raw result : Text) : Prop where
  enveloped : enveloped raw = true
  kept : ∀ ch ∈ result, ch ∈ raw ∨ ch = '-'
  parted : ∀ separator, separatorOf raw = some separator → separator ∉ result

variable {raw : Text} {separator : Char}

theorem unwraps_of_pieces {result : Text} (hseparator : separatorOf raw = some separator)
    (henveloped : Labels.enveloped raw = true)
    (hpieces : ∀ ch ∈ result, ch = '-' ∨ ∃ field ∈ fieldsOf separator raw, ch ∈ field) :
    Unwraps raw result where
  enveloped := henveloped
  kept := by
    intro ch hch
    rcases hpieces ch hch with hhyphen | ⟨field, hfield, hmem⟩
    · exact .inr hhyphen
    · exact .inl (mem_fieldsOf hfield ch hmem).1
  parted := by
    intro other hother hmem
    rw [hseparator, Option.some.injEq] at hother
    subst hother
    rcases hpieces separator hmem with hhyphen | ⟨field, hfield, hch⟩
    · exact (separatorOf_eq_some hseparator).2 hhyphen
    · exact (mem_fieldsOf hfield separator hch).2 rfl

theorem unwraps_field (hseparator : separatorOf raw = some separator)
    (hkind : kindOf (fieldsOf separator raw) = ['A', 'S', 'L', '1'])
    (hlength : 3 ≤ (fieldsOf separator raw).length) :
    Unwraps raw ((fieldsOf separator raw).getD 2 []) := by
  apply unwraps_of_pieces hseparator
  · simp [enveloped, hseparator, hkind, hlength]
  · intro ch hch
    rw [List.getD_eq_getElem _ _ hlength] at hch
    exact .inr ⟨_, List.getElem_mem hlength, hch⟩

theorem unwraps_address {address : Text} (hseparator : separatorOf raw = some separator)
    (hkind : kindOf (fieldsOf separator raw) = ['A', 'S', 'L', '2'])
    (hlength : 5 ≤ (fieldsOf separator raw).length)
    (hjoined : joinedAddress (fieldsOf separator raw) = some address) :
    Unwraps raw address := by
  apply unwraps_of_pieces hseparator
  · simp [enveloped, hseparator, hkind, hlength, hjoined]
  · intro ch hch
    rw [joinedAddress] at hjoined
    split at hjoined
    · cases hjoined
      refine (mem_joined hch).imp_right fun ⟨part, hpart, hmem⟩ => ⟨part, ?_, hmem⟩
      exact List.mem_of_mem_drop (List.mem_of_mem_take hpart)
    · cases hjoined

/-- The third field of an `ASL1` envelope. -/
def fieldOf (raw : Text) : Option Text :=
  (separatorOf raw).bind fun separator =>
    let parts := fieldsOf separator raw
    if kindOf parts = ['A', 'S', 'L', '1'] then parts[2]? else none

/-- The address of an `ASL2` envelope. -/
def addressOf (raw : Text) : Option Text :=
  (separatorOf raw).bind fun separator =>
    let parts := fieldsOf separator raw
    if kindOf parts = ['A', 'S', 'L', '2'] ∧ 5 ≤ parts.length then joinedAddress parts else none

/-- What the lookup makes of a text whose escapes are undone. -/
def opened (raw : Text) : Text :=
  ((fieldOf raw).or (addressOf raw)).getD raw

theorem not_second {parts : List Text} (hfirst : kindOf parts = ['A', 'S', 'L', '1']) :
    ¬ (kindOf parts = ['A', 'S', 'L', '2'] ∧ 5 ≤ parts.length) := by
  rw [hfirst]
  exact fun hsecond => absurd hsecond.1 (by decide)

theorem autosavBinCode_eq (barcode : Text) :
    autosavBinCode barcode = opened (unescape (trim barcode)) := by
  rw [autosavBinCode, opened, fieldOf, addressOf]
  generalize unescape (trim barcode) = raw
  dsimp only
  cases separatorOf raw with
  | none => rfl
  | some separator =>
      simp only [Option.bind_some]
      generalize fieldsOf separator raw = parts
      by_cases hfirst : kindOf parts = ['A', 'S', 'L', '1']
      · rw [if_pos hfirst, if_neg (not_second hfirst), if_neg (not_second hfirst),
          Option.or_none, List.getD_eq_getElem?_getD]
        by_cases hlength : 3 ≤ parts.length
        · rw [if_pos ⟨hfirst, hlength⟩, List.getElem?_eq_getElem hlength]
          rfl
        · rw [if_neg (hlength ·.2),
            List.getElem?_eq_none (Nat.le_of_lt_succ (Nat.lt_of_not_le hlength))]
          rfl
      · rw [if_neg (hfirst ·.1), if_neg hfirst, Option.none_or]
        split <;> rfl

theorem normalizeScannedBarcode_eq (rawValue : Text) :
    let raw := trim (unescape (rawValue.filter fun ch => !isSpace ch))
    normalizeScannedBarcode rawValue =
      (((fieldOf raw).filter completeBinCode).or (addressOf raw)).getD raw := by
  rw [normalizeScannedBarcode]
  generalize trim (unescape (rawValue.filter fun ch => !isSpace ch)) = raw
  dsimp only
  rw [fieldOf, addressOf]
  cases separatorOf raw with
  | none => rfl
  | some separator =>
      simp only [Option.bind_some]
      generalize fieldsOf separator raw = parts
      by_cases hfirst : kindOf parts = ['A', 'S', 'L', '1']
      · rw [if_pos hfirst, if_pos hfirst]
        simp only [not_second hfirst, if_false, Option.or_none, List.getD_eq_getElem?_getD]
        cases parts[2]? with
        | none => rfl
        | some field =>
            by_cases hcomplete : completeBinCode field = true <;>
              simp [Option.filter, hcomplete]
      · rw [if_neg hfirst, if_neg hfirst, Option.filter_none, Option.none_or]
        split <;> rfl

theorem unwraps_fieldOf (hfield : fieldOf raw = some field) :
    Unwraps raw field := by
  obtain ⟨separator, hseparator, hfound⟩ := Option.bind_eq_some_iff.mp hfield
  dsimp only at hfound
  split at hfound
  · next hkind =>
      obtain ⟨hlength, hget⟩ := List.getElem?_eq_some_iff.mp hfound
      have hunwraps := unwraps_field hseparator hkind hlength
      rwa [List.getD_eq_getElem _ _ hlength, hget] at hunwraps
  · cases hfound

theorem unwraps_addressOf {address : Text} (haddress : addressOf raw = some address) :
    Unwraps raw address := by
  obtain ⟨separator, hseparator, hfound⟩ := Option.bind_eq_some_iff.mp haddress
  dsimp only at hfound
  split at hfound
  · next hkind => exact unwraps_address hseparator hkind.1 hkind.2 hfound
  · cases hfound

theorem enveloped_eq (raw : Text) :
    enveloped raw = ((fieldOf raw).isSome || (addressOf raw).isSome) := by
  rw [enveloped, fieldOf, addressOf]
  cases separatorOf raw with
  | none => rfl
  | some separator =>
      simp only [Option.bind_some]
      generalize fieldsOf separator raw = parts
      by_cases hfirst : kindOf parts = ['A', 'S', 'L', '1']
      · rw [if_pos hfirst, if_neg (not_second hfirst), hfirst, Bool.eq_iff_iff]
        simp
        rfl
      · by_cases hsecond : kindOf parts = ['A', 'S', 'L', '2'] ∧ 5 ≤ parts.length
        · simp [hsecond.1, hsecond.2]
        · rw [if_neg hfirst, if_neg hsecond, decide_eq_false hfirst, ← Bool.decide_and,
            decide_eq_false hsecond]
          rfl

theorem opened_cases (raw : Text) :
    (enveloped raw = false ∧ opened raw = raw) ∨ Unwraps raw (opened raw) := by
  rw [opened, enveloped_eq]
  cases hfield : fieldOf raw with
  | some field => exact .inr (unwraps_fieldOf hfield)
  | none =>
      cases haddress : addressOf raw with
      | some address => exact .inr (unwraps_addressOf haddress)
      | none => exact .inl ⟨rfl, rfl⟩

theorem autosavBinCode_cases (barcode : Text) :
    (enveloped (unescape (trim barcode)) = false ∧
        autosavBinCode barcode = unescape (trim barcode)) ∨
      Unwraps (unescape (trim barcode)) (autosavBinCode barcode) := by
  rw [autosavBinCode_eq]
  exact opened_cases _

/-- The handheld takes complete addresses out of envelopes, and passes everything else but
blanks and escapes. -/
theorem normalizeScannedBarcode_cases (rawValue : Text) :
    normalizeScannedBarcode rawValue =
        trim (unescape (rawValue.filter fun ch => !isSpace ch)) ∨
      Unwraps (trim (unescape (rawValue.filter fun ch => !isSpace ch)))
        (normalizeScannedBarcode rawValue) := by
  have heq := normalizeScannedBarcode_eq rawValue
  generalize trim (unescape (rawValue.filter fun ch => !isSpace ch)) = raw at heq ⊢
  dsimp only at heq
  rw [heq]
  cases hfield : (fieldOf raw).filter completeBinCode with
  | some field =>
      exact .inr (unwraps_fieldOf (Option.filter_eq_some_iff.mp hfield).1)
  | none =>
      cases haddress : addressOf raw with
      | some address => exact .inr (unwraps_addressOf haddress)
      | none => exact .inl rfl

/-! ## What a label reads as -/

/-- The text that the lookup matches after a scan of the label of a text. -/
def reads (text : Text) : Text :=
  autosavBinCode (normalizeScannedBarcode (printed text))

theorem sent_cases (text : Text) :
    normalizeScannedBarcode (printed text) = unescape (squeezed text) ∨
      Unwraps (unescape (squeezed text)) (normalizeScannedBarcode (printed text)) := by
  have hraw : trim (unescape ((printed text).filter fun ch => !isSpace ch)) =
      unescape (squeezed text) :=
    trim_of_visible fun ch hch => visible_of_mem_squeezed (mem_of_mem_unescape hch)
  have hcases := normalizeScannedBarcode_cases (printed text)
  rwa [hraw] at hcases

theorem visible_of_mem_sent
    (hch : ch ∈ normalizeScannedBarcode (printed text)) : visible ch = true := by
  rcases sent_cases text with hpassed | hunwraps
  · rw [hpassed] at hch
    exact visible_of_mem_squeezed (mem_of_mem_unescape hch)
  · rcases hunwraps.kept ch hch with hraw | rfl
    · exact visible_of_mem_squeezed (mem_of_mem_unescape hraw)
    · decide

/-- What the lookup makes of what the handheld sends. -/
theorem reads_cases (text : Text) :
    (enveloped (unescape (normalizeScannedBarcode (printed text))) = false ∧
        reads text = unescape (normalizeScannedBarcode (printed text))) ∨
      Unwraps (unescape (normalizeScannedBarcode (printed text))) (reads text) := by
  have hcases := autosavBinCode_cases (normalizeScannedBarcode (printed text))
  rwa [trim_of_visible fun ch hch => visible_of_mem_sent hch] at hcases

theorem mem_sent_of_mem_reads (hch : ch ∈ reads text) :
    ch ∈ normalizeScannedBarcode (printed text) ∨ ch = '-' := by
  rcases reads_cases text with ⟨_, hpassed⟩ | hunwraps
  · rw [hpassed] at hch
    exact .inl (mem_of_mem_unescape hch)
  · exact (hunwraps.kept ch hch).imp_left mem_of_mem_unescape

theorem Plain.reads (hplain : Plain text) : Labels.reads text = text := by
  have hsent : normalizeScannedBarcode (printed text) = text := by
    have hcases := sent_cases text
    rw [squeezed_of_visible hplain.visible, hplain.unescaped] at hcases
    refine hcases.resolve_right fun hunwraps => ?_
    exact absurd hunwraps.enveloped (by rw [hplain.bare]; exact Bool.false_ne_true)
  have hcases := reads_cases text
  rw [hsent, hplain.unescaped] at hcases
  rcases hcases with ⟨_, hreads⟩ | hunwraps
  · exact hreads
  · exact absurd hunwraps.enveloped (by rw [hplain.bare]; exact Bool.false_ne_true)

theorem plain_of_reads (hreads : reads text = text) : Plain text := by
  have hvisible : ∀ ch ∈ text, visible ch = true := by
    intro ch hch
    rw [← hreads] at hch
    rcases mem_sent_of_mem_reads hch with hsent | rfl
    · exact visible_of_mem_sent hsent
    · decide
  have hlost : ∀ {raw result : Text}, separatorOf raw = separatorOf text →
      Unwraps raw result → (∀ ch ∈ text, ch ∈ result ∨ ch = '-') → False := by
    intro raw result hsame hunwraps hkept
    cases hseparator : separatorOf text with
    | none =>
        have henveloped := hunwraps.enveloped
        rw [enveloped, hsame, hseparator] at henveloped
        cases henveloped
    | some separator =>
        obtain ⟨hmem, hhyphen⟩ := separatorOf_eq_some hseparator
        rcases hkept separator hmem with hresult | heq
        · exact hunwraps.parted separator (hsame.trans hseparator) hresult
        · exact hhyphen heq
  have hsent : normalizeScannedBarcode (printed text) = unescape text := by
    have hcases := sent_cases text
    rw [squeezed_of_visible hvisible] at hcases
    refine hcases.resolve_right fun hunwraps => ?_
    apply hlost (separatorOf_unescape text) hunwraps
    intro ch hch
    rw [← hreads] at hch
    exact mem_sent_of_mem_reads hch
  have hcases := reads_cases text
  rw [hsent] at hcases
  have hpassed := hcases.resolve_right fun hunwraps => by
    apply hlost ((separatorOf_unescape _).trans (separatorOf_unescape text)) hunwraps
    intro ch hch
    rw [hreads]
    exact .inl hch
  have hunescaped : unescape text = text := by
    refine (unescape_shorter text).resolve_right fun hshorter => ?_
    have htwice := length_unescape_le (unescape text)
    rw [← hpassed.2, hreads] at htwice
    omega
  refine ⟨hvisible, hunescaped, ?_⟩
  rw [← hpassed.1, hunescaped, hunescaped]

/-! ## The bins of a warehouse -/

variable {bins : Table LabelledBin}

theorem barcode_insertBin {next : Table LabelledBin} {warehouseId : ℕ}
    {binCode binBarcode : Text} (hbarcode : binBarcode ≠ [])
    (hbins : ∀ entry ∈ bins.entries, entry.2.binBarcode ≠ [])
    (hinsert : insertBin bins warehouseId binCode binBarcode = some next) :
    ∀ entry ∈ next.entries, entry.2.binBarcode ≠ [] := by
  rw [insertBin] at hinsert
  split at hinsert
  · cases hinsert
  · split at hinsert
    · cases hinsert
    · cases hinsert
      intro entry hentry
      rcases (bins.mem_insert).mp hentry with hold | rfl
      · exact hbins entry hold
      · exact hbarcode

theorem barcode_acceptBin (request : BinRequest)
    (hbins : ∀ entry ∈ bins.entries, entry.2.binBarcode ≠ []) :
    ∀ entry ∈ (acceptBin bins request).entries, entry.2.binBarcode ≠ [] := by
  have hgetD : ∀ result : Option (Table LabelledBin),
      (∀ next, result = some next → ∀ entry ∈ next.entries, entry.2.binBarcode ≠ []) →
        ∀ entry ∈ (result.getD bins).entries, entry.2.binBarcode ≠ [] := by
    intro result hresult
    cases result with
    | none => exact hbins
    | some next => exact hresult next rfl
  cases request with
  | create warehouseId binCode binBarcode =>
      apply hgetD
      intro next hnext
      rw [createBin] at hnext
      split at hnext
      · cases hnext
      · next hvalid =>
          simp only [Bool.or_eq_true, List.isEmpty_iff, not_or] at hvalid
          exact barcode_insertBin hvalid.1.2 hbins hnext
  | importRow warehouseId binCode binBarcode =>
      apply hgetD
      intro next hnext
      unfold importBin at hnext
      split at hnext
      · cases hnext
      · next hvalid =>
          simp only [Bool.or_eq_true, List.isEmpty_iff, not_or] at hvalid
          split at hnext
          · exact barcode_insertBin (List.cons_ne_nil _ _) hbins hnext
          · exact barcode_insertBin hvalid.1.1.1 hbins hnext

theorem barcode_acceptedBins (requests : List BinRequest) :
    ∀ entry ∈ (acceptedBins requests).entries, entry.2.binBarcode ≠ [] := by
  induction requests using List.reverseRecOn with
  | nil => exact fun entry hentry => absurd hentry List.not_mem_nil
  | append_singleton requests request ih =>
      rw [acceptedBins, List.foldl_append]
      exact barcode_acceptBin request ih

/-- The label of a bin is read, normalised by the handheld and looked up by a user of the
bin's warehouse: whichever row the lookup takes, it is the bin's. -/
def ScansBack (bins : Table LabelledBin) (entry : ℕ × LabelledBin) : Prop :=
  ∃ text, readCode128B (encodeCode128B entry.2.labelText) = some text ∧
    ∀ choice, lookupBin choice (some [entry.2.warehouseId]) bins
      (normalizeScannedBarcode text) = some entry

/-- The barcode of a bin is plain or reads as its code, and no other bin of the warehouse has
what it reads as. -/
structure OwnName (bins : Table LabelledBin) (entry : ℕ × LabelledBin) : Prop where
  own : Plain entry.2.binBarcode ∨ reads entry.2.binBarcode = entry.2.binCode
  alone : ∀ other ∈ bins.entries, other ≠ entry →
    other.2.warehouseId = entry.2.warehouseId →
      other.2.binBarcode ≠ reads entry.2.binBarcode ∧
        other.2.binCode ≠ reads entry.2.binBarcode

theorem scansBack_iff {entry : ℕ × LabelledBin} (hentry : entry ∈ bins.entries)
    (hbarcode : entry.2.binBarcode ≠ []) :
    ScansBack bins entry ↔ OwnName bins entry := by
  have hlabel : entry.2.labelText = entry.2.binBarcode :=
    if_neg (by rwa [List.isEmpty_iff])
  have hmatch : ∀ other, other ∈ bins.select (fun bin =>
        (bin.binBarcode == reads entry.2.binBarcode ||
          bin.binCode == reads entry.2.binBarcode) &&
            [entry.2.warehouseId].contains bin.warehouseId) ↔
      other ∈ bins.entries ∧ (other.2.binBarcode = reads entry.2.binBarcode ∨
        other.2.binCode = reads entry.2.binBarcode) ∧
          other.2.warehouseId = entry.2.warehouseId := by
    intro other
    rw [Table.mem_select]
    simp
  have hscans : ScansBack bins entry ↔ ∀ choice,
      limitOne choice (bins.select fun bin =>
        (bin.binBarcode == reads entry.2.binBarcode ||
          bin.binCode == reads entry.2.binBarcode) &&
            [entry.2.warehouseId].contains bin.warehouseId) = some entry := by
    rw [ScansBack, hlabel, read_encode hbarcode]
    simp only [Option.some.injEq, exists_eq_left', lookupBin, Option.all_some]
    rfl
  rw [hscans, limitOne_select_iff, hmatch]
  simp only [hmatch]
  constructor
  · rintro ⟨⟨_, hname, _⟩, hone⟩
    constructor
    · rcases hname with hsame | hcode
      · exact .inl (plain_of_reads hsame.symm)
      · exact .inr hcode.symm
    · intro other hother hne hwarehouse
      exact ⟨fun heq => hne (hone other ⟨hother, .inl heq, hwarehouse⟩),
        fun heq => hne (hone other ⟨hother, .inr heq, hwarehouse⟩)⟩
  · intro hown
    constructor
    · refine ⟨hentry, ?_, trivial⟩
      rcases hown.own with hplain | hcode
      · exact .inl hplain.reads.symm
      · exact .inr hcode.symm
    · rintro other ⟨hother, hname, hwarehouse⟩
      by_contra hne
      have halone := hown.alone other hother hne hwarehouse
      rcases hname with hsame | hcode
      · exact halone.1 hsame
      · exact halone.2 hcode

/-- The labels of the bins that are accepted scan back exactly when every bin has a name of
its own. -/
theorem labels_scanBack_iff (requests : List BinRequest) :
    (∀ entry ∈ (acceptedBins requests).entries, ScansBack (acceptedBins requests) entry) ↔
      ∀ entry ∈ (acceptedBins requests).entries, OwnName (acceptedBins requests) entry :=
  forall₂_congr fun entry hentry =>
    scansBack_iff hentry (barcode_acceptedBins requests entry hentry)

/-- A second bin is created with the code of the first as its barcode. -/
def borrowedBarcode : List BinRequest :=
  [.create 1 ['A', '-', '1'] ['A', '-', '1'], .create 1 ['A', '-', '2'] ['A', '-', '1']]

/-- The label of the second bin is taken for the first one's. -/
theorem borrowedBarcode_misread :
    ¬ ∀ entry ∈ (acceptedBins borrowedBarcode).entries,
      ScansBack (acceptedBins borrowedBarcode) entry := by
  intro hscans
  have hentries : (acceptedBins borrowedBarcode).entries =
      [(1, ⟨1, ['A', '-', '1'], ['A', '-', '1']⟩), (2, ⟨1, ['A', '-', '2'], ['A', '-', '1']⟩)] := by
    decide +kernel
  obtain ⟨text, hread, hlookup⟩ :=
    hscans (2, ⟨1, ['A', '-', '2'], ['A', '-', '1']⟩) (by rw [hentries]; simp)
  have hlabel : readCode128B (encodeCode128B ['A', '-', '1']) = some ['A', '-', '1'] :=
    read_encode (List.cons_ne_nil _ _)
  have htext : some ['A', '-', '1'] = some text := hlabel.symm.trans hread
  rw [Option.some.injEq] at htext
  subst htext
  have hfirst : lookupBin none (some [1]) (acceptedBins borrowedBarcode)
      (normalizeScannedBarcode ['A', '-', '1']) =
        some (1, ⟨1, ['A', '-', '1'], ['A', '-', '1']⟩) := by
    decide +kernel
  exact absurd (hfirst.symm.trans (hlookup none)) (by decide)

end SentryWms.Labels
