import SentryWms.Labels.ScansBack

/-!
# Printed barcodes decode

A reader of a printed label splits its bars and spaces into groups of six and a last group of
seven and looks each group up in `PATTERNS`. The table has a row for every value that the
encoder writes, and no two rows agree, so the reader finds the text with its start symbol and
its check value, whatever the text is.
-/

namespace SentryWms.Labels

/-- Groups of six, followed by a group of at most seven. -/
def symbolGroups {Bar : Type} : List Bar → List (List Bar)
  | a :: b :: c :: d :: e :: f :: g :: h :: rest =>
      [a, b, c, d, e, f] :: symbolGroups (g :: h :: rest)
  | bars => [bars]

/-- The values whose row of `PATTERNS` is this group. -/
def valuesOfGroup (group : List ℕ) : List ℕ :=
  (List.range patterns.length).filter fun value => patterns.getD value [] == group

/-- Every group but the last is the row of one value only, and the last one is the stop
pattern. -/
structure Decodes (encoded : Encoded) (values : List ℕ) : Prop where
  symbols : (symbolGroups (encoded.segments.map Segment.width)).dropLast.map valuesOfGroup =
    values.map fun value => [value]
  stop : (symbolGroups (encoded.segments.map Segment.width)).getLast? = some stopPattern

/-- Bars and spaces take turns, from a bar on. -/
def Alternates (segments : List Segment) : Prop :=
  ∀ index segment, segments[index]? = some segment → segment.black = (index % 2 == 0)

/-! ## Groups -/

theorem symbolGroups_append {Bar : Type} {symbol rest : List Bar} (hsymbol : symbol.length = 6)
    (hrest : 2 ≤ rest.length) : symbolGroups (symbol ++ rest) = symbol :: symbolGroups rest := by
  match symbol, hsymbol, rest, hrest with
  | [a, b, c, d, e, f], _, g :: h :: rest, _ => rfl

variable {values : List ℕ}

theorem symbolGroups_flatMap {pattern : ℕ → List ℕ}
    (hlength : ∀ value ∈ values, (pattern value).length = 6) {rest : List ℕ}
    (hrest : 2 ≤ rest.length) :
    symbolGroups (values.flatMap pattern ++ rest) = values.map pattern ++ symbolGroups rest := by
  induction values with
  | nil => rfl
  | cons value values ih =>
      have hvalues := ih fun value hvalue => hlength value (List.mem_cons_of_mem _ hvalue)
      rw [List.flatMap_cons, List.append_assoc, symbolGroups_append
        (hlength value List.mem_cons_self), hvalues, List.map_cons, List.cons_append]
      exact hrest.trans (by simp)

variable {value : ℕ}

/-- No row of the table stands there twice. -/
theorem valuesOfGroup_pattern (hvalue : value < 106) :
    valuesOfGroup (patterns.getD value []) = [value] := by
  have hsame : ∀ other ∈ List.range patterns.length,
      (patterns.getD other [] == patterns.getD value []) = (other == value) := by
    intro other hother
    rw [List.mem_range, length_patterns] at hother
    rw [Bool.eq_iff_iff, beq_iff_eq, beq_iff_eq]
    constructor
    · intro heq
      rw [← idxOf_pattern hother, heq, idxOf_pattern hvalue]
    · exact congrArg fun value => patterns.getD value []
  rw [valuesOfGroup, List.filter_congr hsame, List.filter_beq,
    List.count_eq_one_of_mem List.nodup_range]
  · rfl
  · rwa [List.mem_range, length_patterns]

/-! ## Modules -/

theorem sum_pattern : ∀ pattern ∈ patterns, pattern.sum = 11 := by
  decide +kernel

theorem pattern_mem (hvalue : value < 106) :
    patterns.getD value [] ∈ patterns := by
  have hbound : value < patterns.length := hvalue.trans_eq length_patterns.symm
  rw [List.getD_eq_getElem _ _ hbound]
  exact List.getElem_mem hbound

theorem draw_totalModules (drawn : Encoded) (pattern : List ℕ) :
    (drawn.draw pattern).totalModules = drawn.totalModules + pattern.sum := by
  have hpush : ∀ segments : List Segment, (segments.foldl Encoded.push drawn).totalModules =
      drawn.totalModules + (segments.map Segment.width).sum := by
    intro segments
    induction segments using List.reverseRecOn with
    | nil => simp
    | append_singleton segments segment ih => simp [Encoded.push, ih, Nat.add_assoc]
  rw [Encoded.draw, hpush, segmentsOf_widths]

theorem drawn_totalModules (hvalues : ∀ value ∈ values, value < 106) (drawn : Encoded) :
    (values.foldl (fun (drawn : Encoded) value => drawn.draw (patterns.getD value []))
      drawn).totalModules = drawn.totalModules + 11 * values.length := by
  induction values generalizing drawn with
  | nil => rfl
  | cons value values ih =>
      have hsum := sum_pattern _ (pattern_mem (hvalues value List.mem_cons_self))
      rw [List.foldl_cons, ih fun value hvalue => hvalues value (List.mem_cons_of_mem _ hvalue),
        draw_totalModules, hsum, List.length_cons]
      omega

theorem encode_totalModules {text : Text} (htext : text ≠ []) :
    (encodeCode128B text).totalModules = 11 * (text.length + 2) + 13 := by
  rw [encodeCode128B, if_neg (by rwa [List.isEmpty_iff])]
  simp only
  rw [draw_totalModules, drawn_totalModules fun value => symbolValues_lt, Nat.zero_add]
  simp [symbolValues, stopPattern]

theorem draw_counts {drawn : Encoded}
    (hdrawn : drawn.totalModules = (drawn.segments.map Segment.width).sum) (pattern : List ℕ) :
    (drawn.draw pattern).totalModules =
      ((drawn.draw pattern).segments.map Segment.width).sum := by
  rw [draw_totalModules, draw_segments, List.map_append, List.sum_append, segmentsOf_widths,
    hdrawn]

theorem encode_counts (text : Text) :
    (encodeCode128B text).totalModules =
      ((encodeCode128B text).segments.map Segment.width).sum := by
  have hdrawn : ∀ (values : List ℕ) (drawn : Encoded),
      drawn.totalModules = (drawn.segments.map Segment.width).sum →
      let after := values.foldl (fun (drawn : Encoded) value =>
        drawn.draw (patterns.getD value [])) drawn
      after.totalModules = (after.segments.map Segment.width).sum := by
    intro values
    induction values with
    | nil => exact fun drawn hdrawn => hdrawn
    | cons value values ih => exact fun drawn hdrawn => ih _ (draw_counts hdrawn _)
  rw [encodeCode128B]
  split
  · rfl
  · exact draw_counts (hdrawn _ _ rfl) _

/-! ## Bars and spaces -/

theorem alternates_segmentsOf (pattern : List ℕ) : Alternates (segmentsOf pattern) := by
  intro index segment hsegment
  rw [segmentsOf, List.getElem?_map, List.getElem?_zipIdx, Option.map_map] at hsegment
  obtain ⟨width, -, rfl⟩ := Option.map_eq_some_iff.mp hsegment
  simp

/-- A pattern of even length ends in a space, so the next one may follow. -/
theorem Alternates.append {left right : List Segment} (hleft : Alternates left)
    (heven : left.length % 2 = 0) (hright : Alternates right) : Alternates (left ++ right) := by
  intro index segment hsegment
  rcases Nat.lt_or_ge index left.length with hindex | hindex
  · rw [List.getElem?_append_left hindex] at hsegment
    exact hleft index segment hsegment
  · rw [List.getElem?_append_right hindex] at hsegment
    rw [hright _ segment hsegment]
    congr 1
    omega

theorem length_segmentsOf (hvalue : value < 106) :
    (segmentsOf (patterns.getD value [])).length = 6 := by
  rw [← length_pattern _ (pattern_mem hvalue), segmentsOf, List.length_map, List.length_zipIdx]

theorem alternates_flatMap (hvalues : ∀ value ∈ values, value < 106) {rest : List Segment}
    (hrest : Alternates rest) :
    Alternates (values.flatMap (fun value => segmentsOf (patterns.getD value [])) ++ rest) := by
  induction values with
  | nil => exact hrest
  | cons value values ih =>
      have hfirst := length_segmentsOf (hvalues value List.mem_cons_self)
      rw [List.flatMap_cons, List.append_assoc]
      exact (alternates_segmentsOf _).append (by omega)
        (ih fun value hvalue => hvalues value (List.mem_cons_of_mem _ hvalue))

/-! ## The symbols of a label -/

theorem decodes_symbolValues {text : Text} (htext : text ≠ []) :
    Decodes (encodeCode128B text) (symbolValues text) := by
  have hgroups : symbolGroups ((encodeCode128B text).segments.map Segment.width) =
      (symbolValues text).map (fun value => patterns.getD value []) ++ [stopPattern] := by
    rw [encode_segments htext, List.map_append, segmentsOf_widths, List.map_flatMap]
    simp only [segmentsOf_widths]
    rw [symbolGroups_flatMap]
    · rfl
    · exact fun value hvalue => length_pattern _ (pattern_mem (symbolValues_lt hvalue))
    · decide
  constructor
  · rw [hgroups, List.dropLast_concat, List.map_map]
    exact List.map_congr_left fun value hvalue =>
      valuesOfGroup_pattern (symbolValues_lt hvalue)
  · rw [hgroups, List.getLast?_concat]

theorem checksum_eq (values : List ℕ) :
    checksum (startB :: values) =
      (104 + ∑ index : Fin values.length, (index + 1) * values[index]) % 103 := by
  have hsum : (values.zipIdx 1 |>.map fun value => value.1 * value.2).sum =
      ∑ index : Fin values.length, (index + 1) * values[index] := by
    rw [← List.sum_ofFn]
    congr 1
    refine List.ext_getElem (by simp) fun index hleft hright => ?_
    simp [Nat.mul_comm, Nat.add_comm]
  rw [checksum, List.zipIdx_cons, List.map_cons, List.sum_cons, Nat.mul_zero, Nat.zero_add,
    hsum]
  rfl

/-- A label of a text of subset B is read as its start symbol, the text, and its check value. -/
theorem encodeCode128B_decodes {text : Text} (htext : text ≠ [])
    (hcodes : ∀ ch ∈ text, 32 ≤ ch.toNat ∧ ch.toNat ≤ 127) :
    Decodes (encodeCode128B text)
        (104 :: (text.map fun ch => ch.toNat - 32) ++
          [(104 + ∑ index : Fin text.length, (index + 1) * (text[index].toNat - 32)) % 103]) ∧
      Alternates (encodeCode128B text).segments ∧
      (encodeCode128B text).totalModules = 11 * (text.length + 2) + 13 ∧
      (encodeCode128B text).totalModules =
        ((encodeCode128B text).segments.map Segment.width).sum := by
  have hvalues : text.map symbolValue = text.map fun ch => ch.toNat - 32 :=
    List.map_congr_left fun ch hch => if_pos (hcodes ch hch)
  have hcheck : checksum (startB :: text.map symbolValue) =
      (104 + ∑ index : Fin text.length, (index + 1) * (text[index].toNat - 32)) % 103 := by
    rw [hvalues, checksum_eq]
    congr 2
    refine Fintype.sum_equiv (finCongr (List.length_map ..)) _ _ fun index => ?_
    simp
  refine ⟨?_, ?_, encode_totalModules htext, encode_counts text⟩
  · rw [← hvalues, ← hcheck]
    exact decodes_symbolValues htext
  · rw [encode_segments htext]
    exact alternates_flatMap (fun value => symbolValues_lt) (alternates_segmentsOf _)

theorem order_decodes : Decodes (encodeCode128B ['S', 'O', '-', '1'])
    [104, 51, 47, 13, 17, 47] := by
  have hcodes : ∀ ch ∈ ['S', 'O', '-', '1'], 32 ≤ ch.toNat ∧ ch.toNat ≤ 127 := by
    simp
  have hdecodes := (encodeCode128B_decodes (List.cons_ne_nil _ _) hcodes).1
  simpa [Fin.sum_univ_succ] using hdecodes

end SentryWms.Labels
