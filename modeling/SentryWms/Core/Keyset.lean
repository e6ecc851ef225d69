import Mathlib

/-!
# Keyset pagination

A scan reads rows page by page. Every page holds the first rows, in the order of a key,
whose keys lie above the key of the last row of the page before; a page that is not full
is the last one. Rows with equal keys stand in any order, which may differ from page to
page. No row is read twice, and every row is read exactly when no page ends between two
rows with the same key.
-/

namespace Relational

variable {ρ κ : Type*} [LinearOrder κ] {key : ρ → κ}

/-- `ORDER BY key`: the rows in ascending order of their keys. -/
structure Arrangement (key : ρ → κ) where
  arrange : List ρ → List ρ
  perm : ∀ rows, (arrange rows).Perm rows
  sorted : ∀ rows, ((arrange rows).map key).Pairwise (· ≤ ·)

/-- Rows with equal keys stay in the order they had. -/
def Arrangement.stable (key : ρ → κ) : Arrangement key where
  arrange rows := rows.insertionSort fun left right => key left ≤ key right
  perm rows := List.perm_insertionSort _ rows
  sorted rows := by
    rw [List.pairwise_map]
    exact List.pairwise_insertionSort (fun left right => key left ≤ key right) rows

def above (key : ρ → κ) (last : κ) (rows : List ρ) : List ρ :=
  rows.filter fun row => decide (last < key row)

/-- `WHERE key > last ORDER BY key LIMIT limit`. -/
def page (arrangement : Arrangement key) (rows : List ρ) (limit : ℕ) (last : κ) :
    List ρ :=
  (arrangement.arrange (above key last rows)).take limit

/-- The pages from a key on, by at most so many queries. -/
def scan (arrangements : ℕ → Arrangement key) (rows : List ρ) (limit : ℕ) :
    ℕ → κ → Option (List (List ρ))
  | 0, _ => none
  | fuel + 1, last =>
      let found := page (arrangements fuel) rows limit last
      match found.getLast? with
      | none => some [found]
      | some tail =>
          if found.length < limit then some [found]
          else (scan arrangements rows limit fuel (key tail)).map (found :: ·)

def sortedKeys (key : ρ → κ) (rows : List ρ) : List κ :=
  (rows.map key).insertionSort (· ≤ ·)

/-- Cut after every `limit` keys, ascending keys are never cut between equal ones. -/
def Aligned {κ : Type*} (limit : ℕ) (keys : List κ) : Prop :=
  ∀ cut < keys.length, 0 < cut → cut * limit < keys.length →
    keys[cut * limit - 1]? ≠ keys[cut * limit]?

instance {κ : Type*} [DecidableEq κ] (limit : ℕ) (keys : List κ) : Decidable (Aligned limit keys) :=
  inferInstanceAs (Decidable (∀ cut < keys.length, 0 < cut → cut * limit < keys.length →
    keys[cut * limit - 1]? ≠ keys[cut * limit]?))

namespace Keyset

variable {rows : List ρ} {limit : ℕ} {last : κ}

theorem mem_above {row : ρ} : row ∈ above key last rows ↔ row ∈ rows ∧ last < key row := by
  simp [above]

theorem sortedKeys_eq (arrangement : Arrangement key) :
    sortedKeys key rows = (arrangement.arrange rows).map key := by
  apply List.Perm.eq_of_pairwise' (r := (· ≤ ·))
  · exact List.pairwise_insertionSort _ _
  · exact arrangement.sorted rows
  · calc
      sortedKeys key rows
      _ |>.Perm (rows.map key) := List.perm_insertionSort _ _
      _ |>.Perm ((arrangement.arrange rows).map key) :=
        (arrangement.perm rows).symm.map key

theorem sortedKeys_perm {rows' : List ρ} (hperm : rows.Perm rows') :
    sortedKeys key rows = sortedKeys key rows' := by
  apply List.Perm.eq_of_pairwise' (r := (· ≤ ·))
  · exact List.pairwise_insertionSort _ _
  · exact List.pairwise_insertionSort _ _
  · exact (List.perm_insertionSort _ _).trans
      ((hperm.map key).trans (List.perm_insertionSort _ _).symm)

theorem sortedKeys_of_pairwise (hsorted : (rows.map key).Pairwise (· ≤ ·)) :
    sortedKeys key rows = rows.map key := by
  apply List.Perm.eq_of_pairwise' (r := (· ≤ ·))
  · exact List.pairwise_insertionSort _ _
  · exact hsorted
  · exact List.perm_insertionSort _ _

omit [LinearOrder κ] in
/-- The first cut and the cuts of the rest. -/
theorem aligned_iff {keys : List κ} (hlimit : 0 < limit) (hlong : limit ≤ keys.length) :
    Aligned limit keys ↔
      keys[limit - 1]? ≠ keys[limit]? ∧ Aligned limit (keys.drop limit) := by
  constructor
  · intro haligned
    constructor
    · by_cases hshort : limit < keys.length
      · have hfirst := haligned 1 (by omega) (by omega) (by omega)
        simpa using hfirst
      · have hnone : keys[limit]? = none := List.getElem?_eq_none (by omega)
        have hsome : keys[limit - 1]? = some keys[limit - 1] :=
          List.getElem?_eq_getElem (by omega)
        rw [hnone, hsome]
        exact Option.some_ne_none _
    · intro cut hcut hpos hbound
      rw [List.length_drop] at hcut hbound
      have hnext := haligned (cut + 1) (by omega) (by omega) (by rw [add_mul]; omega)
      have hstep : 0 < cut * limit := Nat.mul_pos hpos hlimit
      rw [List.getElem?_drop, List.getElem?_drop]
      have hleft : limit + (cut * limit - 1) = (cut + 1) * limit - 1 := by
        rw [add_mul]
        omega
      have hright : limit + cut * limit = (cut + 1) * limit := by ring
      rwa [hleft, hright]
  · rintro ⟨hfirst, hrest⟩ cut hcut hpos hbound
    match cut, hpos with
    | 1, _ => simpa using hfirst
    | cut + 2, _ =>
        have hstep : 0 < (cut + 1) * limit := Nat.mul_pos (by omega) hlimit
        have hsplit : (cut + 2) * limit = limit + (cut + 1) * limit := by ring
        rw [hsplit] at hbound ⊢
        have hle : cut + 1 ≤ (cut + 1) * limit := Nat.le_mul_of_pos_right _ hlimit
        have hnext := hrest (cut + 1) (by rw [List.length_drop]; omega) (by omega)
          (by rw [List.length_drop]; omega)
        rw [List.getElem?_drop, List.getElem?_drop] at hnext
        rwa [show limit + (cut + 1) * limit - 1 = limit + ((cut + 1) * limit - 1) by omega]

omit [LinearOrder κ] in
theorem aligned_of_length_lt {keys : List κ} (hshort : keys.length < limit) :
    Aligned limit keys := by
  intro cut _ hpos hbound
  have hle : limit ≤ cut * limit := Nat.le_mul_of_pos_left _ hpos
  omega

/-! ## The rows after a page -/

/-- The last row of a page has the greatest key of it. -/
theorem le_of_getLast? (arrangement : Arrangement key) {tail row : ρ}
    (htail : (page arrangement rows limit last).getLast? = some tail)
    (hrow : row ∈ page arrangement rows limit last) : key row ≤ key tail := by
  have hsorted : ((page arrangement rows limit last).map key).Pairwise (· ≤ ·) := by
    rw [page, List.map_take]
    exact (arrangement.sorted _).sublist (List.take_sublist _ _)
  obtain ⟨front, hfront⟩ := List.getLast?_eq_some_iff.mp htail
  rw [hfront, List.mem_append, List.mem_singleton] at hrow
  rw [hfront, List.map_append, List.pairwise_append] at hsorted
  cases hrow with
  | inl hmem => exact hsorted.2.2 _ (List.mem_map_of_mem hmem) _ (by simp)
  | inr heq => rw [heq]

/-- Above the last key of a page stand the rows behind the page, but for those that
share its last key. -/
theorem filter_drop_perm (arrangement : Arrangement key) {tail : ρ}
    (htail : (page arrangement rows limit last).getLast? = some tail) :
    (above key (key tail) rows).Perm
      (above key (key tail) ((arrangement.arrange (above key last rows)).drop limit)) := by
  have hmem : tail ∈ arrangement.arrange (above key last rows) :=
    List.mem_of_mem_take (List.mem_of_getLast? htail)
  have hlast : last < key tail := (mem_above.mp ((arrangement.perm _).mem_iff.mp hmem)).2
  have hfirst : above key (key tail) (page arrangement rows limit last) = [] := by
    rw [above, List.filter_eq_nil_iff]
    intro row hrow
    rw [decide_eq_true_eq, not_lt]
    exact le_of_getLast? arrangement htail hrow
  calc
    above key (key tail) rows
    _ = above key (key tail) (above key last rows) := by
        rw [above, above, above, List.filter_filter]
        apply List.filter_congr
        intro row _
        simpa using fun hlt => hlast.trans hlt
    _ |>.Perm (above key (key tail) (arrangement.arrange (above key last rows))) :=
        (arrangement.perm _).symm.filter _
    _ = above key (key tail) (page arrangement rows limit last ++
          (arrangement.arrange (above key last rows)).drop limit) := by
        rw [page, List.take_append_drop]
    _ = above key (key tail)
          ((arrangement.arrange (above key last rows)).drop limit) := by
        rw [above, List.filter_append]
        exact congrArg (· ++ _) hfirst

theorem page_append (arrangement : Arrangement key) :
    (page arrangement rows limit last ++
      (arrangement.arrange (above key last rows)).drop limit).Perm (above key last rows) := by
  rw [page, List.take_append_drop]
  exact arrangement.perm _

theorem length_page (arrangement : Arrangement key) :
    (page arrangement rows limit last).length =
      min limit (above key last rows).length := by
  rw [page, List.length_take, (arrangement.perm _).length_eq]

theorem length_drop (arrangement : Arrangement key) :
    ((arrangement.arrange (above key last rows)).drop limit).length =
      (above key last rows).length - limit := by
  rw [List.length_drop, (arrangement.perm _).length_eq]

theorem length_above_tail (arrangement : Arrangement key) {tail : ρ}
    (htail : (page arrangement rows limit last).getLast? = some tail) :
    (above key (key tail) rows).length ≤ (above key last rows).length - limit :=
  calc
    (above key (key tail) rows).length
    _ = (above key (key tail)
          ((arrangement.arrange (above key last rows)).drop limit)).length :=
        (filter_drop_perm arrangement htail).length_eq
    _ ≤ ((arrangement.arrange (above key last rows)).drop limit).length :=
        List.length_filter_le _ _
    _ = (above key last rows).length - limit := length_drop arrangement

/-! ## Whole scans -/

variable {arrangements : ℕ → Arrangement key} {fuel : ℕ} {pages : List (List ρ)}

/-- A scan ends with a page that is not full, or goes on above the last key of a full
one. -/
theorem scan_succ (hlimit : 0 < limit)
    (hscan : scan arrangements rows limit (fuel + 1) last = some pages) :
    (above key last rows).length < limit ∧
        pages = [page (arrangements fuel) rows limit last] ∨
      ∃ tail rest, limit ≤ (above key last rows).length ∧
        (page (arrangements fuel) rows limit last).getLast? = some tail ∧
        scan arrangements rows limit fuel (key tail) = some rest ∧
        pages = page (arrangements fuel) rows limit last :: rest := by
  have hlength : (page (arrangements fuel) rows limit last).length =
      min limit (above key last rows).length := length_page (arrangements fuel)
  simp only [scan] at hscan
  cases htail : (page (arrangements fuel) rows limit last).getLast? with
  | none =>
      simp only [htail, Option.some.injEq] at hscan
      rw [List.getLast?_eq_none_iff.mp htail, List.length_nil] at hlength
      exact Or.inl ⟨by omega, hscan.symm⟩
  | some tail =>
      simp only [htail] at hscan
      by_cases hshort : (page (arrangements fuel) rows limit last).length < limit
      · rw [if_pos hshort, Option.some.injEq] at hscan
        exact Or.inl ⟨by omega, hscan.symm⟩
      · rw [if_neg hshort] at hscan
        obtain ⟨rest, hrest, hpages⟩ := Option.map_eq_some_iff.mp hscan
        exact Or.inr ⟨tail, rest, by omega, rfl, hrest, hpages.symm⟩

/-- As many queries as there are rows, and one more, are enough. -/
theorem exists_scan (hlimit : 0 < limit) (hfuel : (above key last rows).length < fuel) :
    ∃ pages, scan arrangements rows limit fuel last = some pages := by
  induction fuel generalizing last with
  | zero => omega
  | succ fuel ih =>
      simp only [scan]
      cases htail : (page (arrangements fuel) rows limit last).getLast? with
      | none => exact ⟨_, rfl⟩
      | some tail =>
          by_cases hshort : (page (arrangements fuel) rows limit last).length < limit
          · exact ⟨_, if_pos hshort⟩
          · have hlength : (page (arrangements fuel) rows limit last).length =
                min limit (above key last rows).length := length_page (arrangements fuel)
            have hbehind := length_above_tail (arrangements fuel) htail
            have hscan : ∃ rest, scan arrangements rows limit fuel (key tail) = some rest :=
              ih (by omega)
            obtain ⟨rest, hrest⟩ := hscan
            simp only [if_neg hshort, hrest, Option.map_some]
            exact ⟨_, rfl⟩

/-- No row is read twice. -/
theorem flatten_subperm (hlimit : 0 < limit)
    (hscan : scan arrangements rows limit fuel last = some pages) :
    pages.flatten.Subperm (above key last rows) := by
  induction fuel generalizing last pages with
  | zero => cases hscan
  | succ fuel ih =>
      cases scan_succ hlimit hscan with
      | inl hend =>
          rw [hend.2, List.flatten_singleton]
          exact (List.take_sublist _ _).subperm.trans ((arrangements fuel).perm _).subperm
      | inr hnext =>
          obtain ⟨tail, rest, -, htail, hrest, rfl⟩ := hnext
          rw [List.flatten_cons]
          have hbehind : rest.flatten.Subperm
              ((arrangements fuel).arrange (above key last rows) |>.drop limit) :=
            (ih hrest).trans ((filter_drop_perm _ htail).subperm.trans
              (List.filter_sublist).subperm)
          exact ((List.subperm_append_left _).mpr hbehind).trans
            (page_append (arrangements fuel)).subperm

/-- A page ends between different keys exactly when the rows behind it lie above its
last key. -/
theorem gap_iff (arrangement : Arrangement key) {tail : ρ} (hlimit : 0 < limit)
    (hlong : limit ≤ (above key last rows).length)
    (htail : (page arrangement rows limit last).getLast? = some tail) :
    (sortedKeys key (above key last rows))[limit - 1]? ≠
        (sortedKeys key (above key last rows))[limit]? ↔
      ∀ row ∈ (arrangement.arrange (above key last rows)).drop limit,
        key tail < key row := by
  have hlast : (sortedKeys key (above key last rows))[limit - 1]? = some (key tail) := by
    rw [sortedKeys_eq arrangement, List.getElem?_map]
    rw [List.getLast?_eq_getElem?, length_page, min_eq_left hlong, page,
      List.getElem?_take_of_lt (by omega)] at htail
    rw [htail, Option.map_some]
  have hnext : (sortedKeys key (above key last rows))[limit]? =
      ((arrangement.arrange (above key last rows)).drop limit).head?.map key := by
    rw [sortedKeys_eq arrangement, List.getElem?_map, List.head?_drop]
  have hsorted : (((arrangement.arrange (above key last rows)).drop limit).map key).Pairwise
      (· ≤ ·) := by
    rw [List.map_drop]
    exact (arrangement.sorted _).sublist (List.drop_sublist _ _)
  rw [hlast, hnext]
  have hbelow : ∀ row ∈ (arrangement.arrange (above key last rows)).drop limit,
      key tail ≤ key row := by
    intro row hrow
    have hsplit := arrangement.sorted (above key last rows)
    rw [← List.take_append_drop limit (arrangement.arrange (above key last rows)),
      List.map_append, List.pairwise_append] at hsplit
    exact hsplit.2.2 _ (List.mem_map_of_mem (List.mem_of_getLast? htail)) _
      (List.mem_map_of_mem hrow)
  cases hrest : (arrangement.arrange (above key last rows)).drop limit with
  | nil => simp
  | cons first others =>
      rw [hrest] at hsorted hbelow
      rw [List.head?_cons, Option.map_some, ne_eq, Option.some.injEq]
      constructor
      · intro hne row hrow
        have hfirst : key tail < key first :=
          lt_of_le_of_ne (hbelow first List.mem_cons_self) hne
        rw [List.map_cons, List.pairwise_cons] at hsorted
        cases List.mem_cons.mp hrow with
        | inl heq => rwa [heq]
        | inr hmem => exact hfirst.trans_le (hsorted.1 _ (List.mem_map_of_mem hmem))
      · intro hall
        exact ne_of_lt (hall first List.mem_cons_self)

/-- A scan reads every row exactly when no page ends between rows with equal keys. -/
theorem flatten_perm_iff (hlimit : 0 < limit)
    (hscan : scan arrangements rows limit fuel last = some pages) :
    pages.flatten.Perm (above key last rows) ↔
      Aligned limit (sortedKeys key (above key last rows)) := by
  induction fuel generalizing last pages with
  | zero => cases hscan
  | succ fuel ih =>
      have hkeys : (sortedKeys key (above key last rows)).length =
          (above key last rows).length := by
        rw [sortedKeys, List.length_insertionSort, List.length_map]
      cases scan_succ hlimit hscan with
      | inl hend =>
          constructor
          · intro _
            exact aligned_of_length_lt (hkeys ▸ hend.1)
          · intro _
            rw [hend.2, List.flatten_singleton, page, List.take_of_length_le]
            · exact (arrangements fuel).perm _
            · rw [((arrangements fuel).perm _).length_eq]
              exact hend.1.le
      | inr hnext =>
          obtain ⟨tail, rest, hlong, htail, hrest, rfl⟩ := hnext
          rw [aligned_iff hlimit (hkeys ▸ hlong),
            gap_iff (arrangements fuel) hlimit hlong htail, List.flatten_cons]
          set behind := ((arrangements fuel).arrange (above key last rows)).drop limit
            with hbehind
          have htails : (above key (key tail) rows).Perm (above key (key tail) behind) :=
            filter_drop_perm (arrangements fuel) htail
          have hwhole : (page (arrangements fuel) rows limit last ++ behind).Perm
              (above key last rows) := page_append (arrangements fuel)
          by_cases hgap : ∀ row ∈ behind, key tail < key row
          · have habove : above key (key tail) behind = behind := by
              rw [above, List.filter_eq_self]
              intro row hrow
              exact decide_eq_true (hgap row hrow)
            have hsorted : (behind.map key).Pairwise (· ≤ ·) := by
              rw [hbehind, List.map_drop]
              exact ((arrangements fuel).sorted _).sublist (List.drop_sublist _ _)
            have hrestKeys : sortedKeys key (above key (key tail) rows) =
                (sortedKeys key (above key last rows)).drop limit :=
              calc
                sortedKeys key (above key (key tail) rows)
                _ = sortedKeys key behind :=
                    sortedKeys_perm (htails.trans (List.Perm.of_eq habove))
                _ = behind.map key := sortedKeys_of_pairwise hsorted
                _ = (sortedKeys key (above key last rows)).drop limit := by
                    rw [hbehind, List.map_drop, ← sortedKeys_eq]
            rw [← hrestKeys, ← ih hrest]
            constructor
            · intro hperm
              refine ⟨hgap, ?_⟩
              have hrestPerm : rest.flatten.Perm behind :=
                (List.perm_append_left_iff _).mp (hperm.trans hwhole.symm)
              exact hrestPerm.trans (habove ▸ htails.symm)
            · intro hperm
              have hrestPerm : rest.flatten.Perm behind :=
                hperm.2.trans (htails.trans (List.Perm.of_eq habove))
              exact ((List.perm_append_left_iff _).mpr hrestPerm).trans hwhole
          · constructor
            · intro hperm
              -- the rows that share the last key of the page are not read again
              have hrestPerm : rest.flatten.Perm behind :=
                (List.perm_append_left_iff _).mp (hperm.trans hwhole.symm)
              have hlength : behind.length ≤ (above key (key tail) behind).length :=
                calc
                  behind.length
                  _ = rest.flatten.length := hrestPerm.length_eq.symm
                  _ ≤ (above key (key tail) rows).length :=
                      (flatten_subperm hlimit hrest).length_le
                  _ = (above key (key tail) behind).length := htails.length_eq
              have hself : above key (key tail) behind = behind :=
                List.filter_sublist.eq_of_length_le hlength
              refine absurd ?_ hgap
              intro row hrow
              rw [← hself] at hrow
              exact (mem_above.mp hrow).2
            · intro haligned
              exact absurd haligned.1 hgap

end Keyset

end Relational
