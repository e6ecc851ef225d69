import SentryWms.Picking.TakenOut

/-!
# What an admin pick counts

The entries of an admin pick may name a line several times, once for every bin it is picked
from. They are checked against the line by their sum, and counted one after the other.
-/

namespace SentryWms

open Relational Transition

def askedOf (picks : List AdminPickEntry) (soLineId : ℕ) : ℤ :=
  (picks.map fun pick => if pick.soLineId = soLineId then pick.quantity else 0).sum

/-- A line after entries that ask for so much of it, none where nothing is asked for. -/
def SalesOrderLine.adminPicked (asked : ℤ) (line : SalesOrderLine) : SalesOrderLine :=
  { line with
    quantityPicked := line.quantityPicked + asked
    quantityAllocated :=
      if asked = 0 then line.quantityAllocated
      else max line.quantityAllocated (line.quantityPicked + asked) }

variable {store after : Store} {soId batchId : ℕ} {picks : List AdminPickEntry}
  {lines : List (ℕ × SalesOrderLine)}

theorem askedOf_nonneg (picks : List AdminPickEntry) (soLineId : ℕ) :
    0 ≤ askedOf picks soLineId := by
  refine List.sum_nonneg fun quantity hquantity => ?_
  obtain ⟨pick, -, rfl⟩ := List.mem_map.mp hquantity
  split
  · exact pick.quantityPos.le
  · exact le_rfl

theorem adminPicked_cons (pick : AdminPickEntry) (soLineId : ℕ) (line : SalesOrderLine) :
    (if soLineId = pick.soLineId then line.adminPick pick.quantity else line).adminPicked
        (askedOf picks soLineId) = line.adminPicked (askedOf (pick :: picks) soLineId) := by
  have hrest := askedOf_nonneg picks soLineId
  have hpos := pick.quantityPos
  by_cases hline : soLineId = pick.soLineId
  · have hasked : askedOf (pick :: picks) soLineId =
        pick.quantity + askedOf picks soLineId := by simp [askedOf, hline]
    rw [if_pos hline, hasked, SalesOrderLine.adminPicked, SalesOrderLine.adminPicked]
    simp only [SalesOrderLine.adminPick, SalesOrderLine.mk.injEq, true_and, and_true]
    split <;> split <;> omega
  · have hasked : askedOf (pick :: picks) soLineId = askedOf picks soLineId := by
      simp [askedOf, Ne.symm hline]
    rw [if_neg hline, hasked]

theorem foldlM_adminPickEntry {state state' : Store × ℤ}
    (hpicks : picks.foldlM (adminPickEntry soId batchId lines) state = .ok state') :
    state'.1.salesOrderLines = state.1.salesOrderLines.mapRows fun soLineId line =>
      line.adminPicked (askedOf picks soLineId) := by
  induction picks generalizing state with
  | nil =>
      cases hpicks
      simp [askedOf, SalesOrderLine.adminPicked, Table.mapRows_id]
  | cons pick picks ih =>
      rw [List.foldlM_cons] at hpicks
      obtain ⟨picked, hpick, hrest⟩ := bind_eq_ok.mp hpicks
      obtain ⟨line, -, -, rfl⟩ := adminPickEntry_spec hpick
      rw [ih hrest, Table.modify, Table.mapRows_mapRows]
      simp only [adminPicked_cons]

/-! ## The check of the sums -/

theorem lookup_cons (key key' : ℕ) (total : ℤ) (totals : List (ℕ × ℤ)) :
    ((key', total) :: totals).lookup key = if key = key' then some total else totals.lookup key := by
  rw [List.lookup_cons]
  by_cases hkey : key = key'
  · rw [if_pos hkey, hkey, BEq.rfl]
  · rw [if_neg hkey, beq_false_of_ne hkey]

theorem lookup_addToLine (soLineId : ℕ) (quantity : ℤ) (totals : List (ℕ × ℤ)) (key : ℕ) :
    (addToLine soLineId quantity totals).lookup key =
      if key = soLineId then some ((totals.lookup soLineId).getD 0 + quantity)
      else totals.lookup key := by
  induction totals with
  | nil => simp [addToLine, lookup_cons]
  | cons entry totals ih =>
      obtain ⟨soLineId', total⟩ := entry
      rw [addToLine]
      by_cases hsame : soLineId' = soLineId
      · by_cases hkey : key = soLineId <;> simp [lookup_cons, hsame, hkey]
      · rw [if_neg hsame, lookup_cons, lookup_cons, lookup_cons, ih, if_neg (Ne.symm hsame)]
        by_cases hkey : key = soLineId'
        · rw [if_pos hkey, if_pos hkey, if_neg fun heq => hsame (hkey.symm.trans heq)]
        · rw [if_neg hkey, if_neg hkey]

theorem lookup_foldl_addToLine (totals : List (ℕ × ℤ)) {key : ℕ}
    (hkey : (totals.lookup key).isSome ∨ ∃ pick ∈ picks, pick.soLineId = key) :
    (picks.foldl (fun totals pick => addToLine pick.soLineId pick.quantity totals)
        totals).lookup key = some ((totals.lookup key).getD 0 + askedOf picks key) := by
  induction picks generalizing totals with
  | nil =>
      obtain ⟨total, htotal⟩ := Option.isSome_iff_exists.mp (hkey.resolve_right (by simp))
      simp [askedOf, htotal]
  | cons pick picks ih =>
      have hasked : askedOf (pick :: picks) key =
          (if pick.soLineId = key then pick.quantity else 0) + askedOf picks key := rfl
      rw [List.foldl_cons, ih, lookup_addToLine, hasked]
      · by_cases hpick : key = pick.soLineId
        · rw [if_pos hpick, hpick, if_pos rfl, Option.getD_some, add_assoc]
        · rw [if_neg hpick, if_neg (Ne.symm hpick), zero_add]
      · rw [lookup_addToLine]
        by_cases hpick : key = pick.soLineId
        · exact .inl (by rw [if_pos hpick, Option.isSome_some])
        · rw [if_neg hpick]
          refine hkey.imp_right ?_
          rintro ⟨other, hother, rfl⟩
          rcases List.mem_cons.mp hother with rfl | hother
          · exact absurd rfl hpick
          · exact ⟨other, hother, rfl⟩

theorem forM_ok {totals : List (ℕ × ℤ)} {check : ℕ × ℤ → Except AdminPickError Unit}
    (hall : totals.forM check = .ok ()) {entry : ℕ × ℤ} (hentry : entry ∈ totals) :
    check entry = .ok () := by
  induction totals with
  | nil => cases hentry
  | cons first totals ih =>
      obtain ⟨_, hfirst, hrest⟩ := bind_eq_ok.mp hall
      rcases List.mem_cons.mp hentry with rfl | hentry
      · exact hfirst
      · exact ih hrest hentry

theorem asked_of_checkAdminLines (hcheck : checkAdminLines soId lines (byLine picks) = .ok ())
    {pick : AdminPickEntry} (hpick : pick ∈ picks) :
    ∃ line, lines.lookup pick.soLineId = some line ∧
      line.quantityPicked + askedOf picks pick.soLineId ≤ line.quantityOrdered := by
  have htotal : (byLine picks).lookup pick.soLineId =
      some (askedOf picks pick.soLineId) := by
    rw [byLine, lookup_foldl_addToLine [] (.inr ⟨pick, hpick, rfl⟩)]
    simp
  have hmem : (pick.soLineId, askedOf picks pick.soLineId) ∈ byLine picks := by
    obtain ⟨before, rest, htotals, -⟩ := List.lookup_eq_some_iff.mp htotal
    rw [htotals]
    exact List.mem_append_right _ List.mem_cons_self
  rw [checkAdminLines] at hcheck
  split at hcheck
  · cases hcheck
  next hmissing =>
    have hchecked := forM_ok hcheck hmem
    dsimp only at hchecked
    cases hline : lines.lookup pick.soLineId with
    | none =>
        have hnamed : pick.soLineId ∈ ((byLine picks).map Prod.fst).filter fun soLineId =>
            (lines.lookup soLineId).isNone :=
          List.mem_filter.mpr ⟨List.mem_map_of_mem hmem, by rw [hline, Option.isNone_none]⟩
        rw [Decidable.not_not, List.isEmpty_iff] at hmissing
        exact absurd (hmissing ▸ hnamed) List.not_mem_nil
    | some line =>
        rw [hline] at hchecked
        dsimp only at hchecked
        split at hchecked
        · cases hchecked
        · exact ⟨line, rfl, by omega⟩

/-- A recorded admin pick counts on every line exactly what its entries ask of it, for which
each line that they name is one of the order and has enough left, and changes no other line. -/
theorem recordAdminPick_lines {username : String}
    (hrecord : recordAdminPick store soId picks username = .ok after) :
    (after.salesOrderLines = store.salesOrderLines.mapRows fun soLineId line =>
        line.adminPicked (askedOf picks soLineId)) ∧
      ∀ pick ∈ picks, ∃ line, store.salesOrderLines.get? pick.soLineId = some line ∧
        line.soId = soId ∧
        line.quantityPicked + askedOf picks pick.soLineId ≤ line.quantityOrdered := by
  rw [recordAdminPick] at hrecord
  split at hrecord
  · cases hrecord
  next order horder =>
    split at hrecord
    · cases hrecord
    split at hrecord
    · cases hrecord
    split at hrecord
    · cases hrecord
    obtain ⟨_, hlines, hrecord⟩ := bind_eq_ok.mp hrecord
    obtain ⟨_, -, hrecord⟩ := bind_eq_ok.mp hrecord
    obtain ⟨picked, hpicked, hafter⟩ := bind_eq_ok.mp hrecord
    cases hafter
    refine ⟨foldlM_adminPickEntry hpicked, fun pick hpick => ?_⟩
    obtain ⟨line, hlookup, hleft⟩ := asked_of_checkAdminLines hlines hpick
    obtain ⟨before, rest, hfound, -⟩ := List.lookup_eq_some_iff.mp hlookup
    have hmem : (pick.soLineId, line) ∈ store.lineById soId picks := by
      rw [hfound]
      exact List.mem_append_right _ List.mem_cons_self
    obtain ⟨hline, hnamed⟩ := List.mem_filter.mp hmem
    rw [Bool.and_eq_true, beq_iff_eq] at hnamed
    exact ⟨line, store.salesOrderLines.get?_eq_some.mpr hline, hnamed.1, hleft⟩

/-- A line for two units that is picked in two entries. -/
def oneEach : List AdminPickEntry :=
  [⟨1, 1, 1, Int.one_pos⟩, ⟨1, 1, 1, Int.one_pos⟩]

theorem recordAdminPick_lines_oneEach :
    ∃ after, recordAdminPick twoOrderStore 1 oneEach "admin" = .ok after ∧
      after.salesOrderLines = twoOrderStore.salesOrderLines.mapRows fun soLineId line =>
        line.adminPicked (askedOf oneEach soLineId) := by
  obtain ⟨after, hrecord⟩ : ∃ after,
      recordAdminPick twoOrderStore 1 oneEach "admin" = .ok after := ⟨_, rfl⟩
  exact ⟨after, hrecord, (recordAdminPick_lines hrecord).1⟩

end SentryWms
