import SentryWms.Core.Table

/-!
# Greedy walks

A walk meets a demand from a list of sources, taking from each source what is
still missing or all it has. Reservation, release and distribution loops are all
walks; what differs is where the sources come from and what a take does.
-/

namespace Relational

/-- Meet a demand from the sources in order; the takes, each under its key. -/
def takes {κ : Type*} : ℤ → List (κ × ℤ) → List (κ × ℤ)
  | _, [] => []
  | demand, (key, available) :: rest =>
      if demand ≤ 0 then []
      else (key, min demand available) ::
        takes (demand - min demand available) rest

/-- What all sources hold together. -/
def supply {κ : Type*} (sources : List (κ × ℤ)) : ℤ :=
  (sources.map Prod.snd).sum

namespace Walk

variable {κ : Type*}

@[simp]
theorem supply_nil : supply ([] : List (κ × ℤ)) = 0 := rfl

@[simp]
theorem supply_cons (source : κ × ℤ) (rest : List (κ × ℤ)) :
    supply (source :: rest) = source.2 + supply rest := by
  simp [supply]

@[simp]
theorem supply_append (left right : List (κ × ℤ)) :
    supply (left ++ right) = supply left + supply right := by
  simp [supply]

variable {sources : List (κ × ℤ)}

theorem supply_nonneg (hsources : ∀ source ∈ sources, 0 ≤ source.2) : 0 ≤ supply sources := by
  apply List.sum_nonneg
  intro available havailable
  obtain ⟨source, hsource, rfl⟩ := List.mem_map.mp havailable
  exact hsources source hsource

variable {demand : ℤ}

theorem takes_of_nonpos (hdemand : demand ≤ 0)
    (sources : List (κ × ℤ)) : takes demand sources = [] := by
  cases sources with
  | nil => rfl
  | cons source rest => simp [takes, hdemand]

/-- The sources that are drawn from are a prefix of those offered. -/
theorem takes_keys_initial (demand : ℤ) (sources : List (κ × ℤ)) :
    (takes demand sources).map Prod.fst <+: sources.map Prod.fst := by
  induction sources generalizing demand with
  | nil => simp [takes]
  | cons source rest ih =>
      obtain ⟨key, available⟩ := source
      by_cases hdemand : demand ≤ 0
      · simp [takes, hdemand]
      · simpa [takes, hdemand] using ih (demand - min demand available)

theorem takes_keys_nodup (hnodup : (sources.map Prod.fst).Nodup) (demand : ℤ) :
    ((takes demand sources).map Prod.fst).Nodup :=
  hnodup.sublist (takes_keys_initial demand sources).sublist

/-- A take is at most what its source has, and positive when the source is. -/
theorem mem_takes (hsources : ∀ source ∈ sources, 0 ≤ source.2) {key : κ} {quantity : ℤ}
    (hmem : (key, quantity) ∈ takes demand sources) :
    ∃ available, (key, available) ∈ sources ∧ 0 ≤ quantity ∧
      quantity ≤ available ∧ (0 < available → 0 < quantity) := by
  induction sources generalizing demand with
  | nil => simp [takes] at hmem
  | cons source rest ih =>
      obtain ⟨key', available⟩ := source
      by_cases hdemand : demand ≤ 0
      · simp [takes, hdemand] at hmem
      · rw [takes, if_neg hdemand, List.mem_cons] at hmem
        have havailable := hsources (key', available) List.mem_cons_self
        rcases hmem with hhead | hrest
        · obtain ⟨rfl, rfl⟩ := Prod.mk.inj hhead
          exact ⟨available, List.mem_cons_self, by omega, by omega, by omega⟩
        · obtain ⟨available', hmem', hbounds⟩ :=
            ih (fun source hsource => hsources source (List.mem_cons_of_mem _ hsource))
              hrest
          exact ⟨available', List.mem_cons_of_mem _ hmem', hbounds⟩

/-- A walk takes the whole demand or everything there is. -/
theorem supply_takes (hdemand : 0 ≤ demand) (hsources : ∀ source ∈ sources, 0 ≤ source.2) :
    supply (takes demand sources) = min demand (supply sources) := by
  induction sources generalizing demand with
  | nil => simp [takes, hdemand]
  | cons source rest ih =>
      obtain ⟨key, available⟩ := source
      have havailable := hsources (key, available) List.mem_cons_self
      have hrest : ∀ source ∈ rest, 0 ≤ source.2 := fun source hsource =>
        hsources source (List.mem_cons_of_mem _ hsource)
      have hsupply := supply_nonneg hrest
      simp only [supply_cons] at havailable ⊢
      by_cases hzero : demand ≤ 0
      · simp only [takes_of_nonpos hzero, supply_nil]
        omega
      · rw [takes, if_neg hzero, supply_cons, ih (by omega) hrest]
        dsimp only
        omega

/-- A walk over enough supply meets its demand exactly. -/
theorem supply_takes_of_le (hdemand : 0 ≤ demand) (hsources : ∀ source ∈ sources, 0 ≤ source.2)
    (hle : demand ≤ supply sources) : supply (takes demand sources) = demand := by
  rw [supply_takes hdemand hsources, min_eq_left hle]

/-- A walk never takes more than its demand, whatever the sources hold. -/
theorem supply_takes_le (hdemand : 0 ≤ demand)
    (sources : List (κ × ℤ)) : supply (takes demand sources) ≤ demand := by
  induction sources generalizing demand with
  | nil => simpa [takes] using hdemand
  | cons source rest ih =>
      obtain ⟨key, available⟩ := source
      by_cases hzero : demand ≤ 0
      · simpa [takes, hzero] using hdemand
      · have hrest := ih (show 0 ≤ demand - min demand available by omega)
        rw [takes, if_neg hzero, supply_cons]
        dsimp only
        omega

/-- Takes of nothing may be left out. -/
theorem supply_filter_ne_zero (draws : List (κ × ℤ)) :
    supply (draws.filter fun draw => draw.2 != 0) = supply draws := by
  induction draws with
  | nil => rfl
  | cons draw draws ih =>
      by_cases hzero : draw.2 = 0 <;> simp [hzero, ih]

/-- A take draws from one of the sources. -/
theorem source_of_mem_takes {draw : κ × ℤ} (hmem : draw ∈ takes demand sources) :
    ∃ available, (draw.1, available) ∈ sources := by
  have hkey : draw.1 ∈ sources.map Prod.fst :=
    (takes_keys_initial demand sources).subset (List.mem_map_of_mem hmem)
  obtain ⟨source, hsource, heq⟩ := List.mem_map.mp hkey
  exact ⟨source.2, heq ▸ hsource⟩

end Walk

/-! ## Walks over a table -/

namespace Table

universe u

variable {ρ : Type u}

/-- Carry out the takes of a walk, one row after the other. -/
def applyTakes (table : Table ρ) (change : ℤ → ρ → ρ) (draws : List (ℕ × ℤ)) :
    Table ρ :=
  draws.foldl (fun table draw => table.modify draw.1 (change draw.2)) table

variable (table : Table ρ) (change : ℤ → ρ → ρ)

@[simp]
theorem applyTakes_nil : table.applyTakes change [] = table := rfl

@[simp]
theorem applyTakes_cons (draw : ℕ × ℤ) (draws : List (ℕ × ℤ)) :
    table.applyTakes change (draw :: draws) =
      (table.modify draw.1 (change draw.2)).applyTakes change draws := rfl

/-- What the selected rows offer is a total over the table. -/
theorem supply_select (cond : ρ → Bool) (measure : ρ → ℤ) :
    supply ((table.select cond).map fun entry => (entry.1, measure entry.2)) =
      table.total fun _ row => if cond row then measure row else 0 := by
  rw [← table.total_select cond fun _ row => measure row]
  simp [supply, Function.comp_def]

variable {draws : List (ℕ × ℤ)}

/-- A total that each take moves by a fixed multiple moves by that multiple of the
sum of the takes. -/
theorem total_applyTakes (Good : ρ → Prop) {value : ℕ → ρ → ℤ} (slope : ℤ)
    (hgood : ∀ quantity row, Good row → Good (change quantity row))
    (hvalue : ∀ quantity key row, Good row → value key (change quantity row) = value key row + slope * quantity)
    (hdraws : ∀ draw ∈ draws, ∃ row, (draw.1, row) ∈ table.entries ∧ Good row) :
    (table.applyTakes change draws).total value =
      table.total value + slope * supply draws := by
  induction draws generalizing table with
  | nil => simp
  | cons draw draws ih =>
      obtain ⟨row, hrow, hgoodRow⟩ := hdraws draw List.mem_cons_self
      rw [applyTakes_cons, ih, table.total_modify hrow, hvalue draw.2 draw.1 row hgoodRow,
        Walk.supply_cons]
      · ring
      · intro draw' hdraw'
        obtain ⟨row', hrow', hgoodRow'⟩ :=
          hdraws draw' (List.mem_cons_of_mem _ hdraw')
        by_cases hkey : draw'.1 = draw.1
        · exact ⟨_, (mem_modify _).mpr ⟨row', hrow', if_pos hkey⟩,
            hgood draw.2 row' hgoodRow'⟩
        · exact ⟨row', (mem_modify _).mpr ⟨row', hrow', if_neg hkey⟩, hgoodRow'⟩

/-- The same where each row is drawn on at most once, so that the change need only
be known for the take that the row really gives. -/
theorem total_applyTakes_of_nodup {value : ℕ → ρ → ℤ} (slope : ℤ)
    (hnodup : (draws.map Prod.fst).Nodup)
    (hdraws : ∀ draw ∈ draws, ∃ row, (draw.1, row) ∈ table.entries ∧ value draw.1 (change draw.2 row) = value draw.1 row + slope * draw.2) :
    (table.applyTakes change draws).total value =
      table.total value + slope * supply draws := by
  induction draws generalizing table with
  | nil => simp
  | cons draw draws ih =>
      obtain ⟨row, hrow, hvalue⟩ := hdraws draw List.mem_cons_self
      rw [List.map_cons, List.nodup_cons] at hnodup
      rw [applyTakes_cons, ih _ hnodup.2, table.total_modify hrow, hvalue,
        Walk.supply_cons]
      · ring
      · intro draw' hdraw'
        obtain ⟨row', hrow', hvalue'⟩ := hdraws draw' (List.mem_cons_of_mem _ hdraw')
        have hkey : draw'.1 ≠ draw.1 := fun heq =>
          hnodup.1 (heq ▸ List.mem_map_of_mem hdraw')
        exact ⟨row', (mem_modify _).mpr ⟨row', hrow', if_neg hkey⟩, hvalue'⟩

/-- Where each row is drawn on at most once, a row after the walk is unchanged or
comes from one take. -/
theorem mem_applyTakes (hnodup : (draws.map Prod.fst).Nodup) {key : ℕ} {row : ρ}
    (hmem : (key, row) ∈ (table.applyTakes change draws).entries) :
    (key, row) ∈ table.entries ∨
      ∃ before quantity, (key, before) ∈ table.entries ∧ (key, quantity) ∈ draws ∧
        row = change quantity before := by
  induction draws generalizing table with
  | nil => exact .inl hmem
  | cons draw draws ih =>
      rw [List.map_cons, List.nodup_cons] at hnodup
      rw [applyTakes_cons] at hmem
      rcases ih _ hnodup.2 hmem with hkept | ⟨before, quantity, hbefore, hdraw, hrow⟩
      · obtain ⟨before, hbefore, hstep⟩ := (mem_modify _).mp hkept
        by_cases hkey : key = draw.1
        · rw [if_pos hkey] at hstep
          refine .inr ⟨before, draw.2, hbefore, ?_, hstep.symm⟩
          rw [hkey]
          exact List.mem_cons_self
        · rw [if_neg hkey] at hstep
          exact .inl (hstep ▸ hbefore)
      · obtain ⟨first, hfirst, hstep⟩ := (mem_modify _).mp hbefore
        have hkey : key ≠ draw.1 := fun heq =>
          hnodup.1 (heq ▸ List.mem_map_of_mem hdraw)
        rw [if_neg hkey] at hstep
        exact .inr ⟨before, quantity, hstep ▸ hfirst, List.mem_cons_of_mem _ hdraw,
          hrow⟩

/-- Where each row is drawn on at most once, a row before the walk stays or is changed by
one take. -/
theorem exists_mem_applyTakes (hnodup : (draws.map Prod.fst).Nodup) {key : ℕ} {row : ρ}
    (hmem : (key, row) ∈ table.entries) :
    ∃ row', (key, row') ∈ (table.applyTakes change draws).entries ∧
      (row' = row ∨ ∃ quantity, (key, quantity) ∈ draws ∧ row' = change quantity row) := by
  have hkeys : ∀ (draws : List (ℕ × ℤ)) (table : Table ρ),
      (table.applyTakes change draws).keys = table.keys := by
    intro draws
    induction draws with
    | nil => exact fun _ => rfl
    | cons draw draws ih =>
        intro table
        rw [applyTakes_cons, ih, modify, mapRows_keys]
  have hkey : key ∈ (table.applyTakes change draws).keys := by
    rw [hkeys]
    exact List.mem_map_of_mem hmem
  obtain ⟨⟨key', row'⟩, hrow', rfl⟩ := List.mem_map.mp hkey
  refine ⟨row', hrow', ?_⟩
  rcases table.mem_applyTakes change hnodup hrow' with
    hkept | ⟨before, quantity, hbefore, hdraw, hrow⟩
  · exact .inl (table.row_unique hkept hmem)
  · rw [table.row_unique hbefore hmem] at hrow
    exact .inr ⟨quantity, hdraw, hrow⟩

end Table

end Relational
