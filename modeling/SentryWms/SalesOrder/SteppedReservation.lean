import SentryWms.SalesOrder.Editing
import SentryWms.SalesOrder.Release

/-!
# Stepping a reservation

The stepper raises a line by what its walk over the free rows brings, but lowers it by
the whole step, whatever the walk over the reserved rows gives back. The two ledgers move
together when the reserved rows hold the step.
-/

namespace SentryWms

open Relational Walk

/-! ## The property -/

/-- The row is not reserved above what it holds, and not released below zero. -/
def Inventory.ReservedWithin (row row' : Inventory) : Prop :=
  row'.quantityOnHand = row.quantityOnHand ∧
    (row'.quantityAllocated ≤ row.quantityAllocated ∨
      row'.quantityAllocated ≤ row'.quantityOnHand) ∧
    (row.quantityAllocated ≤ row'.quantityAllocated ∨ 0 ≤ row'.quantityAllocated)

/-- The line moves by what its warehouse reserves more or less of the item, and stays
between what is picked and what is ordered. -/
structure StepsTogether (store after : Store) (soLineId warehouseId : ℕ)
    (line : SalesOrderLine) : Prop where
  line : ∃ line', after.salesOrderLines.get? soLineId = some line' ∧
    line'.quantityAllocated - line.quantityAllocated =
      after.warehouseAllocated line.itemId warehouseId -
        store.warehouseAllocated line.itemId warehouseId ∧
    line.quantityPicked ≤ line'.quantityAllocated ∧
    line'.quantityAllocated ≤ line.quantityOrdered
  rows : Table.Persists Inventory.ReservedWithin store.inventory after.inventory

/-- The reservation that a step asks for. -/
def SalesOrderLine.stepTarget (delta : ℤ) (line : SalesOrderLine) : ℤ :=
  max line.quantityPicked (min line.quantityOrdered (line.quantityAllocated + delta))

/-- The line is not picked over, the free rows reach up to what is picked, and the
reserved rows hold what is given back. -/
structure Steppable (store : Store) (warehouseId : ℕ) (line : SalesOrderLine)
    (delta : ℤ) : Prop where
  notOverpicked : line.quantityPicked ≤ line.quantityOrdered
  raise : line.quantityAllocated < line.stepTarget delta →
    line.quantityPicked ≤
      line.quantityAllocated + supply (store.freeRows line.itemId warehouseId)
  lower : line.stepTarget delta < line.quantityAllocated →
    line.quantityAllocated - line.stepTarget delta ≤
      supply (store.reservedRows line.itemId warehouseId)

section Step

variable {store after : Store} {soId soLineId : ℕ} {line : SalesOrderLine}
  {order : SalesOrder} {delta : ℤ}

theorem reservedWithin_refl (row : Inventory) : row.ReservedWithin row :=
  ⟨rfl, .inl (le_refl _), .inl (le_refl _)⟩

/-! ## The walks -/

theorem shifts_holdUnits (now : ℕ) : Shifts (holdUnits now) 1 where
  itemId _ _ := rfl
  warehouseId _ _ := rfl
  quantityAllocated quantity row := by rw [one_mul]; rfl

theorem shifts_releaseUnits (now : ℕ) : Shifts (releaseUnits now) (-1) where
  itemId _ _ := rfl
  warehouseId _ _ := rfl
  quantityAllocated quantity row := by
    rw [releaseUnits]
    ring

variable {itemId warehouseId : ℕ} {demand : ℤ}

theorem takes_freeRows {draw : ℕ × ℤ}
    (hdraw : draw ∈ takes demand (store.freeRows itemId warehouseId)) :
    ∃ row, (draw.1, row) ∈ store.inventory.entries ∧
      row.inWarehouse itemId warehouseId = true := by
  obtain ⟨available, hsource⟩ := Walk.source_of_mem_takes hdraw
  obtain ⟨entry, hentry, heq⟩ := List.mem_map.mp hsource
  obtain ⟨hmem, hcond⟩ := (Table.mem_select _).mp (mem_orderBy.mp hentry)
  obtain ⟨hkey, -⟩ := Prod.mk.inj heq
  rw [Bool.and_eq_true] at hcond
  exact ⟨entry.2, hkey ▸ hmem, hcond.1⟩

theorem mem_freeRows {source : ℕ × ℤ} (hsource : source ∈ store.freeRows itemId warehouseId) :
    ∃ row, (source.1, row) ∈ store.inventory.entries ∧ source.2 = row.available ∧
      0 < source.2 := by
  obtain ⟨entry, hentry, rfl⟩ := List.mem_map.mp hsource
  obtain ⟨hmem, hcond⟩ := (Table.mem_select _).mp (mem_orderBy.mp hentry)
  rw [Bool.and_eq_true, decide_eq_true_eq] at hcond
  refine ⟨entry.2, hmem, rfl, ?_⟩
  rw [Inventory.available]
  omega

theorem freeRows_nonneg (store : Store) (itemId warehouseId : ℕ) :
    ∀ source ∈ store.freeRows itemId warehouseId, 0 ≤ source.2 := by
  intro source hsource
  obtain ⟨row, -, -, hpos⟩ := mem_freeRows hsource
  exact hpos.le

theorem freeRows_nodup (store : Store) (itemId warehouseId : ℕ) :
    ((store.freeRows itemId warehouseId).map Prod.fst).Nodup := by
  rw [Store.freeRows, List.map_map]
  have hperm := (orderBy_perm (fun entry : ℕ × Inventory =>
    toLex (-entry.2.available, entry.1)) (store.inventory.select fun row =>
      row.inWarehouse itemId warehouseId &&
        decide (row.quantityAllocated < row.quantityOnHand))).map Prod.fst
  exact hperm.nodup_iff.mpr (store.inventory.select_nodup _)

theorem mem_reservedRows {source : ℕ × ℤ}
    (hsource : source ∈ store.reservedRows itemId warehouseId) :
    ∃ row, (source.1, row) ∈ store.inventory.entries ∧
      source.2 = row.quantityAllocated ∧ 0 < source.2 := by
  obtain ⟨entry, hentry, rfl⟩ := List.mem_map.mp hsource
  obtain ⟨hmem, hcond⟩ := (Table.mem_select _).mp hentry
  rw [Bool.and_eq_true, decide_eq_true_eq] at hcond
  exact ⟨entry.2, hmem, rfl, hcond.2⟩

theorem reservedRows_nonneg (store : Store) (itemId warehouseId : ℕ) :
    ∀ source ∈ store.reservedRows itemId warehouseId, 0 ≤ source.2 := by
  intro source hsource
  obtain ⟨row, -, -, hpos⟩ := mem_reservedRows hsource
  exact hpos.le

theorem reservedRows_nodup (store : Store) (itemId warehouseId : ℕ) :
    ((store.reservedRows itemId warehouseId).map Prod.fst).Nodup := by
  rw [Store.reservedRows, List.map_map]
  exact store.inventory.select_nodup _

theorem takes_reservedRows {draw : ℕ × ℤ}
    (hdraw : draw ∈ takes demand (store.reservedRows itemId warehouseId)) :
    ∃ row, (draw.1, row) ∈ store.inventory.entries ∧
      row.inWarehouse itemId warehouseId = true := by
  refine takes_select_inWarehouse Inventory.quantityAllocated ?_ hdraw
  intro row hrow
  exact (Bool.and_eq_true_iff.mp hrow).1

theorem holdUnits_reservedWithin (demand : ℤ) (itemId warehouseId : ℕ) :
    Table.Persists Inventory.ReservedWithin store.inventory
      (store.inventory.applyTakes (holdUnits store.now)
        (takes demand (store.freeRows itemId warehouseId))) := by
  intro key row hrow
  obtain ⟨row', hrow', hchange⟩ := store.inventory.exists_mem_applyTakes
    (holdUnits store.now) (takes_keys_nodup (freeRows_nodup store itemId warehouseId)
      demand) hrow
  refine ⟨row', hrow', ?_⟩
  rcases hchange with rfl | ⟨quantity, hdraw, rfl⟩
  · exact reservedWithin_refl _
  · obtain ⟨available, hsource, hnonneg, hle, -⟩ := mem_takes (freeRows_nonneg _ _ _) hdraw
    obtain ⟨before, hbefore, havailable, -⟩ := mem_freeRows hsource
    dsimp only at havailable hbefore
    rw [store.inventory.row_unique hbefore hrow, Inventory.available] at havailable
    refine ⟨rfl, .inr ?_, .inl ?_⟩
    · rw [holdUnits]
      dsimp only
      omega
    · rw [holdUnits]
      dsimp only
      omega

theorem releaseUnits_reservedWithin (demand : ℤ) (itemId warehouseId : ℕ) :
    Table.Persists Inventory.ReservedWithin store.inventory
      (store.inventory.applyTakes (releaseUnits store.now)
        (takes demand (store.reservedRows itemId warehouseId))) := by
  intro key row hrow
  obtain ⟨row', hrow', hchange⟩ := store.inventory.exists_mem_applyTakes
    (releaseUnits store.now) (takes_keys_nodup
      (reservedRows_nodup store itemId warehouseId) demand) hrow
  refine ⟨row', hrow', ?_⟩
  rcases hchange with rfl | ⟨quantity, hdraw, rfl⟩
  · exact reservedWithin_refl _
  · obtain ⟨available, hsource, hnonneg, hle, -⟩ :=
      mem_takes (reservedRows_nonneg _ _ _) hdraw
    obtain ⟨before, hbefore, havailable, -⟩ := mem_reservedRows hsource
    dsimp only at havailable hbefore
    rw [store.inventory.row_unique hbefore hrow] at havailable
    refine ⟨rfl, .inl ?_, .inr ?_⟩
    · rw [releaseUnits]
      dsimp only
      omega
    · rw [releaseUnits]
      dsimp only
      omega

/-! ## The branches of a step -/

theorem stepsTogether_same_iff (hline : store.salesOrderLines.get? soLineId = some line) :
    StepsTogether store store soLineId warehouseId line ↔
      line.quantityPicked ≤ line.quantityAllocated ∧
        line.quantityAllocated ≤ line.quantityOrdered := by
  constructor
  · rintro ⟨⟨line', hline', -, hpicked, hordered⟩, -⟩
    rw [hline, Option.some.injEq] at hline'
    subst hline'
    exact ⟨hpicked, hordered⟩
  · rintro ⟨hpicked, hordered⟩
    exact ⟨⟨line, hline, by omega, hpicked, hordered⟩,
      Table.Persists.refl reservedWithin_refl _⟩

theorem stepsTogether_iff {change : ℤ → Inventory → Inventory} {slope : ℤ}
    (hshifts : Shifts change slope) {draws : List (ℕ × ℤ)}
    (hdraws : ∀ draw ∈ draws, ∃ row, (draw.1, row) ∈ store.inventory.entries ∧ row.inWarehouse line.itemId warehouseId = true)
    (hrows : Table.Persists Inventory.ReservedWithin store.inventory (store.inventory.applyTakes change draws))
    (hline : store.salesOrderLines.get? soLineId = some line) (target : ℤ) :
    StepsTogether store
        { store with
          inventory := store.inventory.applyTakes change draws
          salesOrderLines := store.salesOrderLines.modify soLineId
            (SalesOrderLine.setAllocated target) } soLineId warehouseId line ↔
      target - line.quantityAllocated = slope * supply draws ∧
        line.quantityPicked ≤ target ∧ target ≤ line.quantityOrdered := by
  have hget : (store.salesOrderLines.modify soLineId
      (SalesOrderLine.setAllocated target)).get? soLineId =
      some (line.setAllocated target) := by
    rw [Table.modify, Table.get?_mapRows, hline, Option.map_some, if_pos rfl]
  have hallocated : Store.warehouseAllocated
      { store with
        inventory := store.inventory.applyTakes change draws
        salesOrderLines := store.salesOrderLines.modify soLineId
          (SalesOrderLine.setAllocated target) } line.itemId warehouseId =
      store.warehouseAllocated line.itemId warehouseId + slope * supply draws := by
    have hshift := warehouseAllocated_applyTakes hshifts hdraws line.itemId warehouseId
    rw [if_pos ⟨rfl, rfl⟩] at hshift
    exact hshift
  constructor
  · rintro ⟨⟨line', hline', hmove, hpicked, hordered⟩, -⟩
    rw [hget, Option.some.injEq] at hline'
    subst hline'
    rw [hallocated, SalesOrderLine.setAllocated] at hmove
    dsimp only at hmove
    exact ⟨by omega, hpicked, hordered⟩
  · rintro ⟨hmove, hpicked, hordered⟩
    refine ⟨⟨_, hget, ?_, hpicked, hordered⟩, hrows⟩
    rw [hallocated, SalesOrderLine.setAllocated]
    dsimp only
    omega

theorem reserveFree_stepsTogether_iff (hline : store.salesOrderLines.get? soLineId = some line)
    (hdemand : 0 < demand) :
    StepsTogether store
        (store.reserveFree soLineId line.itemId warehouseId line.quantityAllocated demand)
        soLineId warehouseId line ↔
      line.quantityPicked ≤ line.quantityAllocated +
          min demand (supply (store.freeRows line.itemId warehouseId)) ∧
        line.quantityAllocated +
          min demand (supply (store.freeRows line.itemId warehouseId)) ≤
            line.quantityOrdered := by
  have hsupply := supply_takes hdemand.le
    (freeRows_nonneg store line.itemId warehouseId)
  rw [Store.reserveFree]
  split
  next hzero =>
    rw [hzero] at hsupply
    rw [stepsTogether_same_iff hline, ← hsupply, add_zero]
  · have hdraws : ∀ draw ∈ takes demand (store.freeRows line.itemId warehouseId),
        ∃ row, (draw.1, row) ∈ store.inventory.entries ∧
          row.inWarehouse line.itemId warehouseId = true :=
      fun draw hdraw => takes_freeRows hdraw
    rw [stepsTogether_iff (shifts_holdUnits store.now) hdraws
      (holdUnits_reservedWithin demand line.itemId warehouseId) hline, hsupply]
    constructor
    · exact And.right
    · intro hbounds
      exact ⟨by ring, hbounds⟩

end Step

/-- A step moves both ledgers together exactly when the line is steppable. -/
theorem adjustLineAllocation_iff {store : Store} {soId soLineId : ℕ}
    {line : SalesOrderLine} {order : SalesOrder} {delta : ℤ}
    (hline : store.salesOrderLines.get? soLineId = some line) (hsoId : line.soId = soId)
    (horder : store.salesOrders.get? soId = some order) :
    (∃ after, adjustLineAllocation store soId soLineId delta = .ok after ∧
        StepsTogether store after soLineId order.warehouseId line) ↔
      Steppable store order.warehouseId line delta := by
  have hfound : (store.salesOrderLines.get? soLineId).filter (fun line =>
      line.soId == soId) = some line :=
    Option.filter_eq_some_iff.mpr ⟨hline, beq_iff_eq.mpr hsoId⟩
  have hpicked : line.quantityPicked ≤ line.stepTarget delta := le_max_left _ _
  have hordered : line.stepTarget delta ≤ line.quantityOrdered ↔
      line.quantityPicked ≤ line.quantityOrdered := by
    rw [SalesOrderLine.stepTarget]
    omega
  rw [adjustLineAllocation, hfound, horder]
  dsimp only
  rw [← SalesOrderLine.stepTarget]
  rcases lt_trichotomy (line.stepTarget delta) line.quantityAllocated with
    hlower | hsame | hraise
  · -- the line is lowered by the whole step
    rw [if_neg hlower.ne, if_neg hlower.not_gt]
    have hsupply := supply_takes (sub_pos.mpr hlower).le
      (reservedRows_nonneg store line.itemId order.warehouseId)
    have hdraws : ∀ draw ∈ takes (line.quantityAllocated - line.stepTarget delta)
        (store.reservedRows line.itemId order.warehouseId), ∃ row,
        (draw.1, row) ∈ store.inventory.entries ∧
          row.inWarehouse line.itemId order.warehouseId = true :=
      fun draw hdraw => takes_reservedRows hdraw
    simp only [Except.ok.injEq, exists_eq_left',
      stepsTogether_iff (shifts_releaseUnits store.now) hdraws
        (releaseUnits_reservedWithin _ line.itemId order.warehouseId) hline, hsupply,
      hordered]
    constructor
    · rintro ⟨hmove, -, hover⟩
      exact ⟨hover, fun hraise => absurd hraise hlower.not_gt, fun _ => by omega⟩
    · rintro ⟨hover, -, hgive⟩
      have hstep := hgive hlower
      exact ⟨by omega, hpicked, hover⟩
  · rw [if_pos hsame]
    simp only [Except.ok.injEq, exists_eq_left', stepsTogether_same_iff hline]
    constructor
    · rintro ⟨-, hover⟩
      exact ⟨by omega, fun hraise => by omega, fun hlower => by omega⟩
    · rintro ⟨hover, -, -⟩
      have htarget := hordered.mpr hover
      exact ⟨by omega, by omega⟩
  · rw [if_neg hraise.ne', if_pos hraise]
    simp only [Except.ok.injEq, exists_eq_left',
      reserveFree_stepsTogether_iff hline (sub_pos.mpr hraise)]
    constructor
    · rintro ⟨hreach, hover⟩
      have hpickedOrdered : line.quantityPicked ≤ line.quantityOrdered := by omega
      exact ⟨hpickedOrdered, fun _ => by omega, fun hlower => by omega⟩
    · rintro ⟨hover, hreach, -⟩
      have htarget := hordered.mpr hover
      have hfree := hreach hraise
      exact ⟨by omega, by omega⟩

/-! ## A reservation that its rows do not hold -/

def openSale : SalesOrder where
  soNumber := "SO-1"
  soBarcode := none
  status := .open
  warehouseId := 1
  orderType := .sale
  parentSoId := none
  cancellationReason := none

def threeHeld : SalesOrderLine where
  soId := 1
  itemId := 1
  lineNumber := 1
  quantityOrdered := 3
  quantityAllocated := 3
  quantityPicked := 0

def threeReserved (quantityAllocated : ℤ) : Store where
  warehouses := .ofRows [⟨"W", true⟩]
  items := .ofRows [⟨"A", none, [], true, none⟩]
  bins := .ofRows [⟨1, "B", .pickable, 1, true⟩]
  inventory := .ofRows [⟨1, 1, 1, 5, quantityAllocated, none, 0⟩]
  salesOrders := .ofRows [openSale]
  salesOrderLines := .ofRows [threeHeld]

theorem adjustLineAllocation_iff_three :
    ∃ after, adjustLineAllocation (threeReserved 3) 1 1 (-2) = .ok after ∧
      StepsTogether (threeReserved 3) after 1 1 threeHeld := by
  have hsteppable : Steppable (threeReserved 3) openSale.warehouseId threeHeld (-2) :=
    ⟨by decide, by decide, fun _ => by decide +kernel⟩
  have hline : (threeReserved 3).salesOrderLines.get? 1 = some threeHeld := rfl
  have horder : (threeReserved 3).salesOrders.get? 1 = some openSale := rfl
  exact (adjustLineAllocation_iff hline rfl horder).mpr hsteppable

/-- The line gives up two units, and the row that had one reserved gives back one. -/
theorem adjustLineAllocation_one :
    ¬ ∀ (store : Store) (soId soLineId : ℕ) (line : SalesOrderLine) (order : SalesOrder)
      (delta : ℤ) (after : Store), store.salesOrderLines.get? soLineId = some line →
      line.soId = soId → store.salesOrders.get? soId = some order →
      adjustLineAllocation store soId soLineId delta = .ok after →
      StepsTogether store after soLineId order.warehouseId line := by
  intro hclaim
  have hvalues : (adjustLineAllocation (threeReserved 1) 1 1 (-2)).toOption.map
      (fun after => ((after.salesOrderLines.get? 1).map SalesOrderLine.quantityAllocated,
        after.warehouseAllocated 1 1)) = some (some 1, 0) := by decide +kernel
  cases hafter : adjustLineAllocation (threeReserved 1) 1 1 (-2) with
  | error error =>
      rw [hafter] at hvalues
      cases hvalues
  | ok after =>
      rw [hafter] at hvalues
      obtain ⟨hline, hallocated⟩ := Prod.mk.inj (Option.some.inj hvalues)
      obtain ⟨line', hline', hmove, -, -⟩ :=
        (hclaim (threeReserved 1) 1 1 threeHeld openSale (-2) after rfl rfl rfl hafter).line
      rw [hline', Option.map_some, Option.some.injEq] at hline
      have hbefore : (threeReserved 1).warehouseAllocated 1 1 = 1 := by decide +kernel
      have hmoved : line'.quantityAllocated - 3 =
          after.warehouseAllocated 1 1 - (threeReserved 1).warehouseAllocated 1 1 := hmove
      omega

end SentryWms
