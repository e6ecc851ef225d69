import SentryWms.Store.Inventory

/-!
# What the walks do to the totals of a warehouse

A walk draws on rows of one item in one warehouse, so it moves the reserved total
of that item there and no other.
-/

namespace SentryWms

open Relational

/-- The row update keeps the item and the warehouse and moves the reserved
quantity by a multiple of the take. -/
structure Shifts (change : ℤ → Inventory → Inventory) (slope : ℤ) : Prop where
  itemId : ∀ quantity row, (change quantity row).itemId = row.itemId
  warehouseId : ∀ quantity row, (change quantity row).warehouseId = row.warehouseId
  quantityAllocated : ∀ quantity row, (change quantity row).quantityAllocated =
    row.quantityAllocated + slope * quantity

variable {store : Store}

variable {itemId warehouseId : ℕ}

theorem inWarehouse_iff {row : Inventory} :
    row.inWarehouse itemId warehouseId = true ↔
      row.itemId = itemId ∧ row.warehouseId = warehouseId := by
  simp [Inventory.inWarehouse]

theorem inBin_iff {binId : ℕ} {row : Inventory} :
    row.inBin itemId binId = true ↔ row.itemId = itemId ∧ row.binId = binId := by
  simp [Inventory.inBin]

variable {cond : Inventory → Bool}

theorem stock_updateBin {change : Inventory → Inventory}
    (hcond : ∀ row, cond (change row) = cond row) (itemId binId : ℕ) (value : Inventory → ℤ) :
    (store.updateBin itemId binId change).stock cond value =
      store.stock cond fun row =>
        if row.inBin itemId binId then value (change row) else value row := by
  rw [Store.stock, Store.updateBin, Table.updateWhere, Table.total_mapRows, Store.stock]
  apply Table.total_congr
  intro key row _
  split
  · rw [hcond]
  · rfl

theorem stock_sub (store : Store) (cond : Inventory → Bool) (left right : Inventory → ℤ) :
    (store.stock cond fun row => left row - right row) =
      store.stock cond left - store.stock cond right := by
  rw [Store.stock, Store.stock, Store.stock, ← Table.total_sub]
  apply Table.total_congr
  intro key row _
  split
  · rfl
  · rw [sub_zero]

theorem mul_stock (store : Store) (cond : Inventory → Bool) (factor : ℤ)
    (value : Inventory → ℤ) :
    factor * store.stock cond value = store.stock cond fun row => factor * value row := by
  rw [Store.stock, Store.stock, Table.mul_total]
  apply Table.total_congr
  intro key row _
  rw [mul_ite, mul_zero]

theorem stock_applyTakes {change : ℤ → Inventory → Inventory} {value : Inventory → ℤ}
    {slope : ℤ} (hitem : ∀ quantity row, (change quantity row).itemId = row.itemId)
    (hwarehouse : ∀ quantity row, (change quantity row).warehouseId = row.warehouseId)
    (hvalue : ∀ quantity row, value (change quantity row) = value row + slope * quantity)
    {draws : List (ℕ × ℤ)}
    (hdraws : ∀ draw ∈ draws, ∃ row, (draw.1, row) ∈ store.inventory.entries ∧ row.inWarehouse itemId warehouseId = true)
    (itemId' warehouseId' : ℕ) :
    Store.stock { store with inventory := store.inventory.applyTakes change draws }
        (Inventory.inWarehouse itemId' warehouseId') value =
      store.stock (Inventory.inWarehouse itemId' warehouseId') value +
        if itemId' = itemId ∧ warehouseId' = warehouseId then slope * supply draws
        else 0 := by
  have hkeeps : ∀ itemId warehouseId quantity (row : Inventory),
      (change quantity row).inWarehouse itemId warehouseId =
        row.inWarehouse itemId warehouseId := by
    intro itemId warehouseId quantity row
    simp [Inventory.inWarehouse, hitem, hwarehouse]
  unfold Store.stock
  dsimp only
  by_cases hsame : itemId' = itemId ∧ warehouseId' = warehouseId
  · obtain ⟨rfl, rfl⟩ := hsame
    rw [if_pos ⟨rfl, rfl⟩]
    apply Table.total_applyTakes store.inventory change
      (fun row => row.inWarehouse itemId' warehouseId' = true) slope
    · intro quantity row hgood
      rw [hkeeps, hgood]
    · intro quantity key row hgood
      rw [hkeeps, hgood, if_pos rfl, if_pos rfl, hvalue]
    · exact hdraws
  · rw [if_neg hsame]
    rw [Table.total_applyTakes store.inventory change
      (fun row => row.inWarehouse itemId warehouseId = true) 0]
    · simp
    · intro quantity row hgood
      rw [hkeeps, hgood]
    · intro quantity key row hgood
      have hother : row.inWarehouse itemId' warehouseId' = false := by
        obtain ⟨hitem, hwarehouse⟩ := inWarehouse_iff.mp hgood
        rw [Bool.eq_false_iff]
        intro hin
        obtain ⟨hitem', hwarehouse'⟩ := inWarehouse_iff.mp hin
        exact hsame ⟨hitem'.symm.trans hitem, hwarehouse'.symm.trans hwarehouse⟩
      rw [hkeeps, hother]
      simp
    · exact hdraws

theorem warehouseAllocated_applyTakes {change : ℤ → Inventory → Inventory} {slope : ℤ}
    (hshifts : Shifts change slope) {draws : List (ℕ × ℤ)}
    (hdraws : ∀ draw ∈ draws, ∃ row, (draw.1, row) ∈ store.inventory.entries ∧ row.inWarehouse itemId warehouseId = true)
    (itemId' warehouseId' : ℕ) :
    Store.warehouseAllocated
        { store with inventory := store.inventory.applyTakes change draws }
        itemId' warehouseId' =
      store.warehouseAllocated itemId' warehouseId' +
        if itemId' = itemId ∧ warehouseId' = warehouseId then slope * supply draws
        else 0 :=
  stock_applyTakes hshifts.itemId hshifts.warehouseId hshifts.quantityAllocated hdraws
    itemId' warehouseId'

theorem takes_select_inWarehouse {demand : ℤ} (measure : Inventory → ℤ)
    (hcond : ∀ row, cond row = true → row.inWarehouse itemId warehouseId = true) {draw : ℕ × ℤ}
    (hdraw : draw ∈ takes demand ((store.inventory.select cond).map fun entry => (entry.1, measure entry.2))) :
    ∃ row, (draw.1, row) ∈ store.inventory.entries ∧
      row.inWarehouse itemId warehouseId = true := by
  obtain ⟨available, hsource⟩ := Walk.source_of_mem_takes hdraw
  obtain ⟨entry, hentry, heq⟩ := List.mem_map.mp hsource
  obtain ⟨hmem, hsatisfied⟩ := (Table.mem_select _).mp hentry
  obtain ⟨hkey, -⟩ := Prod.mk.inj heq
  exact ⟨entry.2, hkey ▸ hmem, hcond entry.2 hsatisfied⟩

theorem addInventory_warehouseAllocated (store : Store)
    (itemId binId warehouseId : ℕ) (quantity : ℤ) (lotNumber : Option String)
    (itemId' warehouseId' : ℕ) :
    (addInventory store itemId binId warehouseId quantity
        lotNumber).1.warehouseAllocated itemId' warehouseId' =
      store.warehouseAllocated itemId' warehouseId' := by
  unfold addInventory
  split
  next inventoryId existing hfind =>
    unfold Store.warehouseAllocated Store.stock
    dsimp only
    unfold Table.modify
    rw [Table.total_mapRows]
    apply Table.total_congr
    intro key row _
    split <;> rfl
  next hfind =>
    unfold Store.warehouseAllocated Store.stock
    dsimp only
    rw [Table.total_insert]
    simp

/-- The row that added stock goes to: the one of the place, or a new one. -/
def Store.rowAt (store : Store) (itemId binId warehouseId : ℕ)
    (lotNumber : Option String) : Inventory :=
  match store.findLot itemId binId lotNumber with
  | some entry => entry.2
  | none =>
      { itemId, binId, warehouseId, quantityOnHand := 0, quantityAllocated := 0, lotNumber,
        updatedAt := store.now }

theorem rowAt_itemId (store : Store) (itemId binId warehouseId : ℕ)
    (lotNumber : Option String) :
    (store.rowAt itemId binId warehouseId lotNumber).itemId = itemId := by
  rw [Store.rowAt]
  split
  next entry hfind =>
    have hfound := List.find?_some hfind
    exact (inBin_iff.mp (Bool.and_eq_true_iff.mp hfound).1).1
  next => rfl

theorem addInventory_stock (store : Store) (itemId binId warehouseId : ℕ) (quantity : ℤ)
    (lotNumber : Option String)
    (hcond : ∀ (row : Inventory) (quantity : ℤ) (updatedAt : ℕ), cond { row with quantityOnHand := quantity, updatedAt } = cond row) :
    (addInventory store itemId binId warehouseId quantity lotNumber).1.stock cond
        Inventory.quantityOnHand =
      store.stock cond Inventory.quantityOnHand +
        if cond (store.rowAt itemId binId warehouseId lotNumber) then quantity else 0 := by
  rw [addInventory, Store.rowAt]
  cases hfind : store.findLot itemId binId lotNumber with
  | none =>
      unfold Store.stock
      dsimp only
      rw [Table.total_insert]
      have hnew := hcond
        { itemId, binId, warehouseId, quantityOnHand := quantity, quantityAllocated := 0,
          lotNumber, updatedAt := store.now } 0 store.now
      rw [← hnew]
  | some entry =>
      obtain ⟨inventoryId, row⟩ := entry
      have hrow : (inventoryId, row) ∈ store.inventory.entries :=
        List.mem_of_find?_eq_some hfind
      unfold Store.stock
      dsimp only
      rw [Table.total_modify _ hrow, hcond]
      split <;> simp

def Store.onHand (store : Store) (itemId : ℕ) : ℤ :=
  store.stock (fun row => row.itemId == itemId) Inventory.quantityOnHand

theorem addInventory_onHand (store : Store) (itemId binId warehouseId : ℕ) (quantity : ℤ)
    (lotNumber : Option String) (itemId' : ℕ) :
    (addInventory store itemId binId warehouseId quantity lotNumber).1.onHand itemId' =
      store.onHand itemId' + if itemId = itemId' then quantity else 0 := by
  rw [Store.onHand, addInventory_stock]
  · simp only [rowAt_itemId, beq_iff_eq]
    rfl
  · intro row quantity updatedAt
    rfl

end SentryWms
