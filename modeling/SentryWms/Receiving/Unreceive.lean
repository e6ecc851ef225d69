import SentryWms.Receiving.Cancel
import SentryWms.Store.Stock

/-!
# Giving units back

`record_unreceive` first asks whether the warehouse has the units of a receipt available,
over all its rows, and then walks one row of the original bin and the rows of the other
bins. What other lots hold in the original bin counts for the question and not for the
walk.
-/

namespace SentryWms

open Relational Walk

/-! ## The property -/

/-- The row is not drawn below what is reserved of it, and keeps what else it says. -/
def Inventory.DrawnDown (row row' : Inventory) : Prop :=
  row'.itemId = row.itemId ∧ row'.binId = row.binId ∧ row'.warehouseId = row.warehouseId ∧
    row'.quantityAllocated = row.quantityAllocated ∧
    row'.quantityOnHand ≤ row.quantityOnHand ∧
    (row'.quantityOnHand = row.quantityOnHand ∨ row.quantityAllocated ≤ row'.quantityOnHand)

/-- A receipt is taken back exactly when the pool holds its quantity, and then the
warehouse gives up that quantity without touching what is reserved. -/
structure UnreceivesFromPool (choice : Option ℕ) (store : Store) (receiptId : ℕ)
    (receipt : ItemReceipt) : Prop where
  succeeds : (∃ after status, recordUnreceive choice store receiptId = .ok (after, status)) ↔
    receipt.quantityReceived ≤ store.warehousePool receipt.itemId receipt.warehouseId
  gives : ∀ after status, recordUnreceive choice store receiptId = .ok (after, status) →
    after.warehouseOnHand receipt.itemId receipt.warehouseId =
        store.warehouseOnHand receipt.itemId receipt.warehouseId - receipt.quantityReceived ∧
      Table.Persists Inventory.DrawnDown store.inventory after.inventory

def Store.otherPool (store : Store) (receipt : ItemReceipt) : ℤ :=
  store.stock (fun row => row.inWarehouse receipt.itemId receipt.warehouseId &&
    row.binId != receipt.binId) Inventory.spare

def Store.originalRows (store : Store) (receipt : ItemReceipt) : List (ℕ × Inventory) :=
  store.inventory.select
    (Inventory.inBinOf receipt.itemId receipt.binId receipt.warehouseId)

/-- The other bins hold the quantity, together with any one row of the original bin. -/
def Store.WalkReaches (store : Store) (receipt : ItemReceipt) : Prop :=
  if store.originalRows receipt = [] then
    receipt.quantityReceived ≤ store.otherPool receipt
  else ∀ entry ∈ store.originalRows receipt,
    receipt.quantityReceived ≤ entry.2.spare + store.otherPool receipt

section Unreceive

variable {choice : Option ℕ} {store after : Store} {receiptId : ℕ} {receipt : ItemReceipt}

/-! ## The sources of the walk -/

theorem spare_nonneg (row : Inventory) : 0 ≤ row.spare :=
  le_max_left 0 row.available

theorem spare_le_available {row : Inventory} (hspare : 0 < row.spare) :
    row.spare = row.available := by
  rw [Inventory.spare] at hspare ⊢
  omega

def Store.walkRows (choice : Option ℕ) (store : Store) (receipt : ItemReceipt) :
    List (ℕ × Inventory) :=
  (store.originalRow choice receipt).toList ++ store.otherRows receipt

/-- What the original bin gives. -/
def Store.originalSpare (choice : Option ℕ) (store : Store) (receipt : ItemReceipt) : ℤ :=
  match limitOne choice (store.originalRows receipt) with
  | none => 0
  | some entry => entry.2.spare

variable {entry : ℕ × Inventory}

theorem mem_originalRow (hentry : store.originalRow choice receipt = some entry) :
    entry ∈ store.inventory.entries ∧
      entry.2.inBinOf receipt.itemId receipt.binId receipt.warehouseId = true ∧
      0 < entry.2.spare := by
  obtain ⟨hlimit, hspare⟩ := Option.filter_eq_some_iff.mp hentry
  obtain ⟨hmem, hbin⟩ := store.inventory.mem_select.mp (mem_of_limitOne hlimit)
  exact ⟨hmem, hbin, of_decide_eq_true hspare⟩

theorem inBinOf_iff {itemId binId warehouseId : ℕ} {row : Inventory} :
    row.inBinOf itemId binId warehouseId = true ↔
      row.inWarehouse itemId warehouseId = true ∧ row.binId = binId := by
  simp only [Inventory.inBinOf, Bool.and_eq_true, inBin_iff, inWarehouse_iff, beq_iff_eq]
  tauto

theorem mem_otherRows :
    entry ∈ store.otherRows receipt ↔
      entry ∈ store.inventory.entries ∧
        entry.2.inWarehouse receipt.itemId receipt.warehouseId = true ∧
        entry.2.binId ≠ receipt.binId ∧ 0 < entry.2.available := by
  rw [Store.otherRows, mem_orderBy, Table.mem_select]
  simp only [Bool.and_eq_true, bne_iff_ne, decide_eq_true_eq, and_assoc]

theorem mem_walkRows (hentry : entry ∈ store.walkRows choice receipt) :
    entry ∈ store.inventory.entries ∧
      entry.2.inWarehouse receipt.itemId receipt.warehouseId = true ∧
      0 < entry.2.spare := by
  rcases List.mem_append.mp hentry with horiginal | hother
  · obtain ⟨hmem, hbin, hspare⟩ := mem_originalRow (Option.mem_toList.mp horiginal)
    exact ⟨hmem, (inBinOf_iff.mp hbin).1, hspare⟩
  · obtain ⟨hmem, hwarehouse, -, havailable⟩ := mem_otherRows.mp hother
    refine ⟨hmem, hwarehouse, ?_⟩
    rw [Inventory.spare]
    omega

theorem walkRows_nodup : ((store.walkRows choice receipt).map Prod.fst).Nodup := by
  rw [Store.walkRows, List.map_append, List.nodup_append]
  refine ⟨?_, ?_, ?_⟩
  · cases store.originalRow choice receipt <;> simp
  · have hperm := (orderBy_perm (fun entry : ℕ × Inventory =>
      toLex (-entry.2.available, entry.2.binId)) (store.inventory.select fun row =>
        row.inWarehouse receipt.itemId receipt.warehouseId &&
          row.binId != receipt.binId && decide (0 < row.available))).map Prod.fst
    exact hperm.nodup_iff.mpr (store.inventory.select_nodup _)
  · rintro key hkey key' hkey' rfl
    obtain ⟨entry, hentry, rfl⟩ := List.mem_map.mp hkey
    obtain ⟨entry', hentry', hsame⟩ := List.mem_map.mp hkey'
    obtain ⟨hmem, hbin, -⟩ := mem_originalRow (Option.mem_toList.mp hentry)
    obtain ⟨hmem', -, hother, -⟩ := mem_otherRows.mp hentry'
    obtain ⟨key, row⟩ := entry
    obtain ⟨key', row'⟩ := entry'
    obtain rfl : key' = key := hsame
    rw [store.inventory.row_unique hmem' hmem] at hother
    exact hother (inBinOf_iff.mp hbin).2

theorem sources_nonneg :
    ∀ source ∈ store.unreceiveSources choice receipt, 0 ≤ source.2 := by
  intro source hsource
  obtain ⟨entry, -, rfl⟩ := List.mem_map.mp hsource
  exact spare_nonneg entry.2

theorem supply_otherRows :
    supply ((store.otherRows receipt).map fun entry => (entry.1, entry.2.spare)) =
      store.otherPool receipt := by
  have hperm := (orderBy_perm (fun entry : ℕ × Inventory =>
    toLex (-entry.2.available, entry.2.binId)) (store.inventory.select fun row =>
      row.inWarehouse receipt.itemId receipt.warehouseId &&
        row.binId != receipt.binId && decide (0 < row.available))).map
          fun entry => (entry.1, entry.2.spare)
  rw [supply, Store.otherRows, (hperm.map Prod.snd).sum_eq, ← supply, Table.supply_select,
    Store.otherPool, Store.stock]
  apply Table.total_congr
  intro key row _
  by_cases havailable : 0 < row.available
  · simp [havailable]
  · have hzero : row.spare = 0 := max_eq_left (not_lt.mp havailable)
    simp [hzero]

theorem supply_unreceiveSources :
    supply (store.unreceiveSources choice receipt) =
      store.originalSpare choice receipt + store.otherPool receipt := by
  rw [Store.unreceiveSources, List.map_append, supply_append, supply_otherRows]
  congr 1
  rw [Store.originalRow, Store.originalSpare, Store.originalRows]
  cases limitOne choice (store.inventory.select
      (Inventory.inBinOf receipt.itemId receipt.binId receipt.warehouseId)) with
  | none => rfl
  | some entry =>
      by_cases hspare : 0 < entry.2.spare
      · simp [Option.filter, hspare]
      · have hzero : entry.2.spare = 0 := le_antisymm (not_lt.mp hspare) (spare_nonneg _)
        simp [Option.filter, hzero]

/-! ## When a receipt is taken back -/

/-- The inventory after the walk. -/
def Store.unstocked (choice : Option ℕ) (store : Store) (receipt : ItemReceipt) :
    Table Inventory :=
  store.inventory.applyTakes (unstockUnits store.now)
    (takes receipt.quantityReceived (store.unreceiveSources choice receipt))

theorem recordUnreceive_iff {poId poLineId : ℕ}
    (hreceipt : store.itemReceipts.get? receiptId = some receipt)
    (hsource : receipt.source = .purchaseOrder poId poLineId)
    (hquantity : 0 ≤ receipt.quantityReceived) :
    (∃ after status, recordUnreceive choice store receiptId = .ok (after, status)) ↔
      receipt.quantityReceived ≤ store.warehousePool receipt.itemId receipt.warehouseId ∧
        receipt.quantityReceived ≤
          store.originalSpare choice receipt + store.otherPool receipt := by
  have hsupply : supply (takes receipt.quantityReceived
      (store.unreceiveSources choice receipt)) =
      min receipt.quantityReceived
        (store.originalSpare choice receipt + store.otherPool receipt) := by
    rw [supply_takes hquantity sources_nonneg, supply_unreceiveSources]
  rw [recordUnreceive, hreceipt]
  simp only [hsource]
  constructor
  · rintro ⟨after, status, hok⟩
    split at hok
    · cases hok
    next hpool =>
      split at hok
      · cases hok
      next hwalk =>
        exact ⟨not_lt.mp hpool, by omega⟩
  · rintro ⟨hpool, hreach⟩
    rw [if_neg (not_lt.mpr hpool), if_neg (by omega)]
    exact ⟨_, _, rfl⟩

/-- An accepted call leaves the stock that its walk leaves. -/
theorem recordUnreceive_inventory {status : PoStatus}
    (hreceipt : store.itemReceipts.get? receiptId = some receipt)
    (hunreceive : recordUnreceive choice store receiptId = .ok (after, status)) :
    after.inventory = store.unstocked choice receipt ∧
      receipt.quantityReceived ≤
        supply (takes receipt.quantityReceived (store.unreceiveSources choice receipt)) := by
  rw [recordUnreceive, hreceipt] at hunreceive
  dsimp only at hunreceive
  split at hunreceive
  · cases hunreceive
  split at hunreceive
  · cases hunreceive
  split at hunreceive
  · cases hunreceive
  next hwalk =>
    cases hunreceive
    exact ⟨rfl, by omega⟩

theorem unstocked_warehouseOnHand (hquantity : 0 ≤ receipt.quantityReceived)
    (hwalk : receipt.quantityReceived ≤
      supply (takes receipt.quantityReceived (store.unreceiveSources choice receipt)))
    (hinventory : after.inventory = store.unstocked choice receipt) :
    after.warehouseOnHand receipt.itemId receipt.warehouseId =
      store.warehouseOnHand receipt.itemId receipt.warehouseId -
        receipt.quantityReceived := by
  have hdraws : ∀ draw ∈ takes receipt.quantityReceived
      (store.unreceiveSources choice receipt), ∃ row,
        (draw.1, row) ∈ store.inventory.entries ∧
          row.inWarehouse receipt.itemId receipt.warehouseId = true := by
    intro draw hdraw
    obtain ⟨available, hsource⟩ := source_of_mem_takes hdraw
    obtain ⟨entry, hentry, hsame⟩ := List.mem_map.mp hsource
    obtain ⟨hmem, hwarehouse, -⟩ := mem_walkRows hentry
    rw [← (Prod.mk.inj hsame).1]
    exact ⟨entry.2, hmem, hwarehouse⟩
  have hle := supply_takes_le hquantity (store.unreceiveSources choice receipt)
  have hitem : ∀ (quantity : ℤ) (row : Inventory),
      (unstockUnits store.now quantity row).itemId = row.itemId := fun _ _ => rfl
  have hwarehouse : ∀ (quantity : ℤ) (row : Inventory),
      (unstockUnits store.now quantity row).warehouseId = row.warehouseId :=
    fun _ _ => rfl
  have hvalue : ∀ (quantity : ℤ) (row : Inventory),
      (unstockUnits store.now quantity row).quantityOnHand =
        row.quantityOnHand + -1 * quantity := by
    intro quantity row
    rw [unstockUnits, neg_one_mul]
    rfl
  have hstock : Store.warehouseOnHand
      { store with inventory := store.unstocked choice receipt } receipt.itemId
        receipt.warehouseId =
      store.warehouseOnHand receipt.itemId receipt.warehouseId +
        if receipt.itemId = receipt.itemId ∧ receipt.warehouseId = receipt.warehouseId then
          -1 * supply (takes receipt.quantityReceived
            (store.unreceiveSources choice receipt))
        else 0 :=
    stock_applyTakes hitem hwarehouse hvalue hdraws _ _
  rw [if_pos ⟨rfl, rfl⟩] at hstock
  rw [Store.warehouseOnHand, Store.stock, hinventory]
  rw [Store.warehouseOnHand, Store.stock] at hstock
  rw [hstock]
  omega

theorem unstocked_drawnDown :
    Table.Persists Inventory.DrawnDown store.inventory
      (store.unstocked choice receipt) := by
  intro key row hrow
  have hnodup : ((takes receipt.quantityReceived
      (store.unreceiveSources choice receipt)).map Prod.fst).Nodup := by
    apply takes_keys_nodup
    rw [Store.unreceiveSources, List.map_map]
    exact walkRows_nodup
  obtain ⟨row', hrow', hchange⟩ :=
    store.inventory.exists_mem_applyTakes (unstockUnits store.now) hnodup hrow
  refine ⟨row', hrow', ?_⟩
  rcases hchange with rfl | ⟨quantity, hdraw, rfl⟩
  · exact ⟨rfl, rfl, rfl, rfl, le_refl _, .inl rfl⟩
  · -- a take is at most what the row has available
    obtain ⟨available, hsource, hnonneg, hle, -⟩ := mem_takes sources_nonneg hdraw
    obtain ⟨⟨key', before⟩, hentry, hsame⟩ := List.mem_map.mp hsource
    obtain ⟨hkey, hspare⟩ := Prod.mk.inj hsame
    obtain ⟨hmem, -, hpos⟩ := mem_walkRows hentry
    have havailable := spare_le_available hpos
    obtain rfl : key' = key := hkey
    obtain rfl := store.inventory.row_unique hmem hrow
    dsimp only at hspare havailable
    rw [Inventory.available] at havailable
    refine ⟨rfl, rfl, rfl, rfl, ?_, .inr ?_⟩
    · rw [unstockUnits]
      dsimp only
      omega
    · rw [unstockUnits]
      dsimp only
      omega

theorem walkReaches_iff :
    (∀ choice, receipt.quantityReceived ≤
      store.originalSpare choice receipt + store.otherPool receipt) ↔
      store.WalkReaches receipt := by
  rw [Store.WalkReaches]
  split
  next hempty =>
    have hspare : ∀ choice, store.originalSpare choice receipt = 0 := by
      intro choice
      rw [Store.originalSpare, limitOne_eq_none.mpr hempty]
    simp only [hspare, zero_add, forall_const]
  next hrows =>
    constructor
    · intro hreach entry hentry
      have hchosen := hreach (some entry.1)
      rw [Store.originalSpare, Store.originalRows, limitOne_select hentry] at hchosen
      exact hchosen
    · intro hreach choice
      cases hrow : limitOne choice (store.originalRows receipt) with
      | none => exact absurd (limitOne_eq_none.mp hrow) hrows
      | some entry =>
          rw [Store.originalSpare, hrow]
          exact hreach entry (mem_of_limitOne hrow)

end Unreceive

/-- Whatever row of the original bin its query answers with, `record_unreceive` succeeds
exactly when the pool holds the quantity, and gives up that quantity: this holds of a
receipt if the pool is short of it, or the walk reaches it from any row of the original
bin. -/
theorem unreceivesFromPool_iff {store : Store} {receiptId : ℕ} {receipt : ItemReceipt}
    {poId poLineId : ℕ} (hreceipt : store.itemReceipts.get? receiptId = some receipt)
    (hsource : receipt.source = .purchaseOrder poId poLineId)
    (hquantity : 0 < receipt.quantityReceived) :
    (∀ choice, UnreceivesFromPool choice store receiptId receipt) ↔
      (receipt.quantityReceived ≤
          store.warehousePool receipt.itemId receipt.warehouseId →
        store.WalkReaches receipt) := by
  have hgives : ∀ choice after status,
      recordUnreceive choice store receiptId = .ok (after, status) →
        after.warehouseOnHand receipt.itemId receipt.warehouseId =
          store.warehouseOnHand receipt.itemId receipt.warehouseId -
            receipt.quantityReceived ∧
        Table.Persists Inventory.DrawnDown store.inventory after.inventory := by
    intro choice after status hok
    obtain ⟨hinventory, hwalk⟩ := recordUnreceive_inventory hreceipt hok
    refine ⟨unstocked_warehouseOnHand hquantity.le hwalk hinventory, ?_⟩
    rw [hinventory]
    exact unstocked_drawnDown
  constructor
  · intro hclaim hpool
    apply walkReaches_iff.mp
    intro choice
    have hsuccess := (hclaim choice).succeeds.mpr hpool
    exact ((recordUnreceive_iff hreceipt hsource hquantity.le).mp hsuccess).2
  · intro hreach choice
    refine ⟨?_, hgives choice⟩
    rw [recordUnreceive_iff hreceipt hsource hquantity.le]
    constructor
    · exact And.left
    · intro hpool
      exact ⟨hpool, walkReaches_iff.mpr (hreach hpool) choice⟩

/-! ## Two lots in one bin -/

/-- A delivery of six units whose bin holds two lots of a number of units each. -/
def twoLots (units : ℤ) : Store where
  warehouses := .ofRows [⟨"W", true⟩]
  items := .ofRows [⟨"A", none, [], true, none⟩]
  bins := .ofRows [⟨1, "B", .staging, 1, true⟩]
  inventory := .ofRows [⟨1, 1, 1, units, 0, some "L1", 0⟩, ⟨1, 1, 1, units, 0, some "L2", 0⟩]
  purchaseOrders := .ofRows [⟨1, .received⟩]
  purchaseOrderLines := .ofRows [⟨1, 1, 1, 6, 6, .received⟩]
  itemReceipts := .ofRows [⟨.purchaseOrder 1 1, 1, 6, 1, 1, some "L1", "r1"⟩]

/-- One lot holds the six units. -/
theorem unreceivesFromPool_oneLot :
    UnreceivesFromPool (some 1) (twoLots 6) 1
      ⟨.purchaseOrder 1 1, 1, 6, 1, 1, some "L1", "r1"⟩ := by
  have hreach : (twoLots 6).WalkReaches
      ⟨.purchaseOrder 1 1, 1, 6, 1, 1, some "L1", "r1"⟩ := by
    unfold Store.WalkReaches
    decide +kernel
  exact (unreceivesFromPool_iff rfl rfl (by decide)).mpr (fun _ => hreach) (some 1)

/-- The pool holds ten units in two lots, and six are refused. -/
theorem unreceivesFromPool_twoLots :
    ¬ ∀ (choice : Option ℕ) (store : Store) (receiptId : ℕ) (receipt : ItemReceipt)
      (poId poLineId : ℕ), store.itemReceipts.get? receiptId = some receipt →
      receipt.source = .purchaseOrder poId poLineId → 0 < receipt.quantityReceived →
      UnreceivesFromPool choice store receiptId receipt := by
  intro hclaim
  have hpool := (hclaim none (twoLots 5) 1
    ⟨.purchaseOrder 1 1, 1, 6, 1, 1, some "L1", "r1"⟩ 1 1 rfl rfl (by decide)).succeeds.mpr
      (by decide +kernel)
  obtain ⟨after, status, hok⟩ := hpool
  have hrefused : (recordUnreceive none (twoLots 5) 1).toOption.isSome = false := by
    decide +kernel
  rw [hok] at hrefused
  cases hrefused

end SentryWms
