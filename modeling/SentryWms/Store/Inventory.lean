import SentryWms.Core.Walk
import SentryWms.Store.Schema

/-!
# Inventory rows

The shared stock operations of `inventory_service.py`, and the totals in which
the properties of the services are stated: what a bin holds of an item, and what
a warehouse has reserved of it.
-/

namespace SentryWms

open Relational

/-! ## Rows of a bin -/

/-- The row condition `item_id = :iid AND bin_id = :bid`. -/
def Inventory.inBin (itemId binId : ℕ) (row : Inventory) : Bool :=
  row.itemId == itemId && row.binId == binId

/-- The row condition `item_id = :iid AND warehouse_id = :wh`. -/
def Inventory.inWarehouse (itemId warehouseId : ℕ) (row : Inventory) : Bool :=
  row.itemId == itemId && row.warehouseId == warehouseId

/-- `quantity_on_hand - quantity_allocated`. -/
def Inventory.available (row : Inventory) : ℤ :=
  row.quantityOnHand - row.quantityAllocated

/-- The row of an item in a bin under a lot, lots compared with
`IS NOT DISTINCT FROM`. -/
def Store.findLot (store : Store) (itemId binId : ℕ) (lotNumber : Option String) :
    Option (ℕ × Inventory) :=
  store.inventory.entries.find? fun entry =>
    entry.2.inBin itemId binId && entry.2.lotNumber == lotNumber

/-! ## Stock operations -/

/-- `add_inventory`, with the new quantity of the row. -/
def addInventory (store : Store) (itemId binId warehouseId : ℕ) (quantity : ℤ)
    (lotNumber : Option String) : Store × ℤ :=
  match store.findLot itemId binId lotNumber with
  | some (inventoryId, existing) =>
      ({ store with
          inventory := store.inventory.modify inventoryId fun row =>
            { row with
              quantityOnHand := row.quantityOnHand + quantity
              updatedAt := store.now } },
        existing.quantityOnHand + quantity)
  | none =>
      ({ store with
          inventory := store.inventory.insert
            { itemId, binId, warehouseId, quantityOnHand := quantity,
              quantityAllocated := 0, lotNumber, updatedAt := store.now } },
        quantity)

theorem addInventory_spec (store : Store) (itemId binId warehouseId : ℕ)
    (quantity : ℤ) (lotNumber : Option String) :
    ∃ inventory, (addInventory store itemId binId warehouseId quantity lotNumber).1 =
      { store with inventory } := by
  rw [addInventory]
  split
  · exact ⟨_, rfl⟩
  · exact ⟨_, rfl⟩

def setInventoryQuantity (store : Store) (inventoryId : ℕ) (quantity : ℤ) : Store :=
  { store with
    inventory := store.inventory.modify inventoryId fun row =>
      { row with quantityOnHand := quantity, updatedAt := store.now } }

/-- `Insufficient inventory in source bin`, with what the source holds. -/
structure InsufficientInventory where
  available : ℤ

/-- `move_inventory`, with the new quantities of the source and the destination. -/
def moveInventory (store : Store) (itemId fromBinId toBinId warehouseId : ℕ)
    (quantity : ℤ) (lotNumber : Option String) :
    Except InsufficientInventory (Store × ℤ × ℤ) :=
  match store.findLot itemId fromBinId lotNumber with
  | none => .error ⟨0⟩
  | some (inventoryId, source) =>
      if source.quantityOnHand < quantity then .error ⟨source.quantityOnHand⟩
      else
        let newSourceQty := source.quantityOnHand - quantity
        let added := addInventory
          (setInventoryQuantity store inventoryId newSourceQty)
          itemId toBinId warehouseId quantity lotNumber
        .ok (added.1, newSourceQty, added.2)

/-- `UPDATE inventory ... WHERE item_id = :iid AND bin_id = :bid`: every lot row of
the bin is updated. -/
def Store.updateBin (store : Store) (itemId binId : ℕ)
    (change : Inventory → Inventory) : Store :=
  { store with
    inventory := store.inventory.updateWhere (Inventory.inBin itemId binId) change }

/-! ## Totals -/

/-- The sum of a quantity over the rows that satisfy a condition. -/
def Store.stock (store : Store) (cond : Inventory → Bool) (value : Inventory → ℤ) :
    ℤ :=
  store.inventory.total fun _ row => if cond row then value row else 0

def Store.binOnHand (store : Store) (itemId binId : ℕ) : ℤ :=
  store.stock (Inventory.inBin itemId binId) Inventory.quantityOnHand

def Store.warehouseOnHand (store : Store) (itemId warehouseId : ℕ) : ℤ :=
  store.stock (Inventory.inWarehouse itemId warehouseId) Inventory.quantityOnHand

def Store.warehouseAllocated (store : Store) (itemId warehouseId : ℕ) : ℤ :=
  store.stock (Inventory.inWarehouse itemId warehouseId) Inventory.quantityAllocated

end SentryWms
