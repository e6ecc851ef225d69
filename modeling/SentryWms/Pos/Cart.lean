import SentryWms.Store.Inventory

/-!
# Carts of the point of sale

The lines of a cart name an item, a warehouse and a bin by their codes. The
pre-flight check resolves them and compares each quantity with what all rows of
the location have available together.
-/

namespace SentryWms

open Relational

/-! ## Lines -/

/-- A line of a cart; `warehouse_id` and `bin_id` are codes on the wire. -/
structure CartLine where
  sku : String
  warehouseCode : String
  binCode : String
  quantity : ℤ
  quantityMin : 1 ≤ quantity
  quantityMax : quantity ≤ 10000

structure Cart where
  lines : List CartLine
  linesMin : 1 ≤ lines.length
  linesMax : lines.length ≤ 200

/-- A row of the bulk query: a line with what its codes resolve to. -/
structure ResolvedLine where
  idx : ℕ
  line : CartLine
  item : Option (ℕ × Item)
  warehouseId : Option ℕ
  binId : Option ℕ

def Store.itemBySku (store : Store) (sku : String) : Option (ℕ × Item) :=
  store.items.entries.find? fun entry => entry.2.sku == sku

def Store.warehouseByCode (store : Store) (code : String) : Option ℕ :=
  (store.warehouses.entries.find? fun entry => entry.2.warehouseCode == code).map
    Prod.fst

def Store.binByCode (store : Store) (warehouseId : ℕ) (code : String) : Option ℕ :=
  (store.bins.entries.find? fun entry =>
    entry.2.binCode == code && entry.2.warehouseId == warehouseId).map Prod.fst

def resolveLine (store : Store) (idx : ℕ) (line : CartLine) : ResolvedLine where
  idx := idx
  line := line
  item := store.itemBySku line.sku
  warehouseId := store.warehouseByCode line.warehouseCode
  binId := (store.warehouseByCode line.warehouseCode).bind fun warehouseId =>
    store.binByCode warehouseId line.binCode

def resolveLines (store : Store) (cart : Cart) : List ResolvedLine :=
  cart.lines.zipIdx.map fun entry => resolveLine store entry.2 entry.1

/-! ## Availability -/

/-- Where a line takes its stock from. -/
structure Location where
  itemId : ℕ
  warehouseId : ℕ
  binId : ℕ
deriving DecidableEq

/-- The row condition `item_id = … AND warehouse_id = … AND bin_id = …`. -/
def Inventory.atLocation (location : Location) (row : Inventory) : Bool :=
  row.itemId == location.itemId && row.warehouseId == location.warehouseId &&
    row.binId == location.binId

/-- `SUM(quantity_on_hand - quantity_allocated)` over the rows of a location. -/
def Store.availableAt (store : Store) (location : Location) : ℤ :=
  store.stock (Inventory.atLocation location) Inventory.available

def ResolvedLine.location (row : ResolvedLine) : Option Location :=
  match row.item, row.warehouseId, row.binId with
  | some (itemId, _), some warehouseId, some binId =>
      some { itemId, warehouseId, binId }
  | _, _, _ => none

/-- The `available` column of the bulk query. -/
def ResolvedLine.available (store : Store) (row : ResolvedLine) : ℤ :=
  match row.location with
  | some location => store.availableAt location
  | none => 0

/-! ## The pre-flight check -/

/-- Why a line conflicts. -/
inductive ConflictReason where
  | skuNotFound
  | itemInactive
  | warehouseNotFound
  | warehouseNotInScope
  | binNotFound
  | insufficientStock

/-- `_classify_line`: the first reason that applies, with the quantity available
where stock is short. -/
def classifyLine (store : Store) (tokenWarehouseIds : List ℕ) (row : ResolvedLine) :
    Option (ConflictReason × Option ℤ) :=
  match row.item with
  | none => some (.skuNotFound, none)
  | some (_, item) =>
      if ¬ item.isActive then some (.itemInactive, none)
      else
        match row.warehouseId with
        | none => some (.warehouseNotFound, none)
        | some warehouseId =>
            if warehouseId ∉ tokenWarehouseIds then some (.warehouseNotInScope, none)
            else
              match row.binId with
              | none => some (.binNotFound, none)
              | some _ =>
                  if row.available store < row.line.quantity then
                    some (.insufficientStock, some (row.available store))
                  else none

/-- An entry of `conflicts`. -/
structure CartConflict where
  lineIndex : ℕ
  sku : String
  warehouseCode : String
  binCode : String
  requestedQty : ℤ
  reason : ConflictReason
  availableQty : Option ℤ

/-- `validate_cart`, with its conflicts; the cart is valid when there are none. -/
def validateCart (store : Store) (tokenWarehouseIds : List ℕ) (cart : Cart) :
    List CartConflict :=
  (resolveLines store cart).filterMap fun row =>
    (classifyLine store tokenWarehouseIds row).map fun conflict =>
      { lineIndex := row.idx, sku := row.line.sku,
        warehouseCode := row.line.warehouseCode, binCode := row.line.binCode,
        requestedQty := row.line.quantity, reason := conflict.1,
        availableQty := conflict.2 }

/-- A line whose codes all resolve, to an active item in a warehouse in scope. -/
structure ResolvedLine.Located (tokenWarehouseIds : List ℕ) (row : ResolvedLine)
    (location : Location) : Prop where
  resolves : row.location = some location
  active : ∀ entry, row.item = some entry → entry.2.isActive = true
  scope : location.warehouseId ∈ tokenWarehouseIds

theorem ResolvedLine.location_eq_some {row : ResolvedLine} {location : Location} :
    row.location = some location ↔
      ∃ item, row.item = some (location.itemId, item) ∧
        row.warehouseId = some location.warehouseId ∧
        row.binId = some location.binId := by
  constructor
  · intro hlocation
    rw [ResolvedLine.location] at hlocation
    split at hlocation
    next itemId item warehouseId binId hitem hwarehouse hbin =>
      cases hlocation
      exact ⟨item, hitem, hwarehouse, hbin⟩
    · cases hlocation
  · rintro ⟨item, hitem, hwarehouse, hbin⟩
    simp [ResolvedLine.location, hitem, hwarehouse, hbin]

theorem classifyLine_eq_none {store : Store} {tokenWarehouseIds : List ℕ}
    {row : ResolvedLine}
    (hnone : classifyLine store tokenWarehouseIds row = none) :
    ∃ location, row.Located tokenWarehouseIds location ∧
      row.line.quantity ≤ store.availableAt location := by
  rw [classifyLine] at hnone
  split at hnone
  · cases hnone
  next itemId item hitem =>
    split at hnone
    · cases hnone
    next hactive =>
      split at hnone
      · cases hnone
      next warehouseId hwarehouse =>
        split at hnone
        · cases hnone
        next hscope =>
          split at hnone
          · cases hnone
          next binId hbin =>
            split at hnone
            · cases hnone
            next havailable =>
              have hlocation : row.location = some ⟨itemId, warehouseId, binId⟩ :=
                ResolvedLine.location_eq_some.mpr ⟨item, hitem, hwarehouse, hbin⟩
              rw [ResolvedLine.available, hlocation] at havailable
              refine ⟨_, ⟨hlocation, ?_, not_not.mp hscope⟩, not_lt.mp havailable⟩
              intro entry hentry
              rw [hitem] at hentry
              cases hentry
              exact not_not.mp hactive

theorem validateCart_eq_nil {store : Store} {tokenWarehouseIds : List ℕ} {cart : Cart} :
    validateCart store tokenWarehouseIds cart = [] ↔
      ∀ row ∈ resolveLines store cart,
        classifyLine store tokenWarehouseIds row = none := by
  simp [validateCart, List.filterMap_eq_nil_iff]

end SentryWms
