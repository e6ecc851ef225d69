import SentryWms.Receiving.Receive
import SentryWms.Store.Stock
import SentryWms.Store.Upstream

/-!
# Setting the stock of a bin

`inventory_update` names the quantity that a bin should hold of an item. The change is
reckoned from one row of the bin, and a raise goes to the row without a lot, so the bin
ends up with the quantity where it keeps the item in that one row.
-/

namespace SentryWms

open Relational

/-! ## The endpoint -/

/-- `source_payload`, read as strings and integers. -/
structure InventoryUpdatePayload where
  itemExternalId : String
  binCode : String
  warehouseId : ℕ
  targetQuantity : ℤ
  reasonCode : String

/-- Why an update is refused. -/
inductive InventoryUpdateError where
  | negativeTargetQuantity (targetQuantity : ℤ)
  | tokenMissingSourceSystem
  | itemNotFound (itemExternalId sourceSystem : String)
  | binNotFound (warehouseId : ℕ) (binCode : String)
deriving DecidableEq

/-- The `inventory_adjustments` row of an update, whose quantity is the
`quantity_delta` of the event. -/
structure SyncAdjustment where
  itemId : ℕ
  binId : ℕ
  warehouseId : ℕ
  quantityChange : ℤ
  reasonCode : String

def Store.binOfCode (store : Store) (warehouseId : ℕ) (binCode : String) : Option ℕ :=
  (store.bins.entries.find? fun entry =>
    entry.2.warehouseId == warehouseId && entry.2.binCode == binCode).map Prod.fst

def Store.binRows (store : Store) (itemId binId : ℕ) : List (ℕ × Inventory) :=
  store.inventory.select (Inventory.inBin itemId binId)

/-- The row that the query without `ORDER BY` answers with. -/
def Store.readRow (choice : Option ℕ) (store : Store) (itemId binId : ℕ) :
    Option (ℕ × Inventory) :=
  limitOne choice (store.binRows itemId binId)

/-- What the row holds; without a row, nothing. -/
def readQuantity (row : Option (ℕ × Inventory)) : ℤ :=
  (row.map fun entry => entry.2.quantityOnHand).getD 0

def applyChange (store : Store) (row : Option (ℕ × Inventory))
    (itemId binId warehouseId : ℕ) (quantityChange : ℤ) : Store :=
  if 0 < quantityChange then
    releaseSatisfiableBackorders
      (addInventory store itemId binId warehouseId quantityChange none).1 warehouseId itemId
  else
    match row with
    | none => store
    | some (inventoryId, source) =>
        setInventoryQuantity store inventoryId (source.quantityOnHand + quantityChange)

/-- `_inventory_update_post`, with the adjustment it records. -/
def inventoryUpdate (choice : Option ℕ) (upstream : Upstream) (sourceSystem : Option String)
    (store : Store) (payload : InventoryUpdatePayload) :
    Except InventoryUpdateError (Store × Option SyncAdjustment) :=
  if payload.targetQuantity < 0 then .error (.negativeTargetQuantity payload.targetQuantity)
  else
    match sourceSystem.filter fun sourceSystem => sourceSystem != "" with
    | none => .error .tokenMissingSourceSystem
    | some sourceSystem =>
        match upstream.itemOf store sourceSystem payload.itemExternalId with
        | none => .error (.itemNotFound payload.itemExternalId sourceSystem)
        | some itemId =>
            match store.binOfCode payload.warehouseId payload.binCode with
            | none => .error (.binNotFound payload.warehouseId payload.binCode)
            | some binId =>
                let row := store.readRow choice itemId binId
                let quantityChange := payload.targetQuantity - readQuantity row
                if quantityChange = 0 then .ok (store, none)
                else
                  .ok (applyChange store row itemId binId payload.warehouseId
                      quantityChange,
                    some
                      { itemId, binId, warehouseId := payload.warehouseId, quantityChange,
                        reasonCode := (payload.reasonCode.take 60).toString })

def quantityDelta (adjustment : Option SyncAdjustment) : ℤ :=
  (adjustment.map SyncAdjustment.quantityChange).getD 0

/-! ## The claim of the endpoint -/

/-- A resolved update: the token has a source system, and the item and the bin exist. -/
structure Resolves (upstream : Upstream) (sourceSystem : String) (store : Store)
    (payload : InventoryUpdatePayload) (itemId binId : ℕ) : Prop where
  target : 0 ≤ payload.targetQuantity
  system : sourceSystem ≠ ""
  item : upstream.itemOf store sourceSystem payload.itemExternalId = some itemId
  bin : store.binOfCode payload.warehouseId payload.binCode = some binId

/-- Whatever rows the queries answer with, the bin holds the target afterwards, the
adjustment is the change, no other bin or item is touched, and the same target again
changes nothing. -/
def SetsState (upstream : Upstream) (sourceSystem : String) (store : Store)
    (payload : InventoryUpdatePayload) (itemId binId : ℕ) : Prop :=
  ∀ choice, ∃ after adjustment,
    inventoryUpdate choice upstream (some sourceSystem) store payload =
        .ok (after, adjustment) ∧
      after.binOnHand itemId binId = payload.targetQuantity ∧
      quantityDelta adjustment =
        after.binOnHand itemId binId - store.binOnHand itemId binId ∧
      (∀ itemId' binId', itemId' ≠ itemId ∨ binId' ≠ binId →
        after.binRows itemId' binId' = store.binRows itemId' binId') ∧
      ∀ choice', inventoryUpdate choice' upstream (some sourceSystem) after payload =
        .ok (after, none)

/-- The bin keeps the item in no row, or in one that a raise goes to; or everything is
nothing. -/
def Store.Settable (store : Store) (itemId binId : ℕ) (target : ℤ) : Prop :=
  store.binRows itemId binId = [] ∨
    (∃ entry, store.binRows itemId binId = [entry] ∧
      (target ≤ entry.2.quantityOnHand ∨ entry.2.lotNumber = none)) ∨
    target = 0 ∧ ∀ entry ∈ store.binRows itemId binId, entry.2.quantityOnHand = 0

section Update

variable {store after : Store} {itemId binId warehouseId : ℕ} {quantityChange : ℤ}

/-! ## What a change does -/

/-- A change goes to a new row without a lot, or to one row of the bin. -/
inductive Changes (store : Store) (itemId binId : ℕ) (quantityChange : ℤ) (after : Store) :
    Prop where
  | inserted (row : Inventory) (hinventory : after.inventory = store.inventory.insert row)
      (hbin : row.inBin itemId binId = true) (hquantity : row.quantityOnHand = quantityChange)
      (hnone : ∀ entry ∈ store.binRows itemId binId, entry.2.lotNumber ≠ none)
      (hpos : 0 < quantityChange)
  | modified (entry : ℕ × Inventory) (update : Inventory → Inventory)
      (hentry : entry ∈ store.binRows itemId binId)
      (hinventory : after.inventory = store.inventory.modify entry.1 update)
      (hbin : ∀ row itemId' binId',
        (update row).inBin itemId' binId' = row.inBin itemId' binId')
      (hquantity : (update entry.2).quantityOnHand =
        entry.2.quantityOnHand + quantityChange)
      (hlot : 0 < quantityChange → entry.2.lotNumber = none)

variable {entry : ℕ × Inventory}

theorem mem_binRows :
    entry ∈ store.binRows itemId binId ↔
      entry ∈ store.inventory.entries ∧ entry.2.inBin itemId binId = true :=
  Table.mem_select _

theorem addInventory_changes (store : Store) (itemId binId warehouseId : ℕ)
    (hpos : 0 < quantityChange) :
    Changes store itemId binId quantityChange
      (addInventory store itemId binId warehouseId quantityChange none).1 := by
  rw [addInventory]
  cases hfind : store.findLot itemId binId none with
  | none =>
      refine .inserted _ rfl ?_ rfl ?_ hpos
      · rw [Inventory.inBin, BEq.rfl, BEq.rfl, Bool.and_true]
      · intro entry hentry hlot
        obtain ⟨hmem, hbin⟩ := mem_binRows.mp hentry
        have hnot := List.find?_eq_none.mp hfind entry hmem
        rw [hbin, hlot] at hnot
        exact hnot rfl
  | some found =>
      have hcond := List.find?_some hfind
      rw [Bool.and_eq_true] at hcond
      exact .modified found
        (fun row => { row with
          quantityOnHand := row.quantityOnHand + quantityChange, updatedAt := store.now })
        (mem_binRows.mpr ⟨List.mem_of_find?_eq_some hfind, hcond.1⟩) rfl
        (fun _ _ _ => rfl) rfl fun _ => beq_iff_eq.mp hcond.2

theorem applyChange_changes {row : Option (ℕ × Inventory)}
    (hrow : ∀ entry, row = some entry → entry ∈ store.binRows itemId binId)
    (hchange : 0 < quantityChange ∨ row ≠ none) :
    Changes store itemId binId quantityChange
      (applyChange store row itemId binId warehouseId quantityChange) := by
  unfold applyChange
  split
  next hpos =>
    obtain ⟨salesOrders, hreleased⟩ := releaseSatisfiableBackorders_spec
      (addInventory store itemId binId warehouseId quantityChange none).1 warehouseId itemId
    rw [hreleased]
    cases addInventory_changes store itemId binId warehouseId hpos with
    | inserted row hinventory hbin hquantity hnone _ =>
        exact .inserted row hinventory hbin hquantity hnone hpos
    | modified entry update hentry hinventory hbin hquantity hlot =>
        exact .modified entry update hentry hinventory hbin hquantity hlot
  next hnotPos =>
    cases hread : row with
    | none => exact absurd hread (hchange.resolve_left hnotPos)
    | some entry =>
        exact .modified entry
          (fun row => { row with
            quantityOnHand := entry.2.quantityOnHand + quantityChange
            updatedAt := store.now })
          (hrow entry hread) rfl (fun _ _ _ => rfl) rfl fun hpos => absurd hpos hnotPos

theorem Changes.elsewhere (hchanges : Changes store itemId binId quantityChange after)
    {itemId' binId' : ℕ} (hother : itemId' ≠ itemId ∨ binId' ≠ binId) :
    after.binRows itemId' binId' = store.binRows itemId' binId' := by
  have hnot : ∀ row : Inventory, row.inBin itemId binId = true →
      row.inBin itemId' binId' = false := by
    intro row hbin
    rw [inBin_iff] at hbin
    rw [← Bool.not_eq_true, inBin_iff]
    rintro ⟨hitem, hbin'⟩
    rcases hother with hne | hne
    · exact hne (hitem.symm.trans hbin.1)
    · exact hne (hbin'.symm.trans hbin.2)
  cases hchanges with
  | inserted row hinventory hbin hquantity hnone hpos =>
      rw [Store.binRows, hinventory, Table.select_insert, hnot row hbin]
      exact List.append_nil _
  | modified entry update hentry hinventory hbin hquantity hlot =>
      obtain ⟨hmem, hin⟩ := mem_binRows.mp hentry
      rw [Store.binRows, hinventory, Table.modify, Table.select_mapRows_elsewhere]
      · rfl
      · intro key row hrow
        by_cases hkey : key = entry.1
        · subst hkey
          have hsame := store.inventory.row_unique hrow hmem
          subst hsame
          right
          rw [if_pos rfl, hbin]
          exact ⟨hnot _ hin, hnot _ hin⟩
        · left
          exact if_neg hkey

theorem Changes.binOnHand (hchanges : Changes store itemId binId quantityChange after) :
    after.binOnHand itemId binId = store.binOnHand itemId binId + quantityChange := by
  rw [Store.binOnHand, Store.binOnHand, Store.stock, Store.stock]
  cases hchanges with
  | inserted row hinventory hbin hquantity hnone hpos =>
      rw [hinventory, Table.total_insert, if_pos hbin, hquantity]
  | modified entry update hentry hinventory hbin hquantity hlot =>
      obtain ⟨hmem, hin⟩ := mem_binRows.mp hentry
      have hin' := (hbin entry.2 itemId binId).trans hin
      rw [hinventory, Table.total_modify _ hmem, if_pos hin, if_pos hin', hquantity]
      ring

theorem Changes.binRows (hchanges : Changes store itemId binId quantityChange after) :
    (∃ entry : ℕ × Inventory, entry.2.quantityOnHand = quantityChange ∧
      0 < quantityChange ∧
      (∀ other ∈ store.binRows itemId binId, other.2.lotNumber ≠ none) ∧
      after.binRows itemId binId = store.binRows itemId binId ++ [entry]) ∨
    ∃ entry ∈ store.binRows itemId binId, ∃ row : Inventory,
      row.quantityOnHand = entry.2.quantityOnHand + quantityChange ∧
      (0 < quantityChange → entry.2.lotNumber = none) ∧
      after.binRows itemId binId = (store.binRows itemId binId).map fun other =>
        (other.1, if other.1 = entry.1 then row else other.2) := by
  cases hchanges with
  | inserted row hinventory hbin hquantity hnone hpos =>
      left
      refine ⟨(store.inventory.next, row), hquantity, hpos, hnone, ?_⟩
      rw [Store.binRows, hinventory, Table.select_insert, hbin]
      rfl
  | modified entry update hentry hinventory hbin hquantity hlot =>
      right
      refine ⟨entry, hentry, update entry.2, hquantity, hlot, ?_⟩
      rw [Store.binRows, hinventory, Table.modify, Table.select_mapRows]
      · apply List.map_congr_left
        intro other hother
        by_cases hkey : other.1 = entry.1
        · have hmem : (entry.1, other.2) ∈ store.inventory.entries := by
            rw [← hkey]
            exact (mem_binRows.mp hother).1
          have hsame := store.inventory.row_unique hmem (mem_binRows.mp hentry).1
          rw [if_pos hkey, if_pos hkey, hsame]
        · rw [if_neg hkey, if_neg hkey]
      · intro key row
        split
        · exact hbin row itemId binId
        · rfl

theorem Changes.exists_kept (hchanges : Changes store itemId binId quantityChange after)
    {first second : ℕ × Inventory} (hfirst : first ∈ store.binRows itemId binId)
    (hsecond : second ∈ store.binRows itemId binId) (hne : first.1 ≠ second.1) :
    first ∈ after.binRows itemId binId ∨ second ∈ after.binRows itemId binId := by
  rcases hchanges.binRows with ⟨entry, -, -, -, hrows⟩ | ⟨entry, -, row, -, -, hrows⟩
  · left
    rw [hrows]
    exact List.mem_append_left _ hfirst
  · rw [hrows]
    by_cases hkey : first.1 = entry.1
    · right
      refine List.mem_map.mpr ⟨second, hsecond, ?_⟩
      rw [if_neg fun heq => hne (hkey.trans heq.symm)]
    · left
      refine List.mem_map.mpr ⟨first, hfirst, ?_⟩
      rw [if_neg hkey]

/-! ## One post -/

theorem binOnHand_eq_sum (store : Store) (itemId binId : ℕ) :
    store.binOnHand itemId binId =
      ((store.binRows itemId binId).map fun entry => entry.2.quantityOnHand).sum :=
  (store.inventory.total_select _ fun _ row => row.quantityOnHand).symm

variable {upstream : Upstream} {sourceSystem : String} {payload : InventoryUpdatePayload}

theorem inventoryUpdate_eq
    (hresolves : Resolves upstream sourceSystem store payload itemId binId)
    (choice : Option ℕ) :
    inventoryUpdate choice upstream (some sourceSystem) store payload =
      if payload.targetQuantity - readQuantity (store.readRow choice itemId binId) = 0 then
        .ok (store, none)
      else
        .ok (applyChange store (store.readRow choice itemId binId) itemId binId
            payload.warehouseId
            (payload.targetQuantity - readQuantity (store.readRow choice itemId binId)),
          some
            { itemId, binId, warehouseId := payload.warehouseId
              quantityChange :=
                payload.targetQuantity - readQuantity (store.readRow choice itemId binId)
              reasonCode := (payload.reasonCode.take 60).toString }) := by
  have hsystem : (some sourceSystem).filter (fun system => system != "") =
      some sourceSystem :=
    Option.filter_eq_some_iff.mpr ⟨rfl, bne_iff_ne.mpr hresolves.system⟩
  rw [inventoryUpdate, if_neg (not_lt.mpr hresolves.target), hsystem]
  dsimp only
  rw [hresolves.item]
  dsimp only
  rw [hresolves.bin]

theorem Resolves.applyChange
    (hresolves : Resolves upstream sourceSystem store payload itemId binId)
    (row : Option (ℕ × Inventory)) (quantityChange : ℤ) :
    Resolves upstream sourceSystem
      (applyChange store row itemId binId payload.warehouseId quantityChange) payload itemId
      binId := by
  have hsame : ∃ inventory salesOrders,
      SentryWms.applyChange store row itemId binId payload.warehouseId quantityChange =
        { store with inventory, salesOrders } := by
    unfold SentryWms.applyChange
    split
    · obtain ⟨inventory, hadded⟩ := addInventory_spec store itemId binId
        payload.warehouseId quantityChange none
      obtain ⟨salesOrders, hreleased⟩ := releaseSatisfiableBackorders_spec
        { store with inventory } payload.warehouseId itemId
      rw [hadded, hreleased]
      exact ⟨inventory, salesOrders, rfl⟩
    · split
      · exact ⟨_, _, rfl⟩
      · exact ⟨_, _, rfl⟩
  obtain ⟨inventory, salesOrders, heq⟩ := hsame
  rw [heq]
  exact ⟨hresolves.target, hresolves.system, hresolves.item, hresolves.bin⟩

theorem readRow_changes
    (hresolves : Resolves upstream sourceSystem store payload itemId binId)
    (choice : Option ℕ)
    (hchange : payload.targetQuantity -
      readQuantity (store.readRow choice itemId binId) ≠ 0) :
    Changes store itemId binId
      (payload.targetQuantity - readQuantity (store.readRow choice itemId binId))
      (applyChange store (store.readRow choice itemId binId) itemId binId
        payload.warehouseId
        (payload.targetQuantity - readQuantity (store.readRow choice itemId binId))) := by
  apply applyChange_changes
  · intro entry hentry
    exact mem_of_limitOne hentry
  · cases hread : store.readRow choice itemId binId with
    | none =>
        left
        rw [hread] at hchange
        have htarget := hresolves.target
        have hzero : readQuantity none = 0 := rfl
        rw [hzero] at hchange ⊢
        omega
    | some entry => exact .inr nofun

theorem inventoryUpdate_noop_iff
    (hresolves : Resolves upstream sourceSystem store payload itemId binId)
    (choice : Option ℕ) :
    inventoryUpdate choice upstream (some sourceSystem) store payload = .ok (store, none) ↔
      readQuantity (store.readRow choice itemId binId) = payload.targetQuantity := by
  rw [inventoryUpdate_eq hresolves]
  split
  next hzero => exact iff_of_true rfl (by omega)
  next hchange =>
    constructor
    · intro hnoop
      exact absurd (congrArg Prod.snd (Except.ok.inj hnoop)) nofun
    · intro hread
      exact absurd hread (by omega)

theorem SetsState.reads (hresolves : Resolves upstream sourceSystem store payload itemId binId)
    (hsets : SetsState upstream sourceSystem store payload itemId binId)
    (choice : Option ℕ) :
    store.binOnHand itemId binId = readQuantity (store.readRow choice itemId binId) ∧
      (payload.targetQuantity ≠ readQuantity (store.readRow choice itemId binId) →
        ∃ after, Changes store itemId binId
            (payload.targetQuantity - readQuantity (store.readRow choice itemId binId))
            after ∧
          ∀ choice', readQuantity (after.readRow choice' itemId binId) =
            payload.targetQuantity) := by
  obtain ⟨after, adjustment, hok, htotal, hdelta, -, hagain⟩ := hsets choice
  rw [inventoryUpdate_eq hresolves] at hok
  split at hok
  next hzero =>
    cases hok
    exact ⟨by omega, fun hne => absurd hzero (by omega)⟩
  next hchange =>
    have hchanges := readRow_changes hresolves choice hchange
    have hresolves' := hresolves.applyChange (store.readRow choice itemId binId)
      (payload.targetQuantity - readQuantity (store.readRow choice itemId binId))
    cases hok
    refine ⟨?_, fun _ => ⟨_, hchanges, ?_⟩⟩
    · have hgain := hchanges.binOnHand
      omega
    · intro choice'
      exact (inventoryUpdate_noop_iff hresolves' choice').mp (hagain choice')

theorem readQuantity_of_mem (hentry : entry ∈ store.binRows itemId binId) :
    readQuantity (store.readRow (some entry.1) itemId binId) = entry.2.quantityOnHand := by
  rw [Store.readRow, Store.binRows, limitOne_select hentry]
  rfl

theorem SetsState.zero (hresolves : Resolves upstream sourceSystem store payload itemId binId)
    (hsets : SetsState upstream sourceSystem store payload itemId binId)
    {first second : ℕ × Inventory} {rest : List (ℕ × Inventory)}
    (hrows : store.binRows itemId binId = first :: second :: rest) :
    payload.targetQuantity = 0 ∧
      ∀ entry ∈ store.binRows itemId binId, entry.2.quantityOnHand = 0 := by
  have hall : ∀ entry ∈ store.binRows itemId binId,
      entry.2.quantityOnHand = store.binOnHand itemId binId := by
    intro entry hentry
    rw [(hsets.reads hresolves (some entry.1)).1, readQuantity_of_mem hentry]
  have htotal : store.binOnHand itemId binId =
      (store.binRows itemId binId).length • store.binOnHand itemId binId := by
    conv_lhs => rw [binOnHand_eq_sum]
    rw [List.map_congr_left hall, List.map_const', List.sum_replicate]
  have hzero : store.binOnHand itemId binId = 0 := by
    rw [hrows, List.length_cons, List.length_cons, nsmul_eq_mul] at htotal
    push_cast at htotal
    have hcount : ((rest.length : ℤ) + 1) * store.binOnHand itemId binId = 0 := by
      linarith
    rcases mul_eq_zero.mp hcount with hnone | hempty
    · omega
    · exact hempty
  have hfirst : first ∈ store.binRows itemId binId := by
    rw [hrows]
    exact List.mem_cons_self
  have hsecond : second ∈ store.binRows itemId binId := by
    rw [hrows]
    exact List.mem_cons_of_mem _ List.mem_cons_self
  refine ⟨?_, fun entry hentry => (hall entry hentry).trans hzero⟩
  by_contra htarget
  have hread := readQuantity_of_mem hfirst
  rw [hall first hfirst, hzero] at hread
  obtain ⟨-, hchanges⟩ := hsets.reads hresolves (some first.1)
  rw [hread] at hchanges
  obtain ⟨after, hchange, hagain⟩ := hchanges htarget
  have hne : first.1 ≠ second.1 := by
    have hnodup := store.inventory.select_nodup (Inventory.inBin itemId binId)
    rw [← Store.binRows, hrows, List.map_cons, List.map_cons, List.nodup_cons] at hnodup
    intro heq
    exact hnodup.1 (heq ▸ List.mem_cons_self)
  rcases hchange.exists_kept hfirst hsecond hne with hkept | hkept
  · have hnext := hagain (some first.1)
    rw [readQuantity_of_mem hkept, hall first hfirst, hzero] at hnext
    exact htarget hnext.symm
  · have hnext := hagain (some second.1)
    rw [readQuantity_of_mem hkept, hall second hsecond, hzero] at hnext
    exact htarget hnext.symm

theorem SetsState.lot (hresolves : Resolves upstream sourceSystem store payload itemId binId)
    (hsets : SetsState upstream sourceSystem store payload itemId binId)
    (hrows : store.binRows itemId binId = [entry])
    (hraise : entry.2.quantityOnHand < payload.targetQuantity) :
    entry.2.lotNumber = none := by
  have hread : readQuantity (store.readRow none itemId binId) = entry.2.quantityOnHand := by
    rw [Store.readRow, limitOne_none, hrows]
    rfl
  obtain ⟨-, hchanges⟩ := hsets.reads hresolves none
  rw [hread] at hchanges
  obtain ⟨after, hchange, hagain⟩ := hchanges hraise.ne'
  rcases hchange.binRows with ⟨added, -, -, -, hafter⟩ | ⟨other, hother, row, -, hlot, -⟩
  · -- The raise went to a new row, and the old one is read again.
    have hnext := hagain none
    rw [Store.readRow, limitOne_none, hafter, hrows] at hnext
    exact absurd hnext hraise.ne
  · rw [hrows, List.mem_singleton] at hother
    rw [← hother]
    exact hlot (by omega)

theorem sum_onHand_eq_zero
    (hzero : ∀ entry ∈ store.binRows itemId binId, entry.2.quantityOnHand = 0) :
    ((store.binRows itemId binId).map fun entry => entry.2.quantityOnHand).sum = 0 := by
  apply List.sum_eq_zero
  intro quantity hquantity
  obtain ⟨entry, hentry, rfl⟩ := List.mem_map.mp hquantity
  exact hzero entry hentry

theorem Store.Settable.read {target : ℤ} (hsettable : store.Settable itemId binId target)
    (choice : Option ℕ) :
    readQuantity (store.readRow choice itemId binId) = store.binOnHand itemId binId := by
  rw [binOnHand_eq_sum, Store.readRow]
  rcases hsettable with hnil | ⟨entry, hrows, -⟩ | ⟨-, hzero⟩
  · rw [hnil]
    rfl
  · rw [hrows, limitOne_singleton, List.map_singleton, List.sum_singleton]
    rfl
  · rw [sum_onHand_eq_zero hzero]
    cases hlimit : limitOne choice (store.binRows itemId binId) with
    | none => rfl
    | some entry => exact hzero entry (mem_of_limitOne hlimit)

theorem Store.Settable.oneRow {target : ℤ} (hsettable : store.Settable itemId binId target)
    (hchanges : Changes store itemId binId (target - store.binOnHand itemId binId) after)
    (hne : target ≠ store.binOnHand itemId binId) :
    ∃ entry : ℕ × Inventory, after.binRows itemId binId = [entry] ∧
      entry.2.quantityOnHand = target := by
  rw [binOnHand_eq_sum] at hchanges hne
  rcases hsettable with hnil | ⟨only, hrows, hlot⟩ | ⟨htarget, hzero⟩
  · rw [hnil, List.map_nil, List.sum_nil, sub_zero] at hchanges
    rcases hchanges.binRows with ⟨added, hquantity, -, -, hafter⟩ | ⟨other, hother, -⟩
    · rw [hnil, List.nil_append] at hafter
      exact ⟨added, hafter, hquantity⟩
    · rw [hnil] at hother
      cases hother
  · rw [hrows, List.map_singleton, List.sum_singleton] at hchanges hne
    rcases hchanges.binRows with ⟨added, -, hpos, hnone, -⟩ |
      ⟨other, hother, row, hquantity, -, hafter⟩
    · have hlots := hnone only (hrows ▸ List.mem_singleton_self only)
      exact absurd (hlot.resolve_right hlots) (by omega)
    · rw [hrows, List.mem_singleton] at hother
      subst hother
      rw [hrows, List.map_singleton, if_pos rfl] at hafter
      exact ⟨_, hafter, by dsimp only; omega⟩
  · exact absurd (htarget.trans (sum_onHand_eq_zero hzero).symm) hne

theorem Store.Settable.sets
    (hresolves : Resolves upstream sourceSystem store payload itemId binId)
    (hsettable : store.Settable itemId binId payload.targetQuantity) :
    SetsState upstream sourceSystem store payload itemId binId := by
  intro choice
  rw [inventoryUpdate_eq hresolves]
  by_cases hzero :
      payload.targetQuantity - readQuantity (store.readRow choice itemId binId) = 0
  · rw [if_pos hzero]
    rw [hsettable.read] at hzero
    refine ⟨store, none, rfl, by omega, (sub_self _).symm, fun _ _ _ => rfl, ?_⟩
    intro choice'
    rw [inventoryUpdate_noop_iff hresolves, hsettable.read]
    omega
  · rw [if_neg hzero]
    have hchanges := readRow_changes hresolves choice hzero
    have hresolves' := hresolves.applyChange (store.readRow choice itemId binId)
      (payload.targetQuantity - readQuantity (store.readRow choice itemId binId))
    have hgain := hchanges.binOnHand
    refine ⟨_, _, rfl, ?_, ?_, fun _ _ hother => hchanges.elsewhere hother, ?_⟩
    · rw [hgain, hsettable.read]
      omega
    · rw [hgain, add_sub_cancel_left]
      rfl
    · intro choice'
      rw [inventoryUpdate_noop_iff hresolves']
      rw [hsettable.read] at hchanges hzero ⊢
      obtain ⟨entry, hrows, hquantity⟩ := hsettable.oneRow hchanges (by omega)
      rw [Store.readRow, hrows, limitOne_singleton]
      exact hquantity

/-! ## When the state is set -/

/-- An accepted update sets the state that it names, whatever rows its queries answer
with, exactly when the bin keeps the item in no row, or in one that holds the target
already or has no lot, or there is nothing to set. -/
theorem inventoryUpdate_iff
    (hresolves : Resolves upstream sourceSystem store payload itemId binId) :
    SetsState upstream sourceSystem store payload itemId binId ↔
      store.Settable itemId binId payload.targetQuantity := by
  constructor
  · intro hsets
    cases hrows : store.binRows itemId binId with
    | nil => exact .inl hrows
    | cons first others =>
        cases others with
        | nil =>
            right
            left
            refine ⟨first, hrows, ?_⟩
            by_cases hraise : first.2.quantityOnHand < payload.targetQuantity
            · exact .inr (hsets.lot hresolves hrows hraise)
            · exact .inl (not_lt.mp hraise)
        | cons second rest => exact .inr (.inr (hsets.zero hresolves hrows))
  · exact fun hsettable => hsettable.sets hresolves

end Update

/-! ## A bin with two lots -/

/-- The item is mapped under the upstream system's own id. -/
def mappedItem : Upstream where
  mappings := .ofRows [⟨"shop", "item", "A-1", "item-uuid"⟩]
  itemExternalId := fun _ => "item-uuid"

def binOfRows (rows : List Inventory) : Store where
  warehouses := .ofRows [⟨"W", true⟩]
  items := .ofRows [⟨"A", none, [], true, none⟩]
  bins := .ofRows [⟨1, "B", .pickable, 1, true⟩]
  inventory := .ofRows rows

def setTo (targetQuantity : ℤ) : InventoryUpdatePayload where
  itemExternalId := "A-1"
  binCode := "B"
  warehouseId := 1
  targetQuantity := targetQuantity
  reasonCode := "sync"

theorem setTo_resolves (rows : List Inventory) {targetQuantity : ℤ}
    (htarget : 0 ≤ targetQuantity) :
    Resolves mappedItem "shop" (binOfRows rows) (setTo targetQuantity) 1 1 where
  target := htarget
  system := by decide
  item := by rfl
  bin := by rfl

theorem inventoryUpdate_iff_oneRow :
    SetsState mappedItem "shop" (binOfRows [⟨1, 1, 1, 3, 1, none, 0⟩]) (setTo 5) 1 1 :=
  (inventoryUpdate_iff (setTo_resolves _ (by decide))).mpr
    (.inr (.inl ⟨(1, ⟨1, 1, 1, 3, 1, none, 0⟩), by rfl, .inr rfl⟩))

/-- With three units in one lot and four in another, the bin is not set to five. -/
theorem inventoryUpdate_twoLots :
    ¬ ∀ (upstream : Upstream) (sourceSystem : String) (store : Store)
        (payload : InventoryUpdatePayload) (itemId binId : ℕ),
      Resolves upstream sourceSystem store payload itemId binId →
        SetsState upstream sourceSystem store payload itemId binId := by
  intro hclaim
  obtain ⟨after, adjustment, hok, htotal, -⟩ := hclaim mappedItem "shop"
    (binOfRows [⟨1, 1, 1, 3, 0, none, 0⟩, ⟨1, 1, 1, 4, 0, some "L", 0⟩]) (setTo 5) 1 1
    (setTo_resolves _ (by decide)) none
  have hnine : (inventoryUpdate none mappedItem (some "shop")
      (binOfRows [⟨1, 1, 1, 3, 0, none, 0⟩, ⟨1, 1, 1, 4, 0, some "L", 0⟩]) (setTo 5)).map
        (fun result => result.1.binOnHand 1 1) = .ok 9 := by
    decide +kernel
  rw [hok] at hnine
  exact absurd (htotal.symm.trans (Except.ok.inj hnine)) (by decide)

end SentryWms
