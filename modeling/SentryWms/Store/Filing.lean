import SentryWms.Core.Directory
import SentryWms.Core.Transition
import SentryWms.Store.Inventory

/-!
# Where stock is filed

An inventory row stands for a place, the item, bin and lot it counts, and is filed
under a warehouse. Services change the quantities of rows and never their filing, so
what a service does to the filing of the stock is the list of what it puts in through
`add_inventory`.
-/

namespace SentryWms

open Relational Transition

/-! ## Filings -/

/-- An item in a bin under a lot; no lot is a lot of its own. -/
structure LotPlace where
  itemId : ℕ
  binId : ℕ
  lotNumber : Option String
deriving DecidableEq

def Inventory.filing (row : Inventory) : LotPlace × ℕ :=
  (⟨row.itemId, row.binId, row.lotNumber⟩, row.warehouseId)

def Store.filings (store : Store) : List (LotPlace × ℕ) :=
  store.inventory.entries.map fun entry => entry.2.filing

def Store.home (store : Store) (filing : LotPlace × ℕ) : Bool :=
  (store.bins.get? filing.1.binId).all fun bin => bin.warehouseId == filing.2

/-- Every row lies in the warehouse of its bin, and no two rows count one place. -/
structure Store.Filed (store : Store) : Prop where
  warehouse : ∀ inventoryId row bin, (inventoryId, row) ∈ store.inventory.entries →
    (row.binId, bin) ∈ store.bins.entries → row.warehouseId = bin.warehouseId
  onePerLot : ∀ inventoryId row inventoryId' row',
    (inventoryId, row) ∈ store.inventory.entries →
    (inventoryId', row') ∈ store.inventory.entries →
    row.itemId = row'.itemId → row.binId = row'.binId → row.lotNumber = row'.lotNumber →
    inventoryId = inventoryId'

/-- The service files these entries, in this order, and moves no bin. -/
structure Files (store : Store) (entries : List (LotPlace × ℕ)) (after : Store) : Prop where
  bins : after.bins = store.bins
  filings : after.filings = enterAll store.filings entries

variable {store middle after : Store} {entries entries' : List (LotPlace × ℕ)}

theorem home_iff {filing : LotPlace × ℕ} :
    store.home filing = true ↔
      ∀ bin, (filing.1.binId, bin) ∈ store.bins.entries → bin.warehouseId = filing.2 := by
  rw [Store.home]
  constructor
  · intro hhome bin hbin
    rw [(Table.get?_eq_some _).mpr hbin] at hhome
    exact beq_iff_eq.mp hhome
  · intro hhome
    cases hget : store.bins.get? filing.1.binId with
    | none => rfl
    | some bin => exact beq_iff_eq.mpr (hhome bin ((Table.get?_eq_some _).mp hget))

theorem filings_keys_nodup :
    (store.filings.map Prod.fst).Nodup ↔
      ∀ inventoryId row inventoryId' row',
        (inventoryId, row) ∈ store.inventory.entries →
        (inventoryId', row') ∈ store.inventory.entries →
        row.filing.1 = row'.filing.1 → inventoryId = inventoryId' := by
  have hnodup : store.inventory.entries.Nodup := store.inventory.nodup_keys.of_map _
  rw [Store.filings, List.map_map, List.nodup_map_iff_inj_on hnodup]
  constructor
  · intro hinj inventoryId row inventoryId' row' hrow hrow' hplace
    exact congrArg Prod.fst (hinj _ hrow _ hrow' hplace)
  · intro hkeys entry hentry entry' hentry' hplace
    have hkey := hkeys _ _ _ _ hentry hentry' hplace
    exact List.inj_on_of_nodup_map store.inventory.nodup_keys hentry hentry' hkey

theorem filed_iff :
    store.Filed ↔ InPlace (fun filing => store.home filing = true) store.filings := by
  constructor
  · intro hfiled
    refine ⟨filings_keys_nodup.mpr ?_, ?_⟩
    · intro inventoryId row inventoryId' row' hrow hrow' hplace
      obtain ⟨hitem, hbin, hlot⟩ := LotPlace.mk.inj hplace
      exact hfiled.onePerLot _ _ _ _ hrow hrow' hitem hbin hlot
    · intro filing hfiling
      obtain ⟨entry, hentry, rfl⟩ := List.mem_map.mp hfiling
      exact home_iff.mpr fun bin hbin =>
        (hfiled.warehouse entry.1 entry.2 bin hentry hbin).symm
  · intro hplace
    refine ⟨?_, ?_⟩
    · intro inventoryId row bin hrow hbin
      have hhome := hplace.belongs row.filing (List.mem_map_of_mem hrow)
      exact (home_iff.mp hhome bin hbin).symm
    · intro inventoryId row inventoryId' row' hrow hrow' hitem hbin hlot
      refine filings_keys_nodup.mp hplace.nodup _ _ _ _ hrow hrow' ?_
      rw [Inventory.filing, Inventory.filing, hitem, hbin, hlot]

instance (store : Store) : Decidable store.Filed :=
  decidable_of_iff _ filed_iff.symm

/-! ## What is filed -/

namespace Files

theorem refl (store : Store) : Files store [] store := ⟨rfl, rfl⟩

theorem trans (hfirst : Files store entries middle) (hnext : Files middle entries' after) :
    Files store (entries ++ entries') after where
  bins := hnext.bins.trans hfirst.bins
  filings := by rw [hnext.filings, hfirst.filings, Directory.enterAll_append]

theorem append_nil (hfirst : Files store entries middle) (hnext : Files middle [] after) :
    Files store entries after := by
  have htrans := hfirst.trans hnext
  rwa [List.append_nil] at htrans

theorem home (hfiles : Files store entries after) (filing : LotPlace × ℕ) :
    after.home filing = store.home filing := by
  rw [Store.home, Store.home, hfiles.bins]

theorem filed (hfiles : Files store entries after) (hfiled : store.Filed) :
    after.Filed ↔ ∀ filing ∈ opening store.filings entries, store.home filing = true := by
  rw [filed_iff, hfiles.filings]
  simp only [hfiles.home]
  exact Directory.inPlace_enterAll (filed_iff.mp hfiled)

theorem filed_of_home (hfiles : Files store entries after) (hfiled : store.Filed)
    (hhome : ∀ filing ∈ entries, store.home filing = true) : after.Filed :=
  (hfiles.filed hfiled).mpr fun filing hopening =>
    hhome filing (Directory.mem_of_mem_opening hopening)

theorem ofMapRows {change : ℕ → Inventory → Inventory}
    (hbins : after.bins = store.bins)
    (hinventory : after.inventory = store.inventory.mapRows change)
    (hchange : ∀ key row, (change key row).filing = row.filing) :
    Files store [] after where
  bins := hbins
  filings := by
    rw [Store.filings, hinventory, Table.mapRows, List.map_map, Directory.enterAll_nil]
    exact List.map_congr_left fun entry _ => hchange entry.1 entry.2

theorem ofSame (hbins : after.bins = store.bins)
    (hinventory : after.inventory = store.inventory) : Files store [] after where
  bins := hbins
  filings := congrArg (fun table => table.entries.map fun entry => entry.2.filing) hinventory

theorem ofModify {inventoryId : ℕ} (change : Inventory → Inventory)
    (hbins : after.bins = store.bins)
    (hinventory : after.inventory = store.inventory.modify inventoryId change)
    (hchange : ∀ row, (change row).filing = row.filing) : Files store [] after := by
  apply ofMapRows hbins hinventory
  intro key row
  split
  · exact hchange row
  · rfl

theorem ofUpdateWhere {cond : Inventory → Bool} (change : Inventory → Inventory)
    (hbins : after.bins = store.bins)
    (hinventory : after.inventory = store.inventory.updateWhere cond change)
    (hchange : ∀ row, (change row).filing = row.filing) : Files store [] after := by
  apply ofMapRows hbins hinventory
  intro key row
  split
  · exact hchange row
  · rfl

theorem ofTakes {change : ℤ → Inventory → Inventory} {draws : List (ℕ × ℤ)}
    (hbins : after.bins = store.bins)
    (hinventory : after.inventory = store.inventory.applyTakes change draws)
    (hchange : ∀ quantity row, (change quantity row).filing = row.filing) :
    Files store [] after := by
  induction draws generalizing store with
  | nil => exact ofSame hbins hinventory
  | cons draw draws ih =>
      rw [Table.applyTakes_cons] at hinventory
      have hfirst : Files store [] { store with
          inventory := store.inventory.modify draw.1 (change draw.2) } :=
        ofModify (change draw.2) rfl rfl (hchange draw.2)
      exact hfirst.trans (ih hbins hinventory)

theorem foldl {Item : Type*} {step : Store → Item → Store}
    {filed : Item → List (LotPlace × ℕ)}
    (hstep : ∀ middle item, middle.bins = store.bins →
      Files middle (filed item) (step middle item))
    (items : List Item) : Files store (items.flatMap filed) (items.foldl step store) := by
  induction items generalizing store with
  | nil => exact refl store
  | cons item items ih =>
      have hfirst := hstep store item rfl
      rw [List.flatMap_cons]
      exact hfirst.trans (ih fun middle item hbins =>
        hstep middle item (hbins.trans hfirst.bins))

end Files

/-! ## Inventory operations -/

theorem findLot_eq_none {itemId binId : ℕ} {lotNumber : Option String} :
    store.findLot itemId binId lotNumber = none ↔
      LotPlace.mk itemId binId lotNumber ∉ store.filings.map Prod.fst := by
  rw [Store.findLot, List.find?_eq_none, Store.filings, List.map_map]
  constructor
  · intro hnone hmem
    obtain ⟨entry, hentry, hplace⟩ := List.mem_map.mp hmem
    obtain ⟨hitem, hbin, hlot⟩ := LotPlace.mk.inj hplace
    exact hnone entry hentry (by simp [Inventory.inBin, hitem, hbin, hlot])
  · intro hfree entry hentry hrow
    simp only [Inventory.inBin, Bool.and_eq_true, beq_iff_eq] at hrow
    refine hfree (List.mem_map.mpr ⟨entry, hentry, ?_⟩)
    rw [Function.comp_apply, Inventory.filing, hrow.1.1, hrow.1.2, hrow.2]

/-- `add_inventory` files the stock under the warehouse its caller names. -/
theorem addInventory_files (store : Store) (itemId binId warehouseId : ℕ)
    (quantity : ℤ) (lotNumber : Option String) :
    Files store [(⟨itemId, binId, lotNumber⟩, warehouseId)]
      (addInventory store itemId binId warehouseId quantity lotNumber).1 := by
  rw [addInventory]
  cases hlot : store.findLot itemId binId lotNumber with
  | some entry =>
      have htaken : ¬ LotPlace.mk itemId binId lotNumber ∉ store.filings.map Prod.fst := by
        rw [← findLot_eq_none, hlot]
        exact Option.some_ne_none _
      have hsame : Files store [] { store with
          inventory := store.inventory.modify entry.1 fun row =>
            { row with
              quantityOnHand := row.quantityOnHand + quantity
              updatedAt := store.now } } :=
        Files.ofModify (fun row =>
          { row with
            quantityOnHand := row.quantityOnHand + quantity
            updatedAt := store.now }) rfl rfl fun _ => rfl
      refine ⟨rfl, ?_⟩
      rw [Directory.enterAll_cons, enter, if_pos (not_not.mp htaken)]
      exact hsame.filings
  | none =>
      refine ⟨rfl, ?_⟩
      rw [Directory.enterAll_cons, enter, if_neg (findLot_eq_none.mp hlot)]
      exact List.map_append

/-- `move_inventory` files the destination under the warehouse its caller names. -/
theorem moveInventory_files {itemId fromBinId toBinId warehouseId : ℕ} {quantity : ℤ}
    {lotNumber : Option String} {moved : Store × ℤ × ℤ}
    (hmove : moveInventory store itemId fromBinId toBinId warehouseId quantity lotNumber =
      .ok moved) :
    Files store [(⟨itemId, toBinId, lotNumber⟩, warehouseId)] moved.1 := by
  rw [moveInventory] at hmove
  split at hmove
  · cases hmove
  next inventoryId source _ =>
    split at hmove
    · cases hmove
    · cases hmove
      have hset : Files store [] (setInventoryQuantity store inventoryId
          (source.quantityOnHand - quantity)) :=
        Files.ofModify (fun row =>
          { row with
            quantityOnHand := source.quantityOnHand - quantity
            updatedAt := store.now }) rfl rfl fun _ => rfl
      exact hset.trans (addInventory_files _ _ _ _ _ _)

end SentryWms
