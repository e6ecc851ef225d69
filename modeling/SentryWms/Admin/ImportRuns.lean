import SentryWms.Admin.BadRows
import SentryWms.Inbound.InventoryUpdate
import SentryWms.Receiving.ReleasedBackorders

/-!
# What CSV imports keep

An imported record writes in one of six ways. Whatever these keep is kept by every run of
imports, of any types and in any order: the keys stay unique, which for the numbers of the lines
no constraint ensures, and stock stays in the warehouse of its bin. Stock of an item that is
there changes by the adjustments on record.
-/

namespace SentryWms.CsvImport

open Python Relational Postgres RowImport RowImport.RowResult Transition

variable {library : Catalog.Library} {readers : Readers} {state after : ImportState}
  {entityType : EntityType}

/-! ## Rows found and distinct values -/

section Rows

variable {ρ κ : Type} {table : Table ρ} {cond : ρ → Bool} {keyOf : ρ → κ} {row : ρ} {key : ℕ}

theorem keyWhere_eq_none :
    keyWhere table cond = none ↔ ∀ entry ∈ table.entries, cond entry.2 = false := by
  simp [keyWhere]

theorem get?_of_keyWhere (hfound : keyWhere table cond = some key) :
    ∃ row, table.get? key = some row ∧ cond row = true := by
  obtain ⟨entry, hfind, rfl⟩ := Option.map_eq_some_iff.mp hfound
  exact ⟨entry.2, table.get?_eq_some.mpr (List.mem_of_find?_eq_some hfind),
    List.find?_some (p := fun entry : ℕ × ρ => cond entry.2) hfind⟩

theorem get?_insert_of_some {found : ρ} (hget : table.get? key = some found) :
    (table.insert row).get? key = some found :=
  (Table.get?_eq_some _).mpr
    ((Table.mem_insert _).mpr (.inl ((Table.get?_eq_some _).mp hget)))

/-- No two rows have one value. -/
def DistinctOn (table : Table ρ) (keyOf : ρ → κ) : Prop :=
  (table.entries.map fun entry => keyOf entry.2).Nodup

instance [DecidableEq κ] : Decidable (DistinctOn table keyOf) :=
  inferInstanceAs (Decidable (List.Nodup _))

theorem DistinctOn.insert (hdistinct : DistinctOn table keyOf)
    (hnew : ∀ entry ∈ table.entries, keyOf entry.2 ≠ keyOf row) :
    DistinctOn (table.insert row) keyOf := by
  rw [DistinctOn, Table.insert, List.map_append]
  refine hdistinct.append (List.nodup_singleton _) ?_
  rw [List.map_singleton, List.disjoint_singleton]
  intro hmem
  obtain ⟨entry, hentry, hkey⟩ := List.mem_map.mp hmem
  exact hnew entry hentry hkey

theorem DistinctOn.mapRows {change : ℕ → ρ → ρ} (hdistinct : DistinctOn table keyOf)
    (hkey : ∀ key row, keyOf (change key row) = keyOf row) :
    DistinctOn (table.mapRows change) keyOf := by
  simpa [DistinctOn, Table.mapRows, Function.comp_def, hkey] using hdistinct

end Rows

/-! ## What an imported record writes -/

inductive Writes (state : ImportState) : EntityType → ImportState → Prop
  | item (row : ItemRow) (quantity : ℤ) (hsku : state.hasSku row.sku = false)
      (hbin : ∀ binId, row.defaultBinId = some binId → (state.bins.get? binId).isSome) :
      Writes state .items
        (stockNewItem { state with items := state.items.insert row } state.items.next
          row.defaultBinId quantity)
  | bin (row : BinRow) (hcode : state.binIn row.warehouseId row.binCode = none) :
      Writes state .bins { state with bins := state.bins.insert row }
  | purchaseOrderLine (opened : ImportState) (poId itemId : ℕ) (quantity : ℤ)
      (hopened : opened = state ∨ ∃ order, state.poOfNumber order.poNumber = none ∧
        opened = { state with purchaseOrders := state.purchaseOrders.insert order }) :
      Writes state .purchaseOrders
        { opened with
          stock :=
            { opened.stock with
              purchaseOrderLines := opened.stock.purchaseOrderLines.insert
                { poId, itemId, lineNumber := opened.maxPoLine poId + 1,
                  quantityOrdered := quantity, quantityReceived := 0, status := .pending } } }
  | salesOrderLine (opened : ImportState) (soId itemId : ℕ) (quantity : ℤ)
      (hopened : opened = state ∨ ∃ order parties, state.soOfNumber order.soNumber = none ∧
        opened = insertSalesOrder state order parties) :
      Writes state .salesOrders
        { opened with
          stock :=
            { opened.stock with
              salesOrderLines := opened.stock.salesOrderLines.insert
                { soId, itemId, lineNumber := opened.maxSoLine soId + 1,
                  quantityOrdered := quantity, quantityAllocated := 0, quantityPicked := 0 } } }
  | raised (added : AdjustmentRow) (hpos : 0 < added.quantityChange)
      (hitem : (state.items.get? added.itemId).isSome)
      (hbin : ∃ bin, state.bins.get? added.binId = some bin ∧
        bin.warehouseId = added.warehouseId) :
      Writes state .inventoryAdjustments
        { state with
          stock := (addInventory state.stock added.itemId added.binId added.warehouseId
            added.quantityChange none).1
          releasedPairs := state.releasedPairs.insert (added.warehouseId, added.itemId)
          adjustments := state.adjustments.insert added }
  | lowered (added : AdjustmentRow) (entry : ℕ × Inventory) (hneg : added.quantityChange < 0)
      (hentry : entry ∈ state.stock.inventory.entries)
      (hin : entry.2.inBin added.itemId added.binId = true)
      (henough : 0 ≤ entry.2.quantityOnHand + added.quantityChange) :
      Writes state .inventoryAdjustments
        { state with
          stock := setInventoryQuantity state.stock entry.1
            (entry.2.quantityOnHand + added.quantityChange)
          adjustments := state.adjustments.insert added }

section Inversion

variable {defaultWarehouseId : Option Value} {record : Value}

theorem itemRow_eq_some {row : ItemImportRow} {name : String} {defaultBinId : Option ℕ}
    {item : ItemRow} (hitem : itemRow readers row name defaultBinId = some item) :
    varchar 50 row.sku = some item.sku ∧ item.defaultBinId = defaultBinId ∧
      ∀ other, itemRow readers row name other = some { item with defaultBinId := other } := by
  simp only [itemRow, Option.bind_eq_bind, Option.bind_eq_some_iff, Option.pure_def,
    Option.some.injEq] at hitem ⊢
  obtain ⟨sku, hsku, itemName, hname, description, hdescription, upc, hupc, mpn, hmpn, category,
    hcategory, rfl⟩ := hitem
  exact ⟨hsku, rfl, fun other => ⟨sku, hsku, itemName, hname, description, hdescription, upc, hupc,
    mpn, hmpn, category, hcategory, rfl⟩⟩

theorem writes_importItem {row : ItemImportRow}
    (himported : importItem readers state row = imported after) : Writes state .items after := by
  simp only [importItem, skipIf_eq_imported, accept_eq_imported, orRaise_eq_imported,
    Bool.not_eq_true', imported.injEq] at himported
  obtain ⟨-, -, -, -, -, -, item, hitem, hsku, rfl⟩ := himported
  refine .item item _ hsku fun binId hbin => ?_
  rw [(itemRow_eq_some hitem).2.1, ImportState.defaultBinOf] at hbin
  split at hbin
  · cases hbin
  · obtain ⟨bin, hget, -⟩ := get?_of_keyWhere hbin
    rw [hget, Option.isSome_some]

theorem writes_importBin {row : BinImportRow}
    (himported : importBin readers state row = imported after) : Writes state .bins after := by
  simp only [importBin, skipIf_eq_imported, accept_eq_imported, orSkip_eq_imported,
    orRaise_eq_imported, Option.isNone_iff_eq_none, imported.injEq] at himported
  obtain ⟨-, _, -, _, -, -, -, -, -, bin, -, hcode, rfl⟩ := himported
  exact .bin bin hcode

theorem int4_eq_some {number stored : ℤ} (hstored : int4 number = some stored) :
    stored = number := by
  rw [int4] at hstored
  split at hstored
  · exact (Option.some.inj hstored).symm
  · cases hstored

theorem writes_importPurchaseOrder {row : PurchaseOrderImportRow}
    (himported : importPurchaseOrder readers defaultWarehouseId state row = imported after) :
    Writes state .purchaseOrders after := by
  simp only [importPurchaseOrder, skipIf_eq_imported, accept_eq_imported, orSkip_eq_imported]
    at himported
  obtain ⟨-, _, -, -, itemId, -, -, himported⟩ := himported
  split at himported
  · obtain ⟨_, hnumber, hafter⟩ := orRaise_eq_imported.mp himported
    cases hafter
    cases int4_eq_some hnumber
    exact .purchaseOrderLine state _ _ _ (.inl rfl)
  · obtain ⟨order, -, himported⟩ := orRaise_eq_imported.mp himported
    obtain ⟨hnew, himported⟩ := accept_eq_imported.mp himported
    obtain ⟨_, hnumber, hafter⟩ := orRaise_eq_imported.mp himported
    cases hafter
    cases int4_eq_some hnumber
    exact .purchaseOrderLine _ _ _ _ (.inr ⟨order, Option.isNone_iff_eq_none.mp hnew, rfl⟩)

theorem writes_importSalesOrder {row : SalesOrderImportRow}
    (himported : importSalesOrder readers defaultWarehouseId state row = imported after) :
    Writes state .salesOrders after := by
  simp only [importSalesOrder, skipIf_eq_imported, accept_eq_imported, orSkip_eq_imported]
    at himported
  obtain ⟨-, _, -, -, itemId, -, -, himported⟩ := himported
  split at himported
  · obtain ⟨_, hnumber, hafter⟩ := orRaise_eq_imported.mp himported
    cases hafter
    cases int4_eq_some hnumber
    exact .salesOrderLine state _ _ _ (.inl rfl)
  · obtain ⟨⟨order, parties⟩, -, himported⟩ := orRaise_eq_imported.mp himported
    obtain ⟨hnew, himported⟩ := accept_eq_imported.mp himported
    obtain ⟨_, hnumber, hafter⟩ := orRaise_eq_imported.mp himported
    cases hafter
    cases int4_eq_some hnumber
    exact .salesOrderLine _ _ _ _
      (.inr ⟨order, parties, Option.isNone_iff_eq_none.mp hnew, rfl⟩)

theorem writes_importInventoryAdjustment {row : InventoryAdjustmentImportRow}
    (himported : importInventoryAdjustment state row = imported after) :
    Writes state .inventoryAdjustments after := by
  simp only [importInventoryAdjustment, accept_eq_imported, orSkip_eq_imported] at himported
  obtain ⟨-, itemId, hitem, -, warehouseId, -, -, binId, hbin, himported⟩ := himported
  split at himported
  next hpos =>
    obtain ⟨-, himported⟩ := accept_eq_imported.mp himported
    obtain ⟨reasonDetail, -, hafter⟩ := orRaise_eq_imported.mp himported
    cases hafter
    obtain ⟨item, hget, -⟩ := get?_of_keyWhere hitem
    obtain ⟨bin, hbinRow, hcode⟩ := get?_of_keyWhere hbin
    rw [Bool.and_eq_true, beq_iff_eq] at hcode
    exact .raised ⟨itemId, binId, warehouseId, row.qty, reasonDetail⟩ hpos
      (Option.isSome_iff_exists.mpr ⟨item, hget⟩) ⟨bin, hbinRow, hcode.1⟩
  next hnotPos =>
    have hneg : row.qty < 0 := lt_of_le_of_ne (not_lt.mp hnotPos) row.nonzero
    rw [takeFromBin] at himported
    split at himported
    · exact absurd (skipIf_eq_imported.mp himported).2 nofun
    next inventoryId found hfound =>
      obtain ⟨henough, himported⟩ := skipIf_eq_imported.mp himported
      obtain ⟨reasonDetail, -, hafter⟩ := orRaise_eq_imported.mp himported
      cases hafter
      have hin := List.find?_some hfound
      have hstays := not_lt.mp (of_decide_eq_false henough)
      exact .lowered ⟨itemId, binId, warehouseId, row.qty, reasonDetail⟩ (inventoryId, found)
        hneg (List.mem_of_find?_eq_some hfound) hin (by dsimp only; omega)

theorem writes_of_imported
    (himported : importRecord library readers entityType defaultWarehouseId state record =
      imported after) : Writes state entityType after := by
  cases entityType with
  | items =>
      obtain ⟨row, -, himported⟩ := orReject_eq_imported.mp himported
      exact writes_importItem himported
  | bins =>
      obtain ⟨row, -, himported⟩ := orReject_eq_imported.mp himported
      exact writes_importBin himported
  | purchaseOrders =>
      obtain ⟨row, -, himported⟩ := orReject_eq_imported.mp himported
      exact writes_importPurchaseOrder himported
  | salesOrders =>
      obtain ⟨row, -, himported⟩ := orReject_eq_imported.mp himported
      exact writes_importSalesOrder himported
  | inventoryAdjustments =>
      obtain ⟨row, -, himported⟩ := orReject_eq_imported.mp himported
      exact writes_importInventoryAdjustment himported

end Inversion

/-! ## Runs of imports -/

/-- What a request leaves in the database. -/
def committed (library : Catalog.Library) (readers : Readers) (state : ImportState)
    (file : EntityType × Dict) : ImportState :=
  match csvImport library readers file.1 state file.2 with
  | .complete _ after => after
  | _ => state

def importFiles (library : Catalog.Library) (readers : Readers) (state : ImportState)
    (files : List (EntityType × Dict)) : ImportState :=
  files.foldl (committed library readers) state

theorem csvImport_complete {data : Dict} {answer : ImportAnswer}
    (hcomplete : csvImport library readers entityType state data = .complete answer after) :
    ∃ records progress, (recordsOf entityType data).bind Catalog.iterate = some records ∧
      importRows (importRecord library readers entityType (data.get? "warehouse_id"))
        { state with releasedPairs := [] } records = some progress ∧
      answer.imported = progress.imported ∧ after = releaseImported progress.state := by
  rw [csvImport] at hcomplete
  split at hcomplete
  · cases hcomplete
  next value hvalue =>
    split at hcomplete
    · cases hcomplete
    next records hrecords =>
      split at hcomplete
      · cases hcomplete
      split at hcomplete
      · cases hcomplete
      next progress hprogress =>
        cases hcomplete
        exact ⟨records, progress, by rw [hvalue, Option.bind_some, hrecords], hprogress, rfl, rfl⟩

/-- What the records, the release and the start of an import keep, every run keeps. -/
theorem importFiles_invariant (Inv : ImportState → Prop)
    (hwrites : ∀ {state entityType after}, Writes state entityType after → Inv state → Inv after)
    (hstart : ∀ {state}, Inv state → Inv { state with releasedPairs := [] })
    (hrelease : ∀ {state}, Inv state → Inv (releaseImported state))
    (files : List (EntityType × Dict)) (hstate : Inv state) :
    Inv (importFiles library readers state files) := by
  refine foldl_invariant Inv (fun state file hstate => ?_) files hstate
  rw [committed]
  split
  next answer after hcomplete =>
    obtain ⟨records, progress, -, hrun, -, rfl⟩ := csvImport_complete hcomplete
    exact hrelease (importRows_invariant Inv (fun _ _ => traceless_importRecord file.1)
      (fun himported => hwrites (writes_of_imported himported)) hrun (hstart hstate))
  · exact hstate

theorem releaseImported_eq (state : ImportState) :
    releaseImported state =
      { state with
        stock :=
          { state.stock with
            salesOrders := Store.openOrders { state.stock with bins := state.storeBins }
              state.releasedPairs state.stock.salesOrders } } := by
  have hsorted : ∀ pair, pair ∈ sortedPairs state.releasedPairs ↔ pair ∈ state.releasedPairs :=
    fun pair => (List.perm_insertionSort _ _).mem_iff
  rw [releaseImported, foldl_releaseSatisfiableBackorders ⟨rfl, rfl, rfl⟩,
    openOrders_congr hsorted]

/-! ## Keys and places -/

section Lines

variable {ρ : Type} {lines : Table ρ} {orderOf : ρ → ℕ} {numberOf : ρ → ℤ} {row : ρ}

theorem le_max_getD {numbers : List ℤ} {number : ℤ} (hmem : number ∈ numbers) :
    number ≤ numbers.max?.getD 0 := by
  cases hmax : numbers.max? with
  | none => simp [List.max?_eq_none_iff.mp hmax] at hmem
  | some greatest => exact (List.max?_eq_some_iff.mp hmax).2 number hmem

/-- A line with the number after the greatest of its order is a new one. -/
theorem DistinctOn.insertNumbered
    (hdistinct : DistinctOn lines fun row => (orderOf row, numberOf row))
    (hnumber : numberOf row = ((lines.select fun other => orderOf other == orderOf row).map
      fun entry => numberOf entry.2).max?.getD 0 + 1) :
    DistinctOn (lines.insert row) fun row => (orderOf row, numberOf row) := by
  refine hdistinct.insert fun entry hentry hkey => ?_
  obtain ⟨horder, hsame⟩ := Prod.mk.inj hkey
  have hselected : entry ∈ lines.select fun other => orderOf other == orderOf row :=
    (Table.mem_select _).mpr ⟨hentry, beq_iff_eq.mpr horder⟩
  have hle := le_max_getD (List.mem_map_of_mem (f := fun entry => numberOf entry.2) hselected)
  omega

end Lines

/-- The row counts no less than none of an item that is there, in the warehouse of its bin. -/
def ImportState.Counts (state : ImportState) (row : Inventory) : Prop :=
  0 ≤ row.quantityOnHand ∧ (state.items.get? row.itemId).isSome ∧
    ∃ bin, state.bins.get? row.binId = some bin ∧ bin.warehouseId = row.warehouseId

/-- Keys are unique, and so is the item, bin and lot that a row counts. -/
structure Consistent (state : ImportState) : Prop where
  skus : DistinctOn state.items ItemRow.sku
  binCodes : DistinctOn state.bins fun row => (row.warehouseId, row.binCode)
  poNumbers : DistinctOn state.purchaseOrders PurchaseOrderRow.poNumber
  soNumbers : DistinctOn state.stock.salesOrders SalesOrder.soNumber
  poLines : DistinctOn state.stock.purchaseOrderLines fun line => (line.poId, line.lineNumber)
  soLines : DistinctOn state.stock.salesOrderLines fun line => (line.soId, line.lineNumber)
  lots : DistinctOn state.stock.inventory fun row => (row.itemId, row.binId, row.lotNumber)
  counts : ∀ entry ∈ state.stock.inventory.entries, state.Counts entry.2

namespace Consistent

theorem stockNewItem {itemId : ℕ} {defaultBinId : Option ℕ} {quantity : ℤ}
    (hstate : Consistent state) (hitem : (state.items.get? itemId).isSome)
    (hbin : ∀ binId, defaultBinId = some binId → (state.bins.get? binId).isSome)
    (hnew : ∀ entry ∈ state.stock.inventory.entries, entry.2.itemId ≠ itemId) :
    Consistent (CsvImport.stockNewItem state itemId defaultBinId quantity) := by
  cases defaultBinId with
  | none => exact hstate
  | some binId =>
    rw [CsvImport.stockNewItem]
    split
    next hpos =>
      obtain ⟨bin, hget⟩ := Option.isSome_iff_exists.mp (hbin binId rfl)
      refine
        { hstate with
          lots := hstate.lots.insert fun entry hentry hkey =>
            hnew entry hentry (Prod.mk.inj hkey).1
          counts := ?_ }
      intro entry hentry
      rcases (Table.mem_insert _).mp hentry with hold | rfl
      · exact hstate.counts entry hold
      · exact ⟨hpos.le, hitem, bin, hget, by rw [hget]; rfl⟩
    · exact hstate

theorem item {row : ItemRow} {quantity : ℤ} (hstate : Consistent state)
    (hsku : state.hasSku row.sku = false)
    (hbin : ∀ binId, row.defaultBinId = some binId → (state.bins.get? binId).isSome) :
    Consistent (CsvImport.stockNewItem { state with items := state.items.insert row }
      state.items.next row.defaultBinId quantity) := by
  have hinserted : Consistent { state with items := state.items.insert row } :=
    { hstate with
      skus := hstate.skus.insert fun entry hentry hkey => by
        have hnone := Option.isSome_eq_false_iff.mp hsku
        simpa [hkey] using keyWhere_eq_none.mp (Option.isNone_iff_eq_none.mp hnone) entry hentry
      counts := fun entry hentry =>
        have ⟨hquantity, hitem, hplace⟩ := hstate.counts entry hentry
        have ⟨_, hget⟩ := Option.isSome_iff_exists.mp hitem
        ⟨hquantity, Option.isSome_iff_exists.mpr ⟨_, get?_insert_of_some hget⟩, hplace⟩ }
  refine hinserted.stockNewItem ?_ hbin fun entry hentry hitem => ?_
  · exact Option.isSome_iff_exists.mpr ⟨row, Table.get?_insert_self _ row⟩
  · obtain ⟨found, hget⟩ := Option.isSome_iff_exists.mp (hstate.counts entry hentry).2.1
    rw [hitem] at hget
    exact Table.next_not_mem _ _ ((Table.get?_eq_some _).mp hget)

theorem bin {row : BinRow} (hstate : Consistent state)
    (hcode : state.binIn row.warehouseId row.binCode = none) :
    Consistent { state with bins := state.bins.insert row } :=
  { hstate with
    binCodes := hstate.binCodes.insert fun entry hentry hkey => by
      obtain ⟨hwarehouse, hsame⟩ := Prod.mk.inj hkey
      simpa [hwarehouse, hsame] using keyWhere_eq_none.mp hcode entry hentry
    counts := fun entry hentry =>
      have ⟨hquantity, hitem, _, hget, hwarehouse⟩ := hstate.counts entry hentry
      ⟨hquantity, hitem, _, get?_insert_of_some hget, hwarehouse⟩ }

theorem raised {itemId binId warehouseId : ℕ} {quantity : ℤ} {pairs : List (ℕ × ℕ)}
    {adjustments : Table AdjustmentRow} (hstate : Consistent state) (hpos : 0 < quantity)
    (hitem : (state.items.get? itemId).isSome)
    (hbin : ∃ bin, state.bins.get? binId = some bin ∧ bin.warehouseId = warehouseId) :
    Consistent
      { state with
        stock := (addInventory state.stock itemId binId warehouseId quantity none).1
        releasedPairs := pairs, adjustments } := by
  rw [addInventory]
  cases hfind : state.stock.findLot itemId binId none with
  | some found =>
      refine
        { hstate with
          lots := hstate.lots.mapRows fun key row => by split <;> rfl
          counts := fun entry hentry => ?_ }
      obtain ⟨before, hbefore, hrow⟩ := (Table.mem_modify _).mp hentry
      obtain ⟨hquantity, hplace⟩ := hstate.counts _ hbefore
      split at hrow
      · exact hrow ▸ ⟨by dsimp only at hquantity ⊢; omega, hplace⟩
      · exact hrow ▸ ⟨hquantity, hplace⟩
  | none =>
      refine
        { hstate with
          lots := hstate.lots.insert fun entry hentry hkey => ?_
          counts := fun entry hentry => ?_ }
      · obtain ⟨hitem, hbin, hlot⟩ : _ ∧ _ ∧ _ := by simpa using hkey
        simpa [Inventory.inBin, hitem, hbin, hlot] using List.find?_eq_none.mp hfind entry hentry
      · rcases (Table.mem_insert _).mp hentry with hold | rfl
        · exact hstate.counts entry hold
        · exact ⟨hpos.le, hitem, hbin⟩

theorem lowered {inventoryId : ℕ} {quantity : ℤ} {adjustments : Table AdjustmentRow}
    (hstate : Consistent state) (henough : 0 ≤ quantity) :
    Consistent
      { state with
        stock := setInventoryQuantity state.stock inventoryId quantity, adjustments } := by
  refine
    { hstate with
      lots := hstate.lots.mapRows fun key row => by split <;> rfl
      counts := fun entry hentry => ?_ }
  obtain ⟨before, hbefore, hrow⟩ := (Table.mem_modify _).mp hentry
  obtain ⟨hquantity, hplace⟩ := hstate.counts _ hbefore
  split at hrow
  · exact hrow ▸ ⟨henough, hplace⟩
  · exact hrow ▸ ⟨hquantity, hplace⟩

/-- Every way of writing keeps the tables consistent. -/
theorem writes (hwrites : Writes state entityType after) (hstate : Consistent state) :
    Consistent after := by
  cases hwrites with
  | item row quantity hsku hbin => exact hstate.item hsku hbin
  | bin row hcode => exact hstate.bin hcode
  | purchaseOrderLine opened poId itemId quantity hopened =>
      have hheader : Consistent opened := by
        rcases hopened with rfl | ⟨order, hnew, rfl⟩
        · exact hstate
        · exact
            { hstate with
              poNumbers := hstate.poNumbers.insert fun entry hentry hkey => by
                simpa [hkey] using keyWhere_eq_none.mp hnew entry hentry }
      exact { hheader with poLines := hheader.poLines.insertNumbered rfl }
  | salesOrderLine opened soId itemId quantity hopened =>
      have hheader : Consistent opened := by
        rcases hopened with rfl | ⟨order, parties, hnew, rfl⟩
        · exact hstate
        · exact
            { hstate with
              soNumbers := hstate.soNumbers.insert fun entry hentry hkey => by
                simpa [hkey] using keyWhere_eq_none.mp hnew entry hentry }
      exact { hheader with soLines := hheader.soLines.insertNumbered rfl }
  | raised added hpos hitem hbin => exact hstate.raised hpos hitem hbin
  | lowered added entry hneg hentry hin henough => exact hstate.lowered henough

end Consistent

/-- Every run of imports, complete or not, keeps the tables consistent. -/
theorem consistent_importFiles (files : List (EntityType × Dict)) (hstate : Consistent state) :
    Consistent (importFiles library readers state files) := by
  refine importFiles_invariant Consistent Consistent.writes (fun hstate => { hstate with }) ?_
    files hstate
  intro state hstate
  rw [releaseImported_eq]
  exact
    { hstate with
      soNumbers := hstate.soNumbers.mapRows fun soId order => by split <;> rfl }

/-- A bin with an item that an order waits for. -/
def shelfState : ImportState where
  stock :=
    { warehouses := .ofRows [⟨"MAIN", true⟩]
      salesOrders := .ofRows [waitingSale "SO-1"]
      salesOrderLines := .ofRows [oneWanted 1] }
  items := .ofRows [⟨"BRAKE-1", "Brake pad", none, none, none, none, none, none⟩]
  bins := .ofRows
    [⟨1, 1, "A-1", "A-1", "Pickable", none, none, none, none, 0, 0, none⟩]

def adjustmentBody (quantities : List ℤ) : Dict :=
  importBody (quantities.map fun quantity => .object
    [("sku", .text "BRAKE-1"), ("warehouse", .text "MAIN"), ("bin", .text "A-1"),
      ("qty", .int quantity)])

/-- Three units come and two go; then the item is uploaded once more, among others. -/
def shelfFiles : List (EntityType × Dict) :=
  [(.inventoryAdjustments, adjustmentBody [3, -2]), (.items, importBody brakeRecords)]

theorem consistent_importFiles_shelf :
    Consistent shelfState ∧
      Consistent (importFiles Catalog.plainLibrary plainReaders shelfState shelfFiles) := by
  have hshelf : Consistent shelfState :=
    { skus := by decide, binCodes := by decide, poNumbers := by decide, soNumbers := by decide,
      poLines := by decide, soLines := by decide, lots := by decide, counts := nofun }
  exact ⟨hshelf, consistent_importFiles shelfFiles hshelf⟩

/-! ## Stock and adjustments -/

/-- What the adjustments on record change of an item in a bin. -/
def ImportState.adjusted (state : ImportState) (itemId binId : ℕ) : ℤ :=
  state.adjustments.total fun _ row =>
    if row.itemId = itemId ∧ row.binId = binId then row.quantityChange else 0

/-- What a bin holds beside its adjustments. -/
def ImportState.unadjusted (state : ImportState) (itemId binId : ℕ) : ℤ :=
  state.stock.binOnHand itemId binId - state.adjusted itemId binId

theorem unadjusted_of_changes {stock : Store} {added : AdjustmentRow} (pairs : List (ℕ × ℕ))
    (hchanges : Changes state.stock added.itemId added.binId added.quantityChange stock)
    (itemId binId : ℕ) :
    ImportState.unadjusted
        { state with
          stock, releasedPairs := pairs, adjustments := state.adjustments.insert added }
        itemId binId = state.unadjusted itemId binId := by
  simp only [ImportState.unadjusted, ImportState.adjusted, Table.total_insert]
  by_cases hplace : added.itemId = itemId ∧ added.binId = binId
  · obtain ⟨rfl, rfl⟩ := hplace
    rw [hchanges.binOnHand, if_pos ⟨rfl, rfl⟩]
    ring
  · have hother : itemId ≠ added.itemId ∨ binId ≠ added.binId := by omega
    rw [binOnHand_eq_sum, binOnHand_eq_sum, hchanges.elsewhere hother, if_neg hplace, add_zero]

/-- A record of any kind leaves an item that is there its stock beside the adjustments. -/
theorem Writes.unadjusted (hwrites : Writes state entityType after) {itemId : ℕ}
    (hitem : itemId < state.items.next) (binId : ℕ) :
    itemId < after.items.next ∧ after.unadjusted itemId binId = state.unadjusted itemId binId := by
  cases hwrites with
  | item row quantity hsku hbin =>
      cases hdefault : row.defaultBinId with
      | none => exact ⟨hitem.trans (Nat.lt_succ_self _), rfl⟩
      | some binId' =>
        rw [stockNewItem]
        split
        · refine ⟨hitem.trans (Nat.lt_succ_self _), ?_⟩
          rw [ImportState.unadjusted, Store.binOnHand, Store.stock, Table.total_insert, if_neg,
            add_zero]
          · rfl
          · exact fun hin => hitem.ne (inBin_iff.mp hin).1.symm
        · exact ⟨hitem.trans (Nat.lt_succ_self _), rfl⟩
  | bin row hcode => exact ⟨hitem, rfl⟩
  | purchaseOrderLine opened poId itemId quantity hopened =>
      rcases hopened with rfl | ⟨order, -, rfl⟩ <;> exact ⟨hitem, rfl⟩
  | salesOrderLine opened soId itemId quantity hopened =>
      rcases hopened with rfl | ⟨order, parties, -, rfl⟩ <;> exact ⟨hitem, rfl⟩
  | raised added hpos _ hbin =>
      exact ⟨hitem, unadjusted_of_changes _ (addInventory_changes _ _ _ _ hpos) _ _⟩
  | lowered added entry hneg hentry hin henough =>
      refine ⟨hitem, unadjusted_of_changes state.releasedPairs (.modified entry
        (fun row => { row with
          quantityOnHand := entry.2.quantityOnHand + added.quantityChange
          updatedAt := state.stock.now })
        (mem_binRows.mpr ⟨hentry, hin⟩) rfl (fun _ _ _ => rfl) rfl
        fun hpos => absurd hpos hneg.not_gt) _ _⟩

/-- Over every run of imports, what a bin holds of an item that is there changes by the
adjustments put on record. -/
theorem onHand_importFiles (files : List (EntityType × Dict)) {itemId : ℕ}
    (hitem : itemId < state.items.next) (binId : ℕ) :
    (importFiles library readers state files).stock.binOnHand itemId binId -
        state.stock.binOnHand itemId binId =
      (importFiles library readers state files).adjusted itemId binId -
        state.adjusted itemId binId := by
  have hsame : (importFiles library readers state files).unadjusted itemId binId =
      state.unadjusted itemId binId :=
    (importFiles_invariant
      (fun after => itemId < after.items.next ∧
        after.unadjusted itemId binId = state.unadjusted itemId binId)
      (fun hwrites hafter => ⟨(hwrites.unadjusted hafter.1 binId).1,
        (hwrites.unadjusted hafter.1 binId).2.trans hafter.2⟩)
      id id files ⟨hitem, rfl⟩).2
  rw [ImportState.unadjusted, ImportState.unadjusted] at hsame
  omega

theorem onHand_importFiles_shelf :
    1 < shelfState.items.next ∧
      (importFiles Catalog.plainLibrary plainReaders shelfState shelfFiles).stock.binOnHand 1 1 -
          shelfState.stock.binOnHand 1 1 =
        (importFiles Catalog.plainLibrary plainReaders shelfState shelfFiles).adjusted 1 1 -
          shelfState.adjusted 1 1 :=
  ⟨by decide, onHand_importFiles shelfFiles (by decide) 1⟩

/-! ## Orders that are released -/

/-- The pairs of which an import has put more in stock. -/
def raisedPairs (state after : ImportState) : List (ℕ × ℕ) :=
  ((after.adjustments.entries.drop state.adjustments.entries.length).filter fun entry =>
    decide (0 < entry.2.quantityChange)).map fun entry => (entry.2.warehouseId, entry.2.itemId)

/-- The records so far have added these adjustments, and the pairs are those that they raise. -/
def RaisedSince (state after : ImportState) : Prop :=
  after.stock.salesOrders = state.stock.salesOrders ∧
    ∃ added, after.adjustments.entries = state.adjustments.entries ++ added ∧
      ∀ pair, pair ∈ after.releasedPairs ↔ ∃ entry ∈ added,
        0 < entry.2.quantityChange ∧ (entry.2.warehouseId, entry.2.itemId) = pair

theorem RaisedSince.writes {first : ImportState}
    (hwrites : Writes state .inventoryAdjustments after) (hstate : RaisedSince first state) :
    RaisedSince first after := by
  obtain ⟨horders, added, hadded, hpairs⟩ := hstate
  cases hwrites with
  | raised row hpos hitem hbin =>
      obtain ⟨inventory, hstock⟩ := addInventory_spec state.stock row.itemId row.binId
        row.warehouseId row.quantityChange none
      refine ⟨hstock ▸ horders, added ++ [(state.adjustments.next, row)], ?_, fun pair => ?_⟩
      · rw [← List.append_assoc, ← hadded]
        rfl
      · rw [List.mem_insert_iff, hpairs]
        simp [or_and_right, exists_or, hpos, eq_comm, or_comm]
  | lowered row entry hneg hentry hin henough =>
      refine ⟨horders, added ++ [(state.adjustments.next, row)], ?_, fun pair => ?_⟩
      · rw [← List.append_assoc, ← hadded]
        rfl
      · rw [hpairs]
        simp [or_and_right, exists_or, hneg.not_gt]

/-- After a complete import of adjustments, the orders that waited for an item that it has added
to their warehouse are open where every line of theirs can be picked there; no other order is
changed. -/
theorem salesOrders_of_adjustments {data : Dict} {answer : ImportAnswer}
    (hcomplete : csvImport library readers .inventoryAdjustments state data =
      .complete answer after) :
    after.stock.salesOrders =
      Store.openOrders { after.stock with bins := after.storeBins } (raisedPairs state after)
        state.stock.salesOrders := by
  obtain ⟨records, progress, -, hrun, -, rfl⟩ := csvImport_complete hcomplete
  obtain ⟨horders, added, hadded, hpairs⟩ :=
    importRows_invariant (RaisedSince state)
      (fun _ _ => traceless_importRecord .inventoryAdjustments)
      (fun himported => RaisedSince.writes (writes_of_imported himported)) hrun
      ⟨rfl, [], (List.append_nil _).symm, by simp⟩
  have hsame : Store.SamePicks { progress.state.stock with bins := progress.state.storeBins }
      { (releaseImported progress.state).stock with
        bins := (releaseImported progress.state).storeBins } := ⟨rfl, rfl, rfl⟩
  have hraised : ∀ pair, pair ∈ progress.state.releasedPairs ↔
      pair ∈ raisedPairs state (releaseImported progress.state) := by
    intro pair
    rw [hpairs, raisedPairs, releaseImported_eq, hadded, List.drop_left]
    simp [and_assoc]
  rw [hsame.openOrders, ← openOrders_congr hraised, ← horders, releaseImported_eq]

theorem salesOrders_of_adjustments_shelf :
    ∃ answer after, csvImport Catalog.plainLibrary plainReaders .inventoryAdjustments shelfState
        (adjustmentBody [3, -2]) = .complete answer after ∧
      after.stock.salesOrders =
        Store.openOrders { after.stock with bins := after.storeBins }
          (raisedPairs shelfState after) shelfState.stock.salesOrders := by
  obtain ⟨answer, after, hcomplete⟩ : ∃ answer after,
      csvImport Catalog.plainLibrary plainReaders .inventoryAdjustments shelfState
        (adjustmentBody [3, -2]) = .complete answer after := ⟨_, _, rfl⟩
  exact ⟨answer, after, hcomplete, salesOrders_of_adjustments hcomplete⟩

end SentryWms.CsvImport
