import SentryWms.Admin.CsvImport

/-!
# When a bad row spoils a CSV import

A record that is skipped leaves no trace, since every check of the five importers comes before
their first write. A record that meets its schema may still hold a value that the database does
not take; then nothing of the file is imported. The file goes through as it should exactly when
none of its records is of this kind.
-/

namespace SentryWms.CsvImport

open Python Relational Postgres RowImport RowImport.RowResult

variable {library : Catalog.Library} {readers : Readers} {state : ImportState}
  {defaultWarehouseId : Option Value} {record : Value}

/-! ## Records that are skipped -/

theorem traceless_importItem {row : ItemImportRow} :
    Traceless state (importItem readers state row) := by
  unfold importItem
  exact .skipIf <| .accept <| .skipIf <| .accept <| .skipIf <| .accept <|
    .orRaise fun _ => .accept <| traceless_imported _

theorem traceless_importBin {row : BinImportRow} :
    Traceless state (importBin readers state row) := by
  unfold importBin
  exact .accept <| .orSkip fun _ => .orSkip fun _ => .skipIf <| .skipIf <| .accept <|
    .skipIf <| .orRaise fun _ => .accept <| traceless_imported _

variable {itemId : ℕ} {quantity : ℤ}

/-- A line is added without any further check. -/
theorem traceless_addPoLine {after : ImportState} {poId : ℕ} :
    Traceless state (addPoLine after poId itemId quantity) :=
  .orRaise fun _ => traceless_imported _

theorem traceless_addSoLine {after : ImportState} {soId : ℕ} :
    Traceless state (addSoLine after soId itemId quantity) :=
  .orRaise fun _ => traceless_imported _

theorem traceless_importPurchaseOrder {row : PurchaseOrderImportRow} :
    Traceless state (importPurchaseOrder readers defaultWarehouseId state row) := by
  unfold importPurchaseOrder
  refine .skipIf <| .orSkip fun _ => .accept <| .orSkip fun _ => .accept ?_
  split
  · exact traceless_addPoLine
  · exact .orRaise fun _ => .accept traceless_addPoLine

theorem traceless_importSalesOrder {row : SalesOrderImportRow} :
    Traceless state (importSalesOrder readers defaultWarehouseId state row) := by
  unfold importSalesOrder
  refine .skipIf <| .orSkip fun _ => .accept <| .orSkip fun _ => .accept ?_
  split
  · exact traceless_addSoLine
  · exact .orRaise fun _ => .accept traceless_addSoLine

variable {binId warehouseId : ℕ} {row : InventoryAdjustmentImportRow}

theorem traceless_addToBin :
    Traceless state (addToBin state itemId binId warehouseId row) :=
  .accept <| .orRaise fun _ => traceless_imported _

theorem traceless_takeFromBin :
    Traceless state (takeFromBin state itemId binId warehouseId row) := by
  unfold takeFromBin
  split
  · exact .skipIf traceless_raised
  · exact .skipIf <| .orRaise fun _ => traceless_imported _

theorem traceless_importInventoryAdjustment :
    Traceless state (importInventoryAdjustment state row) := by
  unfold importInventoryAdjustment
  refine .accept <| .orSkip fun _ => .accept <| .orSkip fun _ => .accept <| .orSkip fun _ => ?_
  split
  · exact traceless_addToBin
  · exact traceless_takeFromBin

theorem traceless_importRecord (entityType : EntityType) :
    Traceless state (importRecord library readers entityType defaultWarehouseId state record) := by
  cases entityType with
  | items => exact .orReject fun _ => traceless_importItem
  | bins => exact .orReject fun _ => traceless_importBin
  | purchaseOrders => exact .orReject fun _ => traceless_importPurchaseOrder
  | salesOrders => exact .orReject fun _ => traceless_importSalesOrder
  | inventoryAdjustments => exact .orReject fun _ => traceless_importInventoryAdjustment

/-! ## Records that the database refuses -/

/-- A new item whose values cannot be compared or stored, or whose SKU is taken once the blanks
beyond the column are cut off. -/
def ItemImportRow.Refused (readers : Readers) (state : ImportState) (row : ItemImportRow) :
    Prop :=
  let name := row.resolvedName.getD ""
  let upc := row.upc.getD ""
  let defaultBin := row.defaultBin.getD ""
  name ≠ "" ∧
    (plain row.sku = false ∨ state.hasSku row.sku = false ∧
      (plain upc = false ∨ state.hasUpc upc = false ∧
        (plain defaultBin = false ∨
          ∀ item, itemRow readers row name (state.defaultBinOf defaultBin) = some item →
            state.hasSku item.sku = true)))

theorem importItem_eq_raised_iff {row : ItemImportRow} :
    importItem readers state row = raised ↔ row.Refused readers state := by
  simp [importItem, ItemImportRow.Refused]

/-- A new bin of a zone that is there whose values cannot be compared or stored, or whose code
is taken once the blanks beyond the column are cut off. -/
def BinImportRow.Refused (readers : Readers) (state : ImportState) (row : BinImportRow) : Prop :=
  let zoneValue := Catalog.cleaned (row.zone.getD "")
  let warehouseId := row.warehouseId.getD 0
  row.zoneId.getD 0 = 0 ∧ plain zoneValue = false ∨
    ∃ zoneId, zoneIdOf readers state row zoneValue = some zoneId ∧
      ∃ zone, rowAt state.zones zoneId = some zone ∧
        (warehouseId ≠ 0 → warehouseId = zone.warehouseId) ∧
        (state.stock.warehouses.get? zone.warehouseId).isSome ∧
        (plain row.binCode = false ∨ state.binIn zone.warehouseId row.binCode = none ∧
          ∀ bin, binRow row zoneId.toNat zone.warehouseId = some bin →
            (state.binIn bin.warehouseId bin.binCode).isSome)

theorem importBin_eq_raised_iff {row : BinImportRow} :
    importBin readers state row = raised ↔ row.Refused readers state := by
  simp [importBin, BinImportRow.Refused]

theorem addPoLine_eq_raised_iff {poId : ℕ} :
    addPoLine state poId itemId quantity = raised ↔ int4 (state.maxPoLine poId + 1) = none := by
  simp [addPoLine, Option.eq_none_iff_forall_ne_some]

theorem addSoLine_eq_raised_iff {soId : ℕ} :
    addSoLine state soId itemId quantity = raised ↔ int4 (state.maxSoLine soId + 1) = none := by
  simp [addSoLine, Option.eq_none_iff_forall_ne_some]

/-- A line of an item that is there, of which a value cannot be compared, or which has no line
number left. The first record of an order writes the order, too. -/
def PurchaseOrderImportRow.Refused (readers : Readers) (defaultWarehouseId : Option Value)
    (state : ImportState) (row : PurchaseOrderImportRow) : Prop :=
  0 < row.resolvedQuantity.getD 0 ∧
    ∃ warehouse, warehouseValue row.warehouseId defaultWarehouseId = some warehouse ∧
      (plain row.sku = false ∨ (∃ itemId, state.itemOfSku row.sku = some itemId) ∧
        (plain row.poNumber = false ∨
          match state.poOfNumber row.poNumber with
          | some poId => int4 (state.maxPoLine poId + 1) = none
          | none =>
              ∀ order, purchaseOrderRow readers state row warehouse = some order →
                (state.poOfNumber order.poNumber).isSome ∨
                  int4 (state.maxPoLine state.purchaseOrders.next + 1) = none))

theorem importPurchaseOrder_eq_raised_iff {row : PurchaseOrderImportRow} :
    importPurchaseOrder readers defaultWarehouseId state row = raised ↔
      row.Refused readers defaultWarehouseId state := by
  cases horder : state.poOfNumber row.poNumber with
  | none =>
      simp [importPurchaseOrder, PurchaseOrderImportRow.Refused, horder, addPoLine_eq_raised_iff,
        ImportState.maxPoLine]
  | some poId =>
      simp [importPurchaseOrder, PurchaseOrderImportRow.Refused, horder, addPoLine_eq_raised_iff]

def SalesOrderImportRow.Refused (readers : Readers) (defaultWarehouseId : Option Value)
    (state : ImportState) (row : SalesOrderImportRow) : Prop :=
  0 < row.resolvedQuantity.getD 0 ∧
    ∃ warehouse, warehouseValue row.warehouseId defaultWarehouseId = some warehouse ∧
      (plain row.sku = false ∨ (∃ itemId, state.itemOfSku row.sku = some itemId) ∧
        (plain row.soNumber = false ∨
          match state.soOfNumber row.soNumber with
          | some soId => int4 (state.maxSoLine soId + 1) = none
          | none =>
              ∀ columns, salesOrderRow readers state row warehouse = some columns →
                (state.soOfNumber columns.1.soNumber).isSome ∨
                  int4 (state.maxSoLine state.stock.salesOrders.next + 1) = none))

theorem importSalesOrder_eq_raised_iff {row : SalesOrderImportRow} :
    importSalesOrder readers defaultWarehouseId state row = raised ↔
      row.Refused readers defaultWarehouseId state := by
  cases horder : state.soOfNumber row.soNumber with
  | none =>
      simp [importSalesOrder, SalesOrderImportRow.Refused, horder, addSoLine_eq_raised_iff,
        ImportState.maxSoLine, insertSalesOrder]
  | some soId =>
      simp [importSalesOrder, SalesOrderImportRow.Refused, horder, addSoLine_eq_raised_iff]

theorem recordAdjustment_eq_raised_iff :
    recordAdjustment state itemId binId warehouseId row = raised ↔
      nullable 500 row.memo = none := by
  simp [recordAdjustment, Option.eq_none_iff_forall_ne_some]

theorem addToBin_eq_raised_iff :
    addToBin state itemId binId warehouseId row = raised ↔
      int4 (addInventory state.stock itemId binId warehouseId row.qty none).2 = none ∨
        nullable 500 row.memo = none := by
  simp [addToBin, recordAdjustment_eq_raised_iff]

theorem takeFromBin_eq_raised_iff (hneg : row.qty < 0) :
    takeFromBin state itemId binId warehouseId row = raised ↔
      ∃ entry, state.stockIn itemId binId = some entry ∧
        -row.qty ≤ entry.2.quantityOnHand ∧ nullable 500 row.memo = none := by
  cases hentry : state.stockIn itemId binId with
  | none => simp [takeFromBin, hentry, hneg]
  | some entry => simp [takeFromBin, hentry, recordAdjustment_eq_raised_iff]

/-- A change of stock that is there to be made, where a name cannot be compared, the memo cannot
be stored, or the new quantity exceeds the column. -/
def InventoryAdjustmentImportRow.Refused (state : ImportState)
    (row : InventoryAdjustmentImportRow) : Prop :=
  plain row.sku = false ∨ ∃ itemId, state.itemOfSku row.sku = some itemId ∧
    (plain row.warehouse = false ∨ ∃ warehouseId,
      state.warehouseOfCode row.warehouse = some warehouseId ∧
      (plain row.bin = false ∨ ∃ binId, state.binIn warehouseId row.bin = some binId ∧
        if 0 < row.qty then
          int4 (addInventory state.stock itemId binId warehouseId row.qty none).2 = none ∨
            nullable 500 row.memo = none
        else
          ∃ entry, state.stockIn itemId binId = some entry ∧
            -row.qty ≤ entry.2.quantityOnHand ∧ nullable 500 row.memo = none))

theorem importInventoryAdjustment_eq_raised_iff :
    importInventoryAdjustment state row = raised ↔ row.Refused state := by
  by_cases hpos : 0 < row.qty
  · simp [importInventoryAdjustment, InventoryAdjustmentImportRow.Refused, hpos,
      addToBin_eq_raised_iff]
  · have hneg : row.qty < 0 := lt_of_le_of_ne (not_lt.mp hpos) row.nonzero
    simp [importInventoryAdjustment, InventoryAdjustmentImportRow.Refused, hpos,
      takeFromBin_eq_raised_iff hneg]

/-- A record that meets its schema and is refused all the same. -/
def Refused (library : Catalog.Library) (readers : Readers) (entityType : EntityType)
    (defaultWarehouseId : Option Value) (state : ImportState) (record : Value) : Prop :=
  match entityType with
  | .items => ∃ row, itemImportRow library readers record = .ok row ∧ row.Refused readers state
  | .bins => ∃ row, binImportRow library readers record = .ok row ∧ row.Refused readers state
  | .purchaseOrders =>
      ∃ row, purchaseOrderImportRow library readers record = .ok row ∧
        row.Refused readers defaultWarehouseId state
  | .salesOrders =>
      ∃ row, salesOrderImportRow library readers record = .ok row ∧
        row.Refused readers defaultWarehouseId state
  | .inventoryAdjustments =>
      ∃ row, inventoryAdjustmentImportRow library readers record = .ok row ∧ row.Refused state

theorem importRecord_eq_raised_iff (entityType : EntityType) :
    importRecord library readers entityType defaultWarehouseId state record = raised ↔
      Refused library readers entityType defaultWarehouseId state record := by
  cases entityType with
  | items => simp [importRecord, Refused, importItem_eq_raised_iff]
  | bins => simp [importRecord, Refused, importBin_eq_raised_iff]
  | purchaseOrders => simp [importRecord, Refused, importPurchaseOrder_eq_raised_iff]
  | salesOrders => simp [importRecord, Refused, importSalesOrder_eq_raised_iff]
  | inventoryAdjustments =>
      simp [importRecord, Refused, importInventoryAdjustment_eq_raised_iff]

/-! ## Files -/

/-- The import is complete, with a count and an error for every record that is not imported, and
it commits what the imported records alone give in the order of the file. -/
def RowsStandAlone (library : Catalog.Library) (readers : Readers) (entityType : EntityType)
    (state : ImportState) (data : Dict) (records : List Value) : Prop :=
  ∃ progress : Progress ImportState,
    csvImport library readers entityType state data =
      .complete
        { total := records.length, imported := progress.imported,
          skipped := progress.errors.length, errors := progress.errors }
        (releaseImported progress.state) ∧
    Isolated (importRecord library readers entityType (data.get? "warehouse_id"))
      { state with releasedPairs := [] } records progress

theorem csvImport_eq {entityType : EntityType} {data : Dict} {records : List Value}
    (hrecords : recordsOf entityType data = some (.list records))
    (hlength : records.length ≤ 5000) :
    csvImport library readers entityType state data =
      match importRows (importRecord library readers entityType (data.get? "warehouse_id"))
          { state with releasedPairs := [] } records with
      | none => .failed
      | some progress =>
          .complete
            { total := records.length, imported := progress.imported,
              skipped := progress.errors.length, errors := progress.errors }
            (releaseImported progress.state) := by
  rw [csvImport, hrecords]
  exact if_neg (not_lt.mpr hlength)

/-- The records of a file stand alone exactly when the database refuses none of them in the
state that the records before it leave. -/
theorem rowsStandAlone_iff {entityType : EntityType} {data : Dict} {records : List Value}
    (hrecords : recordsOf entityType data = some (.list records))
    (hlength : records.length ≤ 5000) :
    RowsStandAlone library readers entityType state data records ↔
      NoneRefused (importRecord library readers entityType (data.get? "warehouse_id"))
        (Refused library readers entityType (data.get? "warehouse_id"))
        { state with releasedPairs := [] } records := by
  rw [← importRows_isSome_iff fun state record => importRecord_eq_raised_iff entityType,
    RowsStandAlone, csvImport_eq hrecords hlength]
  constructor
  · rintro ⟨progress, hcomplete, -⟩
    split at hcomplete
    · cases hcomplete
    · next himport => rw [himport, Option.isSome_some]
  · intro hsome
    obtain ⟨progress, himport⟩ := Option.isSome_iff_exists.mp hsome
    refine ⟨progress, ?_, importRows_isolated (fun _ _ => traceless_importRecord entityType)
      himport⟩
    rw [himport]

/-! ### Two files -/

/-- Readers that take integers as they are. -/
def plainReaders : Readers where
  intOf
    | .int number => .ok number
    | _ => .error "Input should be a valid integer"
  decimalOf
    | .int number => .ok number
    | _ => .error "Input should be a valid decimal"
  lower content := content
  dateOf content := some content
  weightOf weight := weight
  columnInt _ := none

def itemRecord (sku name : String) : Value :=
  .object [("sku", .text sku), ("name", .text name)]

def importBody (records : List Value) : Dict :=
  [("records", .list records)]

/-- A new item, one without a name, and the first one again. -/
def brakeRecords : List Value :=
  [itemRecord "BRAKE-1" "Brake pad", itemRecord "BRAKE-2" "", itemRecord "BRAKE-1" "Brake disc"]

theorem rowsStandAlone_brakes :
    recordsOf .items (importBody brakeRecords) = some (.list brakeRecords) ∧
      brakeRecords.length ≤ 5000 ∧
      RowsStandAlone Catalog.plainLibrary plainReaders .items {} (importBody brakeRecords)
        brakeRecords := by
  refine ⟨rfl, by decide, (rowsStandAlone_iff rfl (by decide)).mpr ?_⟩
  exact (importRows_isSome_iff fun _ _ => importRecord_eq_raised_iff .items).mp (by decide)

/-- A new item, and one whose SKU the schema lets through and the column does not hold. -/
def longRecords : List Value :=
  [itemRecord "BRAKE-1" "Brake pad",
    itemRecord (String.ofList (List.replicate 51 'A')) "Brake disc"]

theorem longSku_spoils :
    recordsOf .items (importBody longRecords) = some (.list longRecords) ∧
      longRecords.length ≤ 5000 ∧
      (∀ record ∈ longRecords, ∃ row,
        itemImportRow Catalog.plainLibrary plainReaders record = .ok row) ∧
      csvImport Catalog.plainLibrary plainReaders .items {} (importBody longRecords) = .failed ∧
      ¬ RowsStandAlone Catalog.plainLibrary plainReaders .items {} (importBody longRecords)
        longRecords := by
  have hfailed : csvImport Catalog.plainLibrary plainReaders .items {}
      (importBody longRecords) = .failed := rfl
  have hread : ∀ record ∈ longRecords, ∃ row,
      itemImportRow Catalog.plainLibrary plainReaders record = .ok row := by
    intro record hrecord
    rcases List.mem_pair.mp hrecord with rfl | rfl
    · exact ⟨_, rfl⟩
    · exact ⟨_, rfl⟩
  refine ⟨rfl, by decide, hread, hfailed, ?_⟩
  rintro ⟨progress, hcomplete, -⟩
  rw [hfailed] at hcomplete
  cases hcomplete

end SentryWms.CsvImport
