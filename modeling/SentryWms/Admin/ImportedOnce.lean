import SentryWms.Admin.ImportRuns

/-!
# Importing a file again

Items and bins are never deleted or renamed by an import, so a row of either that has been gone
through once is a duplicate, or is wrong, ever after. A file that was uploaded completely can be
uploaded again at any later time without effect.
-/

namespace SentryWms.CsvImport

open Python Relational Postgres RowImport RowImport.RowResult Transition

variable {library : Catalog.Library} {readers : Readers} {state later after : ImportState}
  {entityType : EntityType} {defaultWarehouseId : Option Value}

/-- Items and bins are added, zones and warehouses stay. -/
structure Grows (before after : ImportState) : Prop where
  items : before.items.entries <+: after.items.entries
  bins : before.bins.entries <+: after.bins.entries
  zones : after.zones = before.zones
  warehouses : after.stock.warehouses = before.stock.warehouses

namespace Grows

theorem refl (state : ImportState) : Grows state state :=
  ⟨List.prefix_rfl, List.prefix_rfl, rfl, rfl⟩

theorem trans {first mid last : ImportState} (hfirst : Grows first mid) (hnext : Grows mid last) :
    Grows first last where
  items := hfirst.items.trans hnext.items
  bins := hfirst.bins.trans hnext.bins
  zones := hnext.zones.trans hfirst.zones
  warehouses := hnext.warehouses.trans hfirst.warehouses

theorem ofWrites (hwrites : Writes state entityType after) : Grows state after := by
  cases hwrites with
  | item row quantity hsku hbin =>
      rw [stockNewItem.eq_def]
      split
      · split <;> exact ⟨List.prefix_append _ _, List.prefix_rfl, rfl, rfl⟩
      · exact ⟨List.prefix_append _ _, List.prefix_rfl, rfl, rfl⟩
  | bin row hcode => exact ⟨List.prefix_rfl, List.prefix_append _ _, rfl, rfl⟩
  | purchaseOrderLine opened poId itemId quantity hopened =>
      rcases hopened with rfl | ⟨order, -, rfl⟩ <;>
        exact ⟨List.prefix_rfl, List.prefix_rfl, rfl, rfl⟩
  | salesOrderLine opened soId itemId quantity hopened =>
      rcases hopened with rfl | ⟨order, parties, -, rfl⟩ <;>
        exact ⟨List.prefix_rfl, List.prefix_rfl, rfl, rfl⟩
  | raised added hpos hitem hbin =>
      obtain ⟨inventory, hadded⟩ := addInventory_spec state.stock added.itemId added.binId
        added.warehouseId added.quantityChange none
      rw [hadded]
      exact ⟨List.prefix_rfl, List.prefix_rfl, rfl, rfl⟩
  | lowered added entry hneg hentry hin henough =>
      exact ⟨List.prefix_rfl, List.prefix_rfl, rfl, rfl⟩

theorem ofRecord (state : ImportState) (record : Value) :
    Grows state (RowImport.after
      (importRecord library readers entityType defaultWarehouseId) state record) := by
  rw [RowImport.after]
  cases hstep : importRecord library readers entityType defaultWarehouseId state record with
  | imported reached => exact ofWrites (writes_of_imported hstep)
  | skipped message reached =>
      rw [traceless_importRecord entityType message reached hstep]
      exact refl _
  | raised => exact refl _

theorem importFiles (files : List (EntityType × Dict)) :
    Grows state (CsvImport.importFiles library readers state files) :=
  importFiles_invariant (Grows state) (fun hwrites hgrows => hgrows.trans (ofWrites hwrites))
    (fun hgrows => ⟨hgrows.items, hgrows.bins, hgrows.zones, hgrows.warehouses⟩)
    (fun hgrows => ⟨hgrows.items, hgrows.bins, hgrows.zones, hgrows.warehouses⟩) files (refl state)

end Grows

theorem keyWhere_earlier {ρ : Type} {table table' : Table ρ} {cond : ρ → Bool}
    (hearlier : table.entries <+: table'.entries) (hnone : (keyWhere table' cond).isSome = false) :
    (keyWhere table cond).isSome = false := by
  rw [Option.isSome_eq_false_iff, Option.isNone_iff_eq_none, keyWhere_eq_none] at hnone ⊢
  exact fun entry hentry => hnone entry (hearlier.subset hentry)

/-! ## Records that have been gone through -/

theorem stockNewItem_items (itemId : ℕ) (defaultBinId : Option ℕ) (quantity : ℤ) :
    (stockNewItem state itemId defaultBinId quantity).items = state.items := by
  rw [stockNewItem.eq_def]
  split
  · split <;> rfl
  · rfl

/-- What imports an item later would have imported it before. -/
theorem importItem_earlier {row : ItemImportRow} (hgrows : Grows state later)
    (himported : importItem readers later row = imported after) :
    ∃ item reached, importItem readers state row = imported reached ∧
      item ∈ reached.items.entries ∧ later.hasSku item.2.sku = false := by
  simp only [importItem, skipIf_eq_imported, accept_eq_imported, orRaise_eq_imported,
    Bool.not_eq_true', imported.injEq] at himported ⊢
  obtain ⟨hname, hsku, hfree, hupc, hupcFree, hbin, item, hitem, hnew, rfl⟩ := himported
  obtain ⟨-, -, hearlier⟩ := itemRow_eq_some hitem
  have hupcEarlier : state.hasUpc (row.upc.getD "") = false := by
    rw [ImportState.hasUpc, Bool.and_eq_false_iff] at hupcFree ⊢
    exact hupcFree.imp_right (keyWhere_earlier hgrows.items)
  refine ⟨(state.items.next, { item with
    defaultBinId := state.defaultBinOf (row.defaultBin.getD "") }), _,
    ⟨hname, hsku, keyWhere_earlier hgrows.items hfree, hupc, hupcEarlier, hbin, _, hearlier _,
      keyWhere_earlier hgrows.items hnew, rfl⟩, ?_, hnew⟩
  rw [stockNewItem_items, Table.mem_insert]
  exact .inr rfl

theorem importBin_earlier {row : BinImportRow} (hgrows : Grows state later)
    (himported : importBin readers later row = imported after) :
    ∃ bin reached, importBin readers state row = imported reached ∧
      bin ∈ reached.bins.entries ∧ later.binIn bin.2.warehouseId bin.2.binCode = none := by
  have hzone : ∀ zoneValue, zoneIdOf readers state row zoneValue =
      zoneIdOf readers later row zoneValue := by
    intro zoneValue
    rw [zoneIdOf, zoneIdOf, ImportState.zoneNamed, ImportState.zoneNamed, hgrows.zones]
  simp only [importBin, skipIf_eq_imported, accept_eq_imported, orSkip_eq_imported,
    orRaise_eq_imported, Option.isNone_iff_eq_none, imported.injEq, hzone, ← hgrows.zones,
    ← hgrows.warehouses] at himported ⊢
  obtain ⟨hplain, zoneId, hzoneId, zone, hget, hsame, hwarehouse, hcode, hfree, bin, hbin, hnew,
    rfl⟩ := himported
  refine ⟨(state.bins.next, bin), _, ⟨hplain, zoneId, hzoneId, zone, hget, hsame, hwarehouse,
    hcode, keyWhere_earlier hgrows.bins hfree, bin, hbin, ?_, rfl⟩, ?_, hnew⟩
  · exact Option.isNone_iff_eq_none.mp (Option.isSome_eq_false_iff.mp
      (keyWhere_earlier hgrows.bins (Option.isSome_eq_false_iff.mpr
        (Option.isNone_iff_eq_none.mpr hnew))))
  · exact (Table.mem_insert _).mpr (.inr rfl)

theorem settles_importRecord (htype : entityType = .items ∨ entityType = .bins) :
    Settles (importRecord library readers entityType defaultWarehouseId) Grows where
  refl := Grows.refl
  trans := Grows.trans
  grows := fun _ => Grows.ofRecord _ _
  settled := by
    intro state record later reached _ hgrows himported
    have hbefore := (Grows.ofRecord state record).trans hgrows
    rcases htype with rfl | rfl
    · obtain ⟨row, hread, himported⟩ := orReject_eq_imported.mp himported
      obtain ⟨item, earlier, hearlier, hmem, hsku⟩ := importItem_earlier hbefore himported
      have hstep : importRecord library readers .items defaultWarehouseId state record =
          imported earlier := orReject_eq_imported.mpr ⟨row, hread, hearlier⟩
      rw [RowImport.after, hstep] at hgrows
      have hnone := Option.isNone_iff_eq_none.mp (Option.isSome_eq_false_iff.mp hsku)
      simpa using keyWhere_eq_none.mp hnone item (hgrows.items.subset hmem)
    · obtain ⟨row, hread, himported⟩ := orReject_eq_imported.mp himported
      obtain ⟨bin, earlier, hearlier, hmem, hnone⟩ := importBin_earlier hbefore himported
      have hstep : importRecord library readers .bins defaultWarehouseId state record =
          imported earlier := orReject_eq_imported.mpr ⟨row, hread, hearlier⟩
      rw [RowImport.after, hstep] at hgrows
      simpa using keyWhere_eq_none.mp hnone bin (hgrows.bins.subset hmem)

/-! ## Files -/

/-- A file of items or bins that has been imported completely adds nothing when it is imported
again, whatever has been imported in between. -/
theorem csvImport_again {data : Dict} {answer answer' : ImportAnswer} {after' : ImportState}
    (htype : entityType = .items ∨ entityType = .bins)
    (hfirst : csvImport library readers entityType state data = .complete answer after)
    (files : List (EntityType × Dict))
    (hagain : csvImport library readers entityType (importFiles library readers after files)
      data = .complete answer' after') :
    answer'.imported = 0 ∧
      after'.items = (importFiles library readers after files).items ∧
      after'.bins = (importFiles library readers after files).bins := by
  obtain ⟨records, progress, hrecords, hrun, -, rfl⟩ := csvImport_complete hfirst
  obtain ⟨records', progress', hrecords', hrun', hcount, rfl⟩ := csvImport_complete hagain
  cases hrecords.symm.trans hrecords'
  have hlater : Grows progress.state
      { importFiles library readers (releaseImported progress.state) files with
        releasedPairs := [] } :=
    have hgrows := Grows.importFiles files
    ⟨hgrows.items, hgrows.bins, hgrows.zones, hgrows.warehouses⟩
  obtain ⟨hnone, hstate⟩ := (settles_importRecord htype).importRows_again
    (fun _ _ => traceless_importRecord entityType) hrun hlater hrun'
  exact ⟨hcount.trans hnone, hstate ▸ rfl, hstate ▸ rfl⟩

/-- The tables after the first upload of a file. -/
def uploaded : ImportState :=
  committed Catalog.plainLibrary plainReaders {} (.items, importBody brakeRecords)

theorem csvImport_again_brakes :
    ∃ answer answer' after',
      csvImport Catalog.plainLibrary plainReaders .items {} (importBody brakeRecords) =
          .complete answer uploaded ∧ answer.imported = 1 ∧
        csvImport Catalog.plainLibrary plainReaders .items
            (importFiles Catalog.plainLibrary plainReaders uploaded shelfFiles)
            (importBody brakeRecords) = .complete answer' after' ∧ answer'.imported = 0 := by
  obtain ⟨answer, hfirst, hone⟩ : ∃ answer,
      csvImport Catalog.plainLibrary plainReaders .items {} (importBody brakeRecords) =
        .complete answer uploaded ∧ answer.imported = 1 := ⟨_, rfl, rfl⟩
  obtain ⟨answer', after', hagain⟩ : ∃ answer' after',
      csvImport Catalog.plainLibrary plainReaders .items
        (importFiles Catalog.plainLibrary plainReaders uploaded shelfFiles)
        (importBody brakeRecords) = .complete answer' after' := ⟨_, _, rfl⟩
  exact ⟨answer, answer', after', hfirst, hone, hagain,
    (csvImport_again (.inl rfl) hfirst shelfFiles hagain).1⟩

end SentryWms.CsvImport
