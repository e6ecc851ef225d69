import SentryWms.TransferOrder.Reservation

/-!
# What an import reserves

An import walks over the stock of its source warehouse once for each record and then
writes, for each record, a line with what the walk committed. The lines agree with the
reservations as long as both are part of one transaction. A collision of the order
number ends the transaction in between: the reservations are rolled back, and the second
attempt inserts the lines all the same.
-/

namespace SentryWms

open Relational

/-- What the lines created after `before` commit of an item. -/
def Store.committedSince (before after : Store) (itemId : ℕ) : ℤ :=
  after.transferOrderLines.total fun toLineId line =>
    if before.transferOrderLines.next ≤ toLineId ∧ line.itemId = itemId then
      line.committedQty
    else 0

/-- The reserved total of each item in a warehouse grows by what the new lines commit of
it, and no row is reserved beyond its stock by it. -/
structure ReservesCommitted (before after : Store) (warehouseId : ℕ) : Prop where
  increase : ∀ itemId, after.warehouseAllocated itemId warehouseId =
    before.warehouseAllocated itemId warehouseId + before.committedSince after itemId
  withinOnHand : ∀ inventoryId row, (inventoryId, row) ∈ after.inventory.entries →
    ∃ was, (inventoryId, was) ∈ before.inventory.entries ∧
      row.quantityOnHand = was.quantityOnHand ∧
      row.quantityAllocated ≤ max was.quantityAllocated was.quantityOnHand

def Store.nothingAvailable (store : Store) (request : ImportRequest) : Prop :=
  ∀ record ∈ request.records, ∀ itemId warehouseId,
    store.itemOfSku record.sku = some itemId →
    resolveWarehouseId store request.sourceWarehouseCode = some warehouseId →
    ∀ entry ∈ store.inventory.entries,
      entry.2.inWarehouse itemId warehouseId = true → entry.2.available ≤ 0

/-! ## The lines -/

def committedOf (lines : List LineInsert) (itemId : ℕ) : ℤ :=
  (lines.map fun line => if line.itemId = itemId then line.committed else 0).sum

@[simp]
theorem committedOf_nil (itemId : ℕ) : committedOf [] itemId = 0 := rfl

@[simp]
theorem committedOf_cons (line : LineInsert) (lines : List LineInsert) (itemId : ℕ) :
    committedOf (line :: lines) itemId =
      (if line.itemId = itemId then line.committed else 0) + committedOf lines itemId := by
  simp [committedOf]

theorem committedOf_nonneg (lines : List LineInsert) (itemId : ℕ) :
    0 ≤ committedOf lines itemId := by
  induction lines with
  | nil => simp
  | cons line lines ih =>
      have hline := line.committedNonneg
      rw [committedOf_cons]
      split <;> omega

theorem committedOf_eq_zero_iff (lines : List LineInsert) :
    (∀ itemId, committedOf lines itemId = 0) ↔ ∀ line ∈ lines, line.committed = 0 := by
  induction lines with
  | nil => simp
  | cons line lines ih =>
      rw [List.forall_mem_cons, ← ih]
      constructor
      · intro hzero
        have hline : line.committed = 0 := by
          have hitem := hzero line.itemId
          have hrest := committedOf_nonneg lines line.itemId
          have hnonneg := line.committedNonneg
          rw [committedOf_cons, if_pos rfl] at hitem
          omega
        refine ⟨hline, ?_⟩
        intro itemId
        simpa [hline] using hzero itemId
      · rintro ⟨hline, hrest⟩ itemId
        simp [hline, hrest itemId]

variable {before store : Store}

theorem committedSince_eq_zero (hlines : store.transferOrderLines = before.transferOrderLines)
    (itemId : ℕ) :
    before.committedSince store itemId = 0 := by
  rw [Store.committedSince, hlines]
  apply List.sum_eq_zero
  intro committed hmem
  obtain ⟨⟨toLineId, line⟩, hline, rfl⟩ := List.mem_map.mp hmem
  have hlt := before.transferOrderLines.lt_next_of_mem hline
  have hold : ¬ (before.transferOrderLines.next ≤ toLineId ∧ line.itemId = itemId) :=
    fun hnew => absurd hlt (not_lt.mpr hnew.1)
  exact if_neg hold

theorem insertLines_committedSince (toId : ℕ) (lines : List LineInsert)
    (hnext : before.transferOrderLines.next ≤ store.transferOrderLines.next) (itemId : ℕ) :
    before.committedSince (insertLines toId store lines) itemId =
      before.committedSince store itemId + committedOf lines itemId := by
  induction lines generalizing store with
  | nil => simp [insertLines]
  | cons line lines ih =>
      let inserted : Store :=
        { store with
          transferOrderLines := store.transferOrderLines.insert (line.toLine toId) }
      have hinserted : before.committedSince inserted itemId =
          before.committedSince store itemId +
            if line.itemId = itemId then line.committed else 0 := by
        have hitem : (line.toLine toId).itemId = line.itemId := rfl
        have hcommitted : (line.toLine toId).committedQty = line.committed := rfl
        rw [Store.committedSince, Table.total_insert, hitem, hcommitted]
        simp only [hnext, true_and]
        rfl
      have hrest : before.committedSince (insertLines toId inserted lines) itemId =
          before.committedSince inserted itemId + committedOf lines itemId :=
        ih (Nat.le_succ_of_le hnext)
      rw [committedOf_cons, ← add_assoc, ← hinserted, ← hrest]
      rfl

/-! ## The reservations -/

theorem reserveRow_withinOnHand (warehouseId : ℕ) (lineNumber : ℤ) (row : ImportRow)
    {inventoryId : ℕ} {reserved : Inventory}
    (hreserved : (inventoryId, reserved) ∈ (reserveRow store warehouseId lineNumber row).1.inventory.entries) :
    ∃ was, (inventoryId, was) ∈ store.inventory.entries ∧
      reserved.quantityOnHand = was.quantityOnHand ∧
      reserved.quantityAllocated ≤ max was.quantityAllocated was.quantityOnHand := by
  have hnodup : ((store.availableRows row.itemId warehouseId).map Prod.fst).Nodup := by
    have hkeys := store.inventory.select_nodup fun found =>
      found.inWarehouse row.itemId warehouseId
    simpa [Store.availableRows, Function.comp_def] using hkeys
  rcases Table.mem_applyTakes _ _ (Walk.takes_keys_nodup hnodup _) hreserved with
    hkept | ⟨was, quantity, hwas, hdraw, rfl⟩
  · exact ⟨reserved, hkept, rfl, le_max_left _ _⟩
  · obtain ⟨available, hsource, -, hle, -⟩ :=
      Walk.mem_takes (availableRows_nonneg store _ _) hdraw
    obtain ⟨entry, hentry, heq⟩ := List.mem_map.mp hsource
    obtain ⟨rfl, rfl⟩ := Prod.mk.inj heq
    have hsame := store.inventory.row_unique hwas ((Table.mem_select _).mp hentry).1
    subst hsame
    refine ⟨entry.2, hwas, rfl, ?_⟩
    rw [Inventory.available] at hle
    dsimp only [commitUnits]
    omega

theorem reserveRows_withinOnHand (warehouseId : ℕ) (rows : List ImportRow) (lineNumber : ℤ)
    {inventoryId : ℕ} {reserved : Inventory}
    (hreserved : (inventoryId, reserved) ∈ (reserveRows warehouseId store lineNumber rows).1.inventory.entries) :
    ∃ was, (inventoryId, was) ∈ store.inventory.entries ∧
      reserved.quantityOnHand = was.quantityOnHand ∧
      reserved.quantityAllocated ≤ max was.quantityAllocated was.quantityOnHand := by
  induction rows generalizing store lineNumber with
  | nil => exact ⟨reserved, hreserved, rfl, le_max_left _ _⟩
  | cons row rows ih =>
      obtain ⟨middle, hmiddle, honHand, hallocated⟩ := ih _ hreserved
      obtain ⟨was, hwas, honHand', hallocated'⟩ := reserveRow_withinOnHand _ _ _ hmiddle
      exact ⟨was, hwas, honHand.trans honHand', by omega⟩

theorem committable_eq_zero_iff (store : Store) (warehouseId : ℕ) (row : ImportRow) :
    store.committable warehouseId row = 0 ↔
      ∀ entry ∈ store.inventory.entries,
        entry.2.inWarehouse row.itemId warehouseId = true → entry.2.available ≤ 0 := by
  have hpos := row.requestedPos
  have hsupply := Walk.supply_nonneg (availableRows_nonneg store row.itemId warehouseId)
  have hzero : store.committable warehouseId row = 0 ↔
      supply (store.availableRows row.itemId warehouseId) = 0 := by
    rw [Store.committable]
    omega
  rw [hzero]
  constructor
  · intro hnone entry hentry hcond
    have hsource : (entry.1, max 0 entry.2.available) ∈
        store.availableRows row.itemId warehouseId :=
      List.mem_map_of_mem ((Table.mem_select _).mpr ⟨hentry, hcond⟩)
    have havailable : max 0 entry.2.available ≤
        supply (store.availableRows row.itemId warehouseId) :=
      List.single_le_sum (fun available hmem => by
        obtain ⟨source, hmem', rfl⟩ := List.mem_map.mp hmem
        exact availableRows_nonneg store _ _ source hmem') _
        (List.mem_map_of_mem hsource)
    omega
  · intro hnone
    apply List.sum_eq_zero
    intro available hmem
    obtain ⟨source, hsource, rfl⟩ := List.mem_map.mp hmem
    obtain ⟨entry, hentry, rfl⟩ := List.mem_map.mp hsource
    obtain ⟨hmem', hcond⟩ := (Table.mem_select _).mp hentry
    exact max_eq_left (hnone entry hmem' hcond)

theorem reserveRow_of_committable_eq_zero {warehouseId : ℕ} {row : ImportRow}
    (hzero : store.committable warehouseId row = 0)
    (lineNumber : ℤ) : (reserveRow store warehouseId lineNumber row).1 = store := by
  have htakes : takes (store.committable warehouseId row)
      (store.availableRows row.itemId warehouseId) = [] :=
    Walk.takes_of_nonpos (le_of_eq hzero) _
  dsimp only [reserveRow]
  rw [htakes, Table.applyTakes_nil]

theorem reserveRows_committed_eq_zero_iff (warehouseId : ℕ) (store : Store)
    (rows : List ImportRow) (lineNumber : ℤ) :
    (∀ line ∈ (reserveRows warehouseId store lineNumber rows).2, line.committed = 0) ↔
      ∀ row ∈ rows, store.committable warehouseId row = 0 := by
  induction rows generalizing lineNumber with
  | nil => simp [reserveRows]
  | cons row rows ih =>
      rw [reserveRows, List.forall_mem_cons, List.forall_mem_cons]
      have hcommitted : (reserveRow store warehouseId lineNumber row).2.committed =
          store.committable warehouseId row := rfl
      rw [hcommitted]
      apply and_congr_right
      intro hzero
      rw [reserveRow_of_committable_eq_zero hzero]
      exact ih (lineNumber + 1)

/-! ## The import -/

theorem mem_resolveRows {records : List ImportRecord} {rowIndex : ℕ} {rows : List ImportRow}
    (hresolved : resolveRows store rowIndex records = (rows, [])) (itemId : ℕ) :
    (∃ row ∈ rows, row.itemId = itemId) ↔
      ∃ record ∈ records, store.itemOfSku record.sku = some itemId := by
  induction records generalizing rowIndex rows with
  | nil =>
      cases hresolved
      simp
  | cons record records ih =>
      simp only [resolveRows] at hresolved
      split at hresolved
      · cases hresolved
      next found hfound =>
        obtain ⟨rfl, herrors⟩ := Prod.mk.inj hresolved
        have hrest := ih (Prod.ext rfl herrors)
        simp only [List.exists_mem_cons_iff, hrest, hfound, Option.some_inj]

theorem nothingAvailable_iff {request : ImportRequest} {warehouseId : ℕ}
    {rows : List ImportRow}
    (hsource : resolveWarehouseId store request.sourceWarehouseCode = some warehouseId)
    (hresolved : resolveRows store 0 request.records = (rows, [])) :
    (∀ row ∈ sortRows rows, store.committable warehouseId row = 0) ↔
      store.nothingAvailable request := by
  simp only [committable_eq_zero_iff, Store.nothingAvailable, hsource, Option.some_inj]
  constructor
  · rintro hnone record hrecord itemId _ hitem rfl
    obtain ⟨row, hrow, rfl⟩ := (mem_resolveRows hresolved itemId).mpr ⟨record, hrecord, hitem⟩
    exact hnone row ((List.mem_insertionSort _).mpr hrow)
  · intro hnone row hrow
    obtain ⟨record, hrecord, hitem⟩ :=
      (mem_resolveRows hresolved row.itemId).mp ⟨row, (List.mem_insertionSort _).mp hrow, rfl⟩
    exact hnone record hrecord row.itemId warehouseId hitem rfl

theorem insertLines_reservesCommitted_iff {header : TransferOrder}
    (hlines : store.transferOrderLines = before.transferOrderLines) (lines : List LineInsert) :
    (∃ inserted, (store.transferOrders.next, inserted) ∈
          (insertLines store.transferOrders.next (store.insertHeader header)
            lines).transferOrders.entries ∧
        ReservesCommitted before
          (insertLines store.transferOrders.next (store.insertHeader header) lines)
          inserted.sourceWarehouseId) ↔
      (∀ itemId, store.warehouseAllocated itemId header.sourceWarehouseId =
        before.warehouseAllocated itemId header.sourceWarehouseId +
          committedOf lines itemId) ∧
      ∀ inventoryId row, (inventoryId, row) ∈ store.inventory.entries →
        ∃ was, (inventoryId, was) ∈ before.inventory.entries ∧
          row.quantityOnHand = was.quantityOnHand ∧
          row.quantityAllocated ≤ max was.quantityAllocated was.quantityOnHand := by
  have hcommitted : ∀ itemId, before.committedSince
      (insertLines store.transferOrders.next (store.insertHeader header) lines) itemId =
        committedOf lines itemId := by
    intro itemId
    have hnext : before.transferOrderLines.next ≤
        (store.insertHeader header).transferOrderLines.next :=
      le_of_eq (congrArg Table.next hlines.symm)
    have hbefore : before.committedSince (store.insertHeader header) itemId = 0 :=
      committedSince_eq_zero hlines itemId
    rw [insertLines_committedSince _ _ hnext, hbefore, zero_add]
  have hheader : (store.transferOrders.next, header) ∈
      (store.insertHeader header).transferOrders.entries :=
    (Table.mem_insert _).mpr (.inr rfl)
  obtain ⟨transferOrderLines, hinserted⟩ :=
    insertLines_spec store.transferOrders.next (store.insertHeader header) lines
  rw [hinserted] at hcommitted ⊢
  constructor
  · rintro ⟨inserted, hmem, hincrease, hwithin⟩
    have hsame := Table.row_unique _ hmem hheader
    subst hsame
    refine ⟨?_, hwithin⟩
    intro itemId
    rw [← hcommitted]
    exact hincrease itemId
  · rintro ⟨hincrease, hwithin⟩
    refine ⟨header, hheader, ?_, hwithin⟩
    intro itemId
    rw [hcommitted]
    exact hincrease itemId

/-- An accepted import reserves what its lines commit exactly when the order number was
free at the first attempt, or there was nothing to reserve. -/
theorem import_reservesCommitted_iff {store after : Store} {request : ImportRequest}
    {username : String} {toId : ℕ}
    (himport : importTransferOrder store request username = .ok (after, toId)) :
    (∃ header, (toId, header) ∈ after.transferOrders.entries ∧
        ReservesCommitted store after header.sourceWarehouseId) ↔
      store.toNumberTaken request.toNumber = false ∨ store.nothingAvailable request := by
  obtain ⟨header, rows, reserved, -, hsource, hresolved, hrows, rfl, hafter⟩ :=
    import_resolved himport
  rcases hafter with ⟨hfree, rfl⟩ | ⟨htaken, rfl⟩
  · -- one transaction: the walk reserved what the lines say
    have hsound : (∀ itemId,
        reserved.1.warehouseAllocated itemId header.sourceWarehouseId =
          store.warehouseAllocated itemId header.sourceWarehouseId +
            committedOf reserved.2 itemId) ∧
        ∀ inventoryId row, (inventoryId, row) ∈ reserved.1.inventory.entries →
          ∃ was, (inventoryId, was) ∈ store.inventory.entries ∧
            row.quantityOnHand = was.quantityOnHand ∧
            row.quantityAllocated ≤ max was.quantityAllocated was.quantityOnHand := by
      rw [hrows]
      refine ⟨?_, fun inventoryId row hrow => reserveRows_withinOnHand _ _ _ hrow⟩
      intro itemId
      rw [reserveRows_allocated, if_pos rfl]
      rfl
    obtain ⟨inventory, hinventory⟩ :=
      reserveRows_spec header.sourceWarehouseId store 1 (sortRows rows)
    rw [← hrows] at hinventory
    have horders : store.transferOrders.next = reserved.1.transferOrders.next := by
      rw [hinventory]
    have hlines : reserved.1.transferOrderLines = store.transferOrderLines := by
      rw [hinventory]
    rw [horders, insertLines_reservesCommitted_iff hlines]
    exact iff_of_true hsound (.inl hfree)
  · -- the walk is gone: the lines must have committed nothing
    have hnone : (∀ itemId, committedOf reserved.2 itemId = 0) ↔
        store.nothingAvailable request := by
      rw [committedOf_eq_zero_iff, hrows, reserveRows_committed_eq_zero_iff]
      exact nothingAvailable_iff hsource hresolved
    rw [insertLines_reservesCommitted_iff rfl, htaken, ← hnone]
    constructor
    · rintro ⟨hincrease, -⟩
      refine .inr fun itemId => ?_
      have hitem := hincrease itemId
      omega
    · rintro (hfree | hzero)
      · cases hfree
      · refine ⟨fun itemId => by rw [hzero, add_zero], ?_⟩
        intro inventoryId row hrow
        exact ⟨row, hrow, rfl, le_max_left _ _⟩

/-! ## Two imports in one millisecond -/

def importedOnce : Store :=
  ((importTransferOrder twoWarehouses threeUnits "ann").toOption.map Prod.fst).getD
    twoWarehouses

/-- The store after the same import once more, under the second number. -/
def importedTwice : Store :=
  ((importTransferOrder importedOnce threeUnits "ben").toOption.map Prod.fst).getD
    importedOnce

theorem import_free_reservesCommitted :
    ∃ header, (1, header) ∈ importedOnce.transferOrders.entries ∧
      ReservesCommitted twoWarehouses importedOnce header.sourceWarehouseId := by
  have himport : importTransferOrder twoWarehouses threeUnits "ann" =
      .ok (importedOnce, 1) := rfl
  exact (import_reservesCommitted_iff himport).mpr (.inl rfl)

/-- Where the number of the first import is generated again, the second import commits
three units and reserves none. -/
theorem import_collision_reserves_nothing :
    importTransferOrder importedOnce threeUnits "ben" = .ok (importedTwice, 2) ∧
      importedOnce.committedSince importedTwice 1 = 3 ∧
      ¬ ∃ header, (2, header) ∈ importedTwice.transferOrders.entries ∧
        ReservesCommitted importedOnce importedTwice header.sourceWarehouseId := by
  refine ⟨rfl, rfl, ?_⟩
  rintro ⟨header, hmem, hincrease, -⟩
  have hheader : importedTwice.transferOrders.get? 2 = some header :=
    (Table.get?_eq_some _).mpr hmem
  have hsource : importedTwice.transferOrders.get? 2 =
      some ⟨"TO-2", 1, 2, .open, "ben", by decide⟩ := rfl
  rw [hsource] at hheader
  cases hheader
  exact absurd (hincrease 1) (by decide)

end SentryWms
