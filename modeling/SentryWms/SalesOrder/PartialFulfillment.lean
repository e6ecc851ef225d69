import SentryWms.Receiving.ReleasedBackorders
import SentryWms.SalesOrder.Editing
import SentryWms.SalesOrder.Release

/-!
# Splitting an order

`partial_fulfill_sales_order` moves units of an order to a backorder and writes off the
stock that the shelf still shows for them. The order and its backorder together ask for
what the order asked for before; what is written off is stock, and no part of that.
-/

namespace SentryWms

open Relational Transition

/-! ## What is written off -/

/-- A SHORT row of `inventory_adjustments`. -/
structure ShortAdjustment where
  itemId : ℕ
  binId : ℕ
  quantityChange : ℤ

/-- The row that `_write_short_adjustment` inserts, if it finds stock. -/
def shortAdjustment (store : Store) (itemId warehouseId : ℕ) (shortQty : ℤ) :
    Option ShortAdjustment :=
  match orderBy (fun entry => toLex (-entry.2.available, entry.2.binId))
      (store.inventory.select fun row =>
        row.inWarehouse itemId warehouseId && decide (0 < row.available)) with
  | [] => none
  | (_, row) :: _ => some ⟨itemId, row.binId, -min row.available shortQty⟩

/-- An adjustment beside the drop of its bin. -/
structure WrittenShort extends ShortAdjustment where
  dropped : ℤ

/-- The loop over the shorted lines: the store and the adjustments so far. -/
structure Shrinking where
  store : Store
  adjustments : List WrittenShort

def shrinkNoted (warehouseId : ℕ) (state : Shrinking)
    (short : PartialFulfillLineEntry × SalesOrderLine) : Except EditError Shrinking := do
  let next ← shrinkLine warehouseId state.store short
  let adjustment := shortAdjustment state.store short.2.itemId warehouseId short.1.shortQty
  .ok ⟨next, state.adjustments ++ adjustment.toList.map fun row =>
    ⟨row, state.store.binOnHand row.itemId row.binId -
      next.binOnHand row.itemId row.binId⟩⟩

/-- `partial_fulfill_sales_order`, with the adjustments it writes. -/
def partialFulfillNoted (store : Store) (fullEdit : Bool) (soId : ℕ)
    (lines : List PartialFulfillLineEntry) :
    Except EditError (Store × List WrittenShort) :=
  match store.salesOrders.get? soId with
  | none => .error .orderNotFound
  | some order => do
      partialFulfillGate fullEdit order
      let shorts ← lines.mapM (checkShort store soId order)
      let shrunk ← shorts.foldlM (shrinkNoted order.warehouseId) ⟨store, []⟩
      let after ← openBackorder shrunk.store soId order shorts
      .ok (after, shrunk.adjustments)

def writtenOff (adjustments : List WrittenShort) (itemId : ℕ) : ℤ :=
  (adjustments.map fun adjustment =>
    if adjustment.itemId = itemId then -adjustment.quantityChange else 0).sum

/-- A bin keeps an item in one row, with nothing reserved below zero. -/
structure Store.OneLot (store : Store) (itemId binId : ℕ) : Prop where
  unique : ∀ entry ∈ store.inventory.entries, ∀ entry' ∈ store.inventory.entries,
    entry.2.inBin itemId binId → entry'.2.inBin itemId binId → entry.1 = entry'.1
  nonneg : ∀ entry ∈ store.inventory.entries,
    entry.2.inBin itemId binId → 0 ≤ entry.2.quantityAllocated

section Shrink

variable {store after : Store} {soId warehouseId : ℕ} {order : SalesOrder}
  {fullEdit : Bool}

/-! ## The noted loop -/

theorem foldlM_shrinkNoted (warehouseId : ℕ)
    (shorts : List (PartialFulfillLineEntry × SalesOrderLine))
    (state : Shrinking) :
    (shorts.foldlM (shrinkNoted warehouseId) state).map Shrinking.store =
      shorts.foldlM (shrinkLine warehouseId) state.store := by
  induction shorts generalizing state with
  | nil => rfl
  | cons short shorts ih =>
      rw [List.foldlM_cons, List.foldlM_cons, shrinkNoted]
      cases hnext : shrinkLine warehouseId state.store short with
      | error error => rfl
      | ok next => exact ih _

theorem partialFulfillNoted_fst (store : Store) (fullEdit : Bool) (soId : ℕ)
    (lines : List PartialFulfillLineEntry) :
    (partialFulfillNoted store fullEdit soId lines).map Prod.fst =
      partialFulfillSalesOrder store fullEdit soId lines := by
  rw [partialFulfillNoted, partialFulfillSalesOrder]
  cases store.salesOrders.get? soId with
  | none => rfl
  | some order =>
      dsimp only
      cases partialFulfillGate fullEdit order with
      | error error => rfl
      | ok _ =>
          cases lines.mapM (checkShort store soId order) with
          | error error => rfl
          | ok shorts =>
              have hloop := foldlM_shrinkNoted order.warehouseId shorts ⟨store, []⟩
              simp only [bind, Except.bind, Except.map] at hloop ⊢
              rw [← hloop]
              cases shorts.foldlM (shrinkNoted order.warehouseId) ⟨store, []⟩ with
              | error error => rfl
              | ok shrunk =>
                  dsimp only
                  cases openBackorder shrunk.store soId order shorts <;> rfl

/-! ## One line -/

theorem orderedUnits_eq (store : Store) (soId itemId : ℕ) :
    store.orderedUnits soId itemId =
      store.salesOrderLines.total fun _ line =>
        if (line.soId == soId) = true then
          if line.itemId = itemId then line.quantityOrdered else 0
        else 0 := by
  rw [Store.orderedUnits, Store.backorderLines]
  exact store.salesOrderLines.total_select _ fun _ line =>
    if line.itemId = itemId then line.quantityOrdered else 0

theorem writeShortAdjustment_spec (store : Store) (itemId warehouseId : ℕ)
    (shortQty : ℤ) :
    writeShortAdjustment store itemId warehouseId shortQty =
      { store with
        inventory := (writeShortAdjustment store itemId warehouseId shortQty).inventory } := by
  rw [writeShortAdjustment]
  split <;> rfl

theorem writeShortAdjustment_inventory {store' : Store} (itemId : ℕ) (shortQty : ℤ)
    (hinventory : store'.inventory = store.inventory) (hnow : store'.now = store.now) :
    (writeShortAdjustment store' itemId warehouseId shortQty).inventory =
      (writeShortAdjustment store itemId warehouseId shortQty).inventory := by
  rw [writeShortAdjustment, writeShortAdjustment, hinventory]
  split
  · exact hinventory
  · simp only [Store.updateBin, hinventory, hnow]

/-- What shrinking a line does: the line is set or deleted, and stock is written off. -/
structure Shrinks (warehouseId : ℕ) (short : PartialFulfillLineEntry × SalesOrderLine)
    (store after : Store) : Prop where
  orders : after.salesOrders = store.salesOrders
  now : after.now = store.now
  inventory : after.inventory =
    (writeShortAdjustment store short.2.itemId warehouseId short.1.shortQty).inventory
  lines : short.2.quantityOrdered = short.1.shortQty ∧
      after.salesOrderLines = store.salesOrderLines.delete short.1.soLineId ∨
    after.salesOrderLines = store.salesOrderLines.modify short.1.soLineId
      (SalesOrderLine.setOrdered (short.2.quantityOrdered - short.1.shortQty))

variable {short : PartialFulfillLineEntry × SalesOrderLine}

theorem shrinkLine_spec (hshrink : shrinkLine warehouseId store short = .ok after) :
    Shrinks warehouseId short store after := by
  rw [shrinkLine] at hshrink
  dsimp only at hshrink
  split at hshrink
  next hzero =>
    obtain ⟨shrunk, hshrunk, hok⟩ := bind_eq_ok.mp hshrink
    rw [Store.deleteLine] at hshrunk
    split at hshrunk
    · cases hshrunk
    · cases hshrunk
      cases hok
      rw [writeShortAdjustment_spec]
      exact ⟨rfl, rfl, writeShortAdjustment_inventory _ _ rfl rfl, .inl ⟨by omega, rfl⟩⟩
  next hleft =>
    cases hshrink
    rw [writeShortAdjustment_spec]
    exact ⟨rfl, rfl, writeShortAdjustment_inventory _ _ rfl rfl, .inr rfl⟩

/-- The entries and the lines they were checked against. -/
def CheckedShorts (store : Store) (soId : ℕ)
    (shorts : List (PartialFulfillLineEntry × SalesOrderLine)) : Prop :=
  ∀ short ∈ shorts,
    (short.1.soLineId, short.2) ∈ store.salesOrderLines.entries ∧ short.2.soId = soId ∧
      short.1.shortQty ≤ short.2.quantityOrdered - short.2.quantityPicked

theorem checkShort_spec {entry : PartialFulfillLineEntry}
    (hcheck : checkShort store soId order entry = .ok short) :
    short.1 = entry ∧ (short.1.soLineId, short.2) ∈ store.salesOrderLines.entries ∧
      short.2.soId = soId ∧
      short.1.shortQty ≤ short.2.quantityOrdered - short.2.quantityPicked := by
  rw [checkShort] at hcheck
  split at hcheck
  · cases hcheck
  next line hline =>
    split at hcheck
    · cases hcheck
    next hshort =>
      cases hcheck
      obtain ⟨hget, hcond⟩ := Option.filter_eq_some_iff.mp hline
      rw [Bool.and_eq_true, beq_iff_eq] at hcond
      exact ⟨rfl, (store.salesOrderLines.get?_eq_some).mp hget, hcond.1,
        not_lt.mp hshort⟩

variable {shorts : List (PartialFulfillLineEntry × SalesOrderLine)}

theorem checkedShorts_of_mapM {lines : List PartialFulfillLineEntry}
    (hshorts : lines.mapM (checkShort store soId order) = .ok shorts) :
    CheckedShorts store soId shorts ∧ shorts.map Prod.fst = lines := by
  have hpairs := forall₂_of_mapM hshorts
  clear hshorts
  induction hpairs with
  | nil => exact ⟨by rintro short ⟨⟩, rfl⟩
  | cons hcheck _ ih =>
      obtain ⟨hentry, hspec⟩ := checkShort_spec hcheck
      refine ⟨List.forall_mem_cons.mpr ⟨hspec, ih.1⟩, ?_⟩
      rw [List.map_cons, hentry, ih.2]

/-! ## The lines of the order -/

def shortedUnits (shorts : List (PartialFulfillLineEntry × SalesOrderLine))
    (itemId : ℕ) : ℤ :=
  (shorts.map fun short =>
    if short.2.itemId = itemId then short.1.shortQty else 0).sum

theorem Shrinks.orderedUnits (hshrinks : Shrinks warehouseId short store after)
    (hline : (short.1.soLineId, short.2) ∈ store.salesOrderLines.entries)
    (hsoId : short.2.soId = soId) (itemId : ℕ) :
    after.orderedUnits soId itemId =
      store.orderedUnits soId itemId -
        if short.2.itemId = itemId then short.1.shortQty else 0 := by
  rw [orderedUnits_eq, orderedUnits_eq]
  rcases hshrinks.lines with ⟨hall, hlines⟩ | hlines
  · have hdeleted : (store.salesOrderLines.total fun _ line =>
        if (line.soId == soId) = true then
          if line.itemId = itemId then line.quantityOrdered else 0
        else 0) =
        (store.salesOrderLines.total fun key line =>
          if key = short.1.soLineId then 0 else
            if (line.soId == soId) = true then
              if line.itemId = itemId then line.quantityOrdered else 0
            else 0) +
        store.salesOrderLines.total fun key line =>
          if key = short.1.soLineId then
            if (line.soId == soId) = true then
              if line.itemId = itemId then line.quantityOrdered else 0
            else 0
          else 0 := by
      rw [← Table.total_add]
      apply Table.total_congr
      intro key line _
      by_cases hkey : key = short.1.soLineId
      · rw [if_pos hkey, if_pos hkey, zero_add]
      · rw [if_neg hkey, if_neg hkey, add_zero]
    have hsingle := store.salesOrderLines.total_single hline fun _ line =>
      if (line.soId == soId) = true then
        if line.itemId = itemId then line.quantityOrdered else 0
      else 0
    have hcond : (short.2.soId == soId) = true := beq_iff_eq.mpr hsoId
    rw [hlines, Table.total_delete, hdeleted, hsingle, if_pos hcond, hall]
    ring
  · rw [hlines, Table.total_modify _ hline]
    simp only [SalesOrderLine.setOrdered, hsoId, BEq.rfl, if_true]
    split <;> ring

theorem Shrinks.mem_lines (hshrinks : Shrinks warehouseId short store after)
    {entry : ℕ × SalesOrderLine} (hentry : entry ∈ store.salesOrderLines.entries)
    (hne : entry.1 ≠ short.1.soLineId) : entry ∈ after.salesOrderLines.entries := by
  rcases hshrinks.lines with ⟨-, hlines⟩ | hlines
  · rw [hlines, Table.mem_delete]
    exact ⟨hentry, hne⟩
  · rw [hlines]
    exact (Table.mem_modify _).mpr ⟨entry.2, hentry, if_neg hne⟩

theorem shrinkLoop_orderedUnits
    (hlines : ∀ short ∈ shorts, (short.1.soLineId, short.2) ∈ store.salesOrderLines.entries ∧ short.2.soId = soId)
    (hdistinct : (shorts.map fun short => short.1.soLineId).Nodup)
    (hloop : shorts.foldlM (shrinkLine warehouseId) store = .ok after) (itemId : ℕ) :
    after.orderedUnits soId itemId =
      store.orderedUnits soId itemId - shortedUnits shorts itemId := by
  induction shorts generalizing store with
  | nil =>
      cases hloop
      simp [shortedUnits]
  | cons short shorts ih =>
      rw [List.map_cons, List.nodup_cons] at hdistinct
      rw [List.foldlM_cons] at hloop
      obtain ⟨middle, hmiddle, hrest⟩ := bind_eq_ok.mp hloop
      have hshrinks := shrinkLine_spec hmiddle
      obtain ⟨⟨hline, hsoId⟩, hothers⟩ := List.forall_mem_cons.mp hlines
      have hkept : ∀ other ∈ shorts,
          (other.1.soLineId, other.2) ∈ middle.salesOrderLines.entries ∧
            other.2.soId = soId := by
        intro other hother
        obtain ⟨hmem, hsame⟩ := hothers other hother
        refine ⟨hshrinks.mem_lines hmem ?_, hsame⟩
        intro hid
        exact hdistinct.1 (List.mem_map.mpr ⟨other, hother, hid⟩)
      rw [ih hkept hdistinct.2 hrest, hshrinks.orderedUnits hline hsoId, shortedUnits,
        shortedUnits, List.map_cons, List.sum_cons]
      ring

/-- A line after the loop is one from before, with an order quantity that covers what is
picked of it where it is a new one. -/
def Shrunk (store : Store) (entry : ℕ × SalesOrderLine) : Prop :=
  ∃ line quantityOrdered, (entry.1, line) ∈ store.salesOrderLines.entries ∧
    entry.2 = line.setOrdered quantityOrdered ∧
    (quantityOrdered = line.quantityOrdered ∨ line.quantityPicked ≤ quantityOrdered)

theorem Shrinks.shrunk {first : Store} (hshrinks : Shrinks warehouseId short store after)
    (hchecked : (short.1.soLineId, short.2) ∈ first.salesOrderLines.entries ∧ short.1.shortQty ≤ short.2.quantityOrdered - short.2.quantityPicked)
    (hshrunk : ∀ entry ∈ store.salesOrderLines.entries, Shrunk first entry) :
    ∀ entry ∈ after.salesOrderLines.entries, Shrunk first entry := by
  rintro ⟨soLineId, line⟩ hentry
  rcases hshrinks.lines with ⟨-, hlines⟩ | hlines
  · rw [hlines, Table.mem_delete] at hentry
    exact hshrunk _ hentry.1
  · rw [hlines, Table.mem_modify] at hentry
    obtain ⟨before, hbefore, hchange⟩ := hentry
    by_cases hid : soLineId = short.1.soLineId
    · rw [if_pos hid] at hchange
      obtain ⟨original, quantityOrdered, horiginal, heq, -⟩ := hshrunk _ hbefore
      dsimp only at horiginal heq
      rw [hid] at horiginal
      have hsame := first.salesOrderLines.row_unique horiginal hchecked.1
      refine ⟨short.2, short.2.quantityOrdered - short.1.shortQty, ?_, ?_, .inr ?_⟩
      · rw [hid]
        exact hchecked.1
      · rw [← hchange, heq, hsame]
        rfl
      · omega
    · rw [if_neg hid] at hchange
      rw [← hchange]
      exact hshrunk _ hbefore

theorem shrinkLoop_shrunk {first : Store} (hchecked : CheckedShorts first soId shorts)
    (hloop : shorts.foldlM (shrinkLine warehouseId) first = .ok after) :
    after.salesOrders = first.salesOrders ∧
      ∀ entry ∈ after.salesOrderLines.entries, Shrunk first entry := by
  refine foldlM_invariant (fun store : Store => store.salesOrders = first.salesOrders ∧
    ∀ entry ∈ store.salesOrderLines.entries, Shrunk first entry) ?_ hloop ?_
  · intro store short next hshort hstore hnext
    have hshrinks := shrinkLine_spec hnext
    obtain ⟨hmem, -, hqty⟩ := hchecked short hshort
    exact ⟨hshrinks.orders.trans hstore.1, hshrinks.shrunk ⟨hmem, hqty⟩ hstore.2⟩
  · refine ⟨rfl, ?_⟩
    intro entry hentry
    exact ⟨entry.2, entry.2.quantityOrdered, hentry, rfl, .inl rfl⟩

/-! ## The lines of the backorder -/

theorem insertShorts_orderedUnits (boId : ℕ)
    (shorts : List ((PartialFulfillLineEntry × SalesOrderLine) × ℕ)) (soId itemId : ℕ) :
    (shorts.foldl (fun store' short =>
        store'.insertLine (orderedLine boId short.1.2.itemId (short.2 + 1)
          short.1.1.shortQty)) store).orderedUnits soId itemId =
      store.orderedUnits soId itemId +
        if boId = soId then shortedUnits (shorts.map Prod.fst) itemId else 0 := by
  induction shorts generalizing store with
  | nil => simp [shortedUnits]
  | cons short shorts ih =>
      rw [List.foldl_cons, ih, orderedUnits_eq, orderedUnits_eq, Store.insertLine,
        Table.total_insert, orderedLine, List.map_cons, shortedUnits, shortedUnits,
        List.map_cons, List.sum_cons, add_assoc]
      congr 1
      by_cases hsame : boId = soId
      · simp [hsame]
      · simp [hsame]

theorem insertShorts_mem (boId : ℕ)
    (shorts : List ((PartialFulfillLineEntry × SalesOrderLine) × ℕ))
    {entry : ℕ × SalesOrderLine}
    (hentry : entry ∈ (shorts.foldl (fun store' short =>
        store'.insertLine (orderedLine boId short.1.2.itemId (short.2 + 1)
          short.1.1.shortQty)) store).salesOrderLines.entries) :
    entry ∈ store.salesOrderLines.entries ∨ entry.2.soId = boId := by
  induction shorts generalizing store with
  | nil => exact .inl hentry
  | cons short shorts ih =>
      rcases ih hentry with hold | hnew
      · rcases (Table.mem_insert _).mp hold with hstore | rfl
        · exact .inl hstore
        · exact .inr rfl
      · exact .inr hnew

/-! ## The stock -/

theorem Store.OneLot.writeShortAdjustment {itemId binId : ℕ}
    (hlot : store.OneLot itemId binId) (shortItem : ℕ) (shortQty : ℤ)
    (hinventory : after.inventory =
      (writeShortAdjustment store shortItem warehouseId shortQty).inventory) :
    after.OneLot itemId binId := by
  have hrows : ∀ entry ∈ after.inventory.entries, ∃ row,
      (entry.1, row) ∈ store.inventory.entries ∧
        row.inBin itemId binId = entry.2.inBin itemId binId ∧
        row.quantityAllocated = entry.2.quantityAllocated := by
    rw [hinventory, SentryWms.writeShortAdjustment]
    split
    · intro entry hentry
      exact ⟨entry.2, hentry, rfl, rfl⟩
    · rintro ⟨inventoryId, row⟩ hentry
      obtain ⟨before, hbefore, hrow⟩ := (Table.mem_mapRows _).mp hentry
      refine ⟨before, hbefore, ?_⟩
      rw [← hrow]
      split
      · exact ⟨rfl, rfl⟩
      · exact ⟨rfl, rfl⟩
  constructor
  · intro entry hentry entry' hentry' hbin hbin'
    obtain ⟨row, hrow, hsame, -⟩ := hrows entry hentry
    obtain ⟨row', hrow', hsame', -⟩ := hrows entry' hentry'
    rw [← hsame] at hbin
    rw [← hsame'] at hbin'
    exact hlot.unique (entry.1, row) hrow (entry'.1, row') hrow' hbin hbin'
  · intro entry hentry hbin
    obtain ⟨row, hrow, hsame, hallocated⟩ := hrows entry hentry
    rw [← hallocated]
    rw [← hsame] at hbin
    exact hlot.nonneg _ hrow hbin

theorem shortAdjustment_binOnHand {shortItem : ℕ} {shortQty : ℤ}
    {adjustment : ShortAdjustment}
    (hadjustment : shortAdjustment store shortItem warehouseId shortQty = some adjustment)
    (hlot : store.OneLot adjustment.itemId adjustment.binId) :
    (writeShortAdjustment store shortItem warehouseId shortQty).binOnHand
        adjustment.itemId adjustment.binId =
      store.binOnHand adjustment.itemId adjustment.binId + adjustment.quantityChange := by
  rw [shortAdjustment] at hadjustment
  split at hadjustment
  · cases hadjustment
  next inventoryId row rest hrows =>
    cases hadjustment
    rw [writeShortAdjustment, hrows]
    have hmem := mem_orderBy.mp (hrows ▸ List.mem_cons_self)
    obtain ⟨hrow, hcond⟩ := (Table.mem_select _).mp hmem
    rw [Bool.and_eq_true, Inventory.inWarehouse, Bool.and_eq_true, beq_iff_eq] at hcond
    have hbin : row.inBin shortItem row.binId := by
      rw [Inventory.inBin, hcond.1.1, BEq.rfl, BEq.rfl, Bool.and_true]
    have hnonneg : 0 ≤ row.quantityAllocated := hlot.nonneg _ hrow hbin
    have hsingle := store.inventory.total_single hrow fun _ _ => -min row.available shortQty
    dsimp only at hlot ⊢
    rw [← hsingle, Store.binOnHand, Store.binOnHand, Store.stock, Store.stock,
      Store.updateBin, Table.updateWhere, Table.total_mapRows, ← Table.total_add]
    apply Table.total_congr
    intro inventoryId' row' hrow'
    by_cases hbin' : row'.inBin shortItem row.binId
    · have hkey : inventoryId' = inventoryId := hlot.unique _ hrow' _ hrow hbin' hbin
      subst hkey
      have hsame := store.inventory.row_unique hrow' hrow
      subst hsame
      have hchanged : Inventory.inBin shortItem row'.binId
          { row' with
            quantityOnHand := max 0 (row'.quantityOnHand - min row'.available shortQty)
            updatedAt := store.now } = true := hbin
      have hcovered : 0 ≤ row'.quantityOnHand - min row'.available shortQty := by
        have hle := min_le_left row'.available shortQty
        dsimp only [Inventory.available] at hle ⊢
        omega
      rw [if_pos hbin, if_pos hchanged, if_pos rfl, if_pos hbin]
      dsimp only
      rw [max_eq_right hcovered, sub_eq_add_neg]
    · have hkey : inventoryId' ≠ inventoryId := by
        rintro rfl
        rw [store.inventory.row_unique hrow' hrow] at hbin'
        exact hbin' hbin
      rw [if_neg hbin', if_neg hbin', if_neg hkey, add_zero]

theorem shrinkLoop_dropped {state next : Shrinking}
    (hloop : shorts.foldlM (shrinkNoted warehouseId) state = .ok next) {written : WrittenShort}
    (hwritten : written ∈ next.adjustments) :
    written ∈ state.adjustments ∨
      (state.store.OneLot written.itemId written.binId →
        written.dropped = -written.quantityChange) := by
  induction shorts generalizing state with
  | nil =>
      cases hloop
      exact .inl hwritten
  | cons short shorts ih =>
      rw [List.foldlM_cons] at hloop
      obtain ⟨middle, hmiddle, hrest⟩ := bind_eq_ok.mp hloop
      rw [shrinkNoted] at hmiddle
      obtain ⟨shrunk, hshrunk, hok⟩ := bind_eq_ok.mp hmiddle
      cases hok
      have hinventory := (shrinkLine_spec hshrunk).inventory
      rcases ih hrest with hbefore | hafter
      · rcases List.mem_append.mp hbefore with hold | hnew
        · exact .inl hold
        · obtain ⟨adjustment, hmem, rfl⟩ := List.mem_map.mp hnew
          right
          intro hlot
          have hdrop := shortAdjustment_binOnHand (Option.mem_toList.mp hmem) hlot
          have hshrunkBin : shrunk.binOnHand adjustment.itemId adjustment.binId =
              (writeShortAdjustment state.store short.2.itemId warehouseId
                short.1.shortQty).binOnHand adjustment.itemId adjustment.binId := by
            rw [Store.binOnHand, Store.binOnHand, Store.stock, Store.stock, hinventory]
          dsimp only
          rw [hshrunkBin, hdrop]
          omega
      · right
        intro hlot
        exact hafter (hlot.writeShortAdjustment _ _ hinventory)

/-! ## The whole call -/

/-- `sales_order_lines.so_id REFERENCES sales_orders`. -/
def Store.LinesFiled (store : Store) : Prop :=
  ∀ soLineId line, (soLineId, line) ∈ store.salesOrderLines.entries →
    ∃ order, store.salesOrders.get? line.soId = some order

def splitSale : SalesOrder where
  soNumber := "SO-1"
  soBarcode := none
  status := .open
  warehouseId := 1
  orderType := .sale
  parentSoId := none
  cancellationReason := none

/-- A line for two units with nothing reserved. -/
def twoWanted : SalesOrderLine where
  soId := 1
  itemId := 1
  lineNumber := 1
  quantityOrdered := 2
  quantityAllocated := 0
  quantityPicked := 0

/-- An order for two units, one of which a bin holds. -/
def oneOfTwo : Store where
  warehouses := .ofRows [⟨"W", true⟩]
  items := .ofRows [⟨"A", none, [], true, none⟩]
  bins := .ofRows [⟨1, "B", .pickable, 1, true⟩]
  inventory := .ofRows [⟨1, 1, 1, 1, 0, none, 0⟩]
  salesOrders := .ofRows [splitSale]
  salesOrderLines := .ofRows [twoWanted]

def shortOne : List PartialFulfillLineEntry :=
  [⟨1, 1, Int.one_pos⟩]

theorem oneOfTwo_linesFiled : oneOfTwo.LinesFiled := by
  intro soLineId line hline
  rcases List.mem_singleton.mp hline with ⟨rfl, rfl⟩
  exact ⟨splitSale, rfl⟩

theorem oneOfTwo_accepted :
    ∃ result, partialFulfillNoted oneOfTwo false 1 shortOne = .ok result := by
  have haccept : (partialFulfillNoted oneOfTwo false 1 shortOne).isOk = true := by
    decide +kernel
  cases hresult : partialFulfillNoted oneOfTwo false 1 shortOne with
  | error error =>
      rw [hresult] at haccept
      cases haccept
  | ok result => exact ⟨result, rfl⟩

/-- The unit on the shelf is written off beside the backorder for it. -/
theorem partialFulfill_writesOffStock :
    ¬ ∀ (store after : Store) (fullEdit : Bool) (soId : ℕ) (order : SalesOrder)
        (lines : List PartialFulfillLineEntry) (adjustments : List WrittenShort),
      store.LinesFiled → store.salesOrders.get? soId = some order →
        order.status = .open →
        partialFulfillNoted store fullEdit soId lines = .ok (after, adjustments) →
        ∀ itemId, after.orderedUnits soId itemId +
              after.orderedUnits store.salesOrders.next itemId +
              writtenOff adjustments itemId =
            store.orderedUnits soId itemId := by
  intro hclaim
  obtain ⟨⟨after, adjustments⟩, haccept⟩ := oneOfTwo_accepted
  have hthree : (partialFulfillNoted oneOfTwo false 1 shortOne).map (fun result =>
      result.1.orderedUnits 1 1 + result.1.orderedUnits 2 1 + writtenOff result.2 1) =
        .ok 3 := by decide +kernel
  rw [haccept] at hthree
  have hthree : after.orderedUnits 1 1 + after.orderedUnits 2 1 +
      writtenOff adjustments 1 = 3 := Except.ok.inj hthree
  have htwo := hclaim oneOfTwo after false 1 splitSale shortOne adjustments
    oneOfTwo_linesFiled rfl rfl haccept 1
  have hordered : oneOfTwo.orderedUnits 1 1 = 2 := by decide +kernel
  have hnext : oneOfTwo.salesOrders.next = 2 := rfl
  rw [hnext, hordered] at htwo
  omega

/-- `partial_fulfill_sales_order` on any accepted request. -/
theorem partialFulfill_conserves {lines : List PartialFulfillLineEntry}
    {adjustments : List WrittenShort} (hfiled : store.LinesFiled)
    (haccept : partialFulfillNoted store fullEdit soId lines = .ok (after, adjustments)) :
    ((lines.map PartialFulfillLineEntry.soLineId).Nodup → ∀ itemId,
        after.orderedUnits soId itemId +
            after.orderedUnits store.salesOrders.next itemId =
          store.orderedUnits soId itemId) ∧
      (∀ soLineId line, (soLineId, line) ∈ after.salesOrderLines.entries →
        line.soId = soId → ∃ before,
          (soLineId, before) ∈ store.salesOrderLines.entries ∧
            line.quantityPicked = before.quantityPicked ∧
            (before.quantityPicked ≤ before.quantityOrdered →
              line.quantityPicked ≤ line.quantityOrdered)) ∧
      ∀ written ∈ adjustments, store.OneLot written.itemId written.binId →
        written.dropped = -written.quantityChange := by
  rw [partialFulfillNoted] at haccept
  split at haccept
  · cases haccept
  next order horder =>
    obtain ⟨-, -, haccept⟩ := bind_eq_ok.mp haccept
    obtain ⟨shorts, hshorts, haccept⟩ := bind_eq_ok.mp haccept
    obtain ⟨shrunk, hshrunk, haccept⟩ := bind_eq_ok.mp haccept
    obtain ⟨opened, hopened, hok⟩ := bind_eq_ok.mp haccept
    cases hok
    obtain ⟨hchecked, hlines⟩ := checkedShorts_of_mapM hshorts
    have hloop := foldlM_shrinkNoted order.warehouseId shorts ⟨store, []⟩
    rw [hshrunk] at hloop
    obtain ⟨horders, hshrunkLines⟩ := shrinkLoop_shrunk hchecked hloop.symm
    have hsoId : store.salesOrders.next ≠ soId := by
      have hmem := (store.salesOrders.get?_eq_some).mp horder
      exact (store.salesOrders.lt_next_of_mem hmem).ne'
    rw [openBackorder] at hopened
    split at hopened
    · cases hopened
    cases hopened
    rw [horders]
    refine ⟨?_, ?_, ?_⟩
    · intro hdistinct itemId
      have hids : (shorts.map fun short => short.1.soLineId) =
          lines.map PartialFulfillLineEntry.soLineId := by
        rw [← hlines, List.map_map]
        rfl
      have hshrunkUnits := shrinkLoop_orderedUnits
        (fun short hshort => ⟨(hchecked short hshort).1, (hchecked short hshort).2.1⟩)
        (hids ▸ hdistinct) hloop.symm itemId
      have hnone : shrunk.store.orderedUnits store.salesOrders.next itemId = 0 := by
        rw [orderedUnits_eq]
        apply Table.total_eq_zero
        intro soLineId line hline
        obtain ⟨before, quantityOrdered, hbefore, heq, -⟩ := hshrunkLines _ hline
        obtain ⟨owner, howner⟩ := hfiled _ _ hbefore
        have hlt := store.salesOrders.lt_next_of_mem
          ((store.salesOrders.get?_eq_some).mp howner)
        have hother : ¬ (line.soId == store.salesOrders.next) = true := by
          rw [beq_iff_eq]
          dsimp only at heq
          rw [heq, SalesOrderLine.setOrdered]
          exact hlt.ne
        exact if_neg hother
      rw [insertShorts_orderedUnits, insertShorts_orderedUnits, if_neg hsoId, if_pos rfl,
        List.zipIdx_map_fst]
      change shrunk.store.orderedUnits soId itemId + 0 +
        (shrunk.store.orderedUnits store.salesOrders.next itemId +
          shortedUnits shorts itemId) = _
      rw [hshrunkUnits, hnone]
      ring
    · intro soLineId line hline hof
      rcases insertShorts_mem _ _ hline with hshrunkLine | hnew
      · obtain ⟨before, quantityOrdered, hbefore, heq, hcovers⟩ := hshrunkLines _ hshrunkLine
        dsimp only at hbefore heq
        refine ⟨before, hbefore, by rw [heq, SalesOrderLine.setOrdered], ?_⟩
        intro hpicked
        rw [heq, SalesOrderLine.setOrdered]
        rcases hcovers with rfl | hcover
        · exact hpicked
        · exact hcover
      · exact absurd (hnew.symm.trans hof) hsoId
    · intro written hwritten hlot
      rcases shrinkLoop_dropped hshrunk hwritten with hnone | hdropped
      · cases hnone
      · exact hdropped hlot

theorem partialFulfill_conserves_oneOfTwo :
    ∃ after adjustments,
      partialFulfillNoted oneOfTwo false 1 shortOne = .ok (after, adjustments) ∧
        after.orderedUnits 1 1 + after.orderedUnits 2 1 = oneOfTwo.orderedUnits 1 1 := by
  obtain ⟨⟨after, adjustments⟩, haccept⟩ := oneOfTwo_accepted
  exact ⟨after, adjustments, haccept,
    (partialFulfill_conserves oneOfTwo_linesFiled haccept).1 (by decide) 1⟩

end Shrink

end SentryWms
