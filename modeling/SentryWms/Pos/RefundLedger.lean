import SentryWms.Pos.Refund

/-!
# Refunds against the sale

The credit memos of a sale are its ledger: they refund of every item what the
refunds of the sale put back into stock, and never more than the sale took. Location
by location only each request is bounded, because a memo line records no location.
-/

namespace SentryWms

open Relational Transition

/-! ## Codes -/

structure SameCodes (store after : Store) : Prop where
  items : after.items.entries = store.items.entries
  warehouses : after.warehouses.entries = store.warehouses.entries
  bins : after.bins.entries = store.bins.entries

section Codes

variable {store after : Store}

theorem SameCodes.refl (store : Store) : SameCodes store store :=
  ⟨rfl, rfl, rfl⟩

theorem SameCodes.trans {middle : Store} (hfirst : SameCodes store middle)
    (hnext : SameCodes middle after) : SameCodes store after where
  items := hnext.items.trans hfirst.items
  warehouses := hnext.warehouses.trans hfirst.warehouses
  bins := hnext.bins.trans hfirst.bins

theorem SameCodes.itemBySku (hsame : SameCodes store after) (sku : String) :
    after.itemBySku sku = store.itemBySku sku := by
  rw [Store.itemBySku, Store.itemBySku, hsame.items]

theorem SameCodes.resolveLocation (hsame : SameCodes store after) (line : SaleLine) :
    resolveLocation after line = resolveLocation store line := by
  have hbin : after.binByCode = store.binByCode := by
    funext warehouseId code
    rw [Store.binByCode, Store.binByCode, hsame.bins]
  rw [SentryWms.resolveLocation, SentryWms.resolveLocation, hsame.itemBySku,
    Store.warehouseByCode, Store.warehouseByCode, hsame.warehouses, hbin]

variable {line : SaleLine}

theorem resolveLocation_eq_some {location : Location} :
    resolveLocation store line = some location ↔
      ∃ item, store.itemBySku line.sku = some (location.itemId, item) ∧
        store.warehouseByCode line.warehouseCode = some location.warehouseId ∧
        store.binByCode location.warehouseId line.binCode = some location.binId := by
  simp only [resolveLocation, bind, Option.bind_eq_some_iff]
  constructor
  · rintro ⟨item, hitem, warehouseId, hwarehouse, binId, hbin, hlocation⟩
    cases hlocation
    exact ⟨item.2, hitem, hwarehouse, hbin⟩
  · rintro ⟨item, hitem, hwarehouse, hbin⟩
    exact ⟨_, hitem, _, hwarehouse, _, hbin, rfl⟩

theorem itemBySku_mem {sku : String} {entry : ℕ × Item}
    (hitem : store.itemBySku sku = some entry) :
    entry ∈ store.items.entries ∧ entry.2.sku = sku :=
  ⟨List.mem_of_find?_eq_some hitem, by simpa using List.find?_some hitem⟩

theorem warehouseByCode_mem {code : String} {warehouseId : ℕ}
    (hwarehouse : store.warehouseByCode code = some warehouseId) :
    ∃ warehouse, (warehouseId, warehouse) ∈ store.warehouses.entries ∧
      warehouse.warehouseCode = code := by
  obtain ⟨entry, hfind, rfl⟩ := Option.map_eq_some_iff.mp hwarehouse
  exact ⟨entry.2, List.mem_of_find?_eq_some hfind, by simpa using List.find?_some hfind⟩

theorem binByCode_mem {warehouseId binId : ℕ} {code : String}
    (hbin : store.binByCode warehouseId code = some binId) :
    ∃ bin, (binId, bin) ∈ store.bins.entries ∧ bin.binCode = code := by
  obtain ⟨entry, hfind, rfl⟩ := Option.map_eq_some_iff.mp hbin
  have hcond := List.find?_some hfind
  rw [Bool.and_eq_true, beq_iff_eq] at hcond
  exact ⟨entry.2, List.mem_of_find?_eq_some hfind, hcond.1⟩

theorem codes_of_location {line' : SaleLine} {location : Location}
    (hline : resolveLocation store line = some location)
    (hline' : resolveLocation store line' = some location) :
    line.codes = line'.codes := by
  obtain ⟨item, hitem, hwarehouse, hbin⟩ := resolveLocation_eq_some.mp hline
  obtain ⟨item', hitem', hwarehouse', hbin'⟩ := resolveLocation_eq_some.mp hline'
  have hsku : line.sku = line'.sku := by
    obtain ⟨hmem, hsku⟩ := itemBySku_mem hitem
    obtain ⟨hmem', hsku'⟩ := itemBySku_mem hitem'
    have hsame : item = item' := store.items.row_unique hmem hmem'
    exact hsku.symm.trans ((congrArg Item.sku hsame).trans hsku')
  have hcode : line.warehouseCode = line'.warehouseCode := by
    obtain ⟨warehouse, hmem, hcode⟩ := warehouseByCode_mem hwarehouse
    obtain ⟨warehouse', hmem', hcode'⟩ := warehouseByCode_mem hwarehouse'
    have hsame : warehouse = warehouse' := store.warehouses.row_unique hmem hmem'
    exact hcode.symm.trans ((congrArg Warehouse.warehouseCode hsame).trans hcode')
  have hbinCode : line.binCode = line'.binCode := by
    obtain ⟨bin, hmem, hcode⟩ := binByCode_mem hbin
    obtain ⟨bin', hmem', hcode'⟩ := binByCode_mem hbin'
    have hsame : bin = bin' := store.bins.row_unique hmem hmem'
    exact hcode.symm.trans ((congrArg Bin.binCode hsame).trans hcode')
  rw [SaleLine.codes, SaleLine.codes, hsku, hcode, hbinCode]

theorem location_of_codes (store : Store) {line' : SaleLine}
    (hcodes : line.codes = line'.codes) :
    resolveLocation store line = resolveLocation store line' := by
  simp only [SaleLine.codes, Prod.mk.injEq] at hcodes
  rw [resolveLocation, resolveLocation, hcodes.1, hcodes.2.1, hcodes.2.2]

end Codes

/-! ## Quantities -/

/-- What lines say of the locations that satisfy a condition. -/
def placedQuantity (lines : List PlacedLine) (cond : Location → Bool) : ℤ :=
  ((lines.filter fun placed => cond placed.location).map
    fun placed => placed.line.quantity).sum

def soldAt (store : Store) (lines : List SaleLine) (location : Location) : ℤ :=
  ((lines.filter fun line => resolveLocation store line == some location).map
    SaleLine.quantity).sum

def soldOf (store : Store) (lines : List SaleLine) (itemId : ℕ) : ℤ :=
  ((lines.filter fun line => (store.itemBySku line.sku).map Prod.fst == some itemId).map
    SaleLine.quantity).sum

/-- The lines stand where their codes lead. -/
def AllPlaced (store : Store) (lines : List PlacedLine) : Prop :=
  ∀ placed ∈ lines, resolveLocation store placed.line = some placed.location

section Quantities

variable {store after : Store} {placed requested : List PlacedLine}

theorem placedQuantity_cons (line : PlacedLine) (lines : List PlacedLine)
    (cond : Location → Bool) :
    placedQuantity (line :: lines) cond =
      (if cond line.location then line.line.quantity else 0) +
        placedQuantity lines cond := by
  rw [placedQuantity, placedQuantity, List.filter_cons]
  split <;> simp

theorem placedQuantity_perm {lines : List PlacedLine} (hperm : lines.Perm placed)
    (cond : Location → Bool) : placedQuantity lines cond = placedQuantity placed cond :=
  ((hperm.filter _).map _).sum_eq

theorem placedQuantity_congr {cond cond' : Location → Bool}
    (hcond : ∀ line ∈ placed, cond line.location = cond' line.location) :
    placedQuantity placed cond = placedQuantity placed cond' := by
  rw [placedQuantity, placedQuantity, List.filter_congr hcond]

theorem placedQuantity_nonneg (hnonneg : ∀ line ∈ placed, 0 ≤ line.line.quantity)
    (cond : Location → Bool) : 0 ≤ placedQuantity placed cond := by
  apply List.sum_nonneg
  intro quantity hquantity
  obtain ⟨line, hline, rfl⟩ := List.mem_map.mp hquantity
  exact hnonneg line (List.mem_filter.mp hline).1

theorem itemQuantity_eq (lines : List PlacedLine) (itemId : ℕ) :
    itemQuantity lines itemId =
      placedQuantity lines fun location => location.itemId == itemId := rfl

theorem codeQuantity_eq (hplaced : AllPlaced store placed) {line : SaleLine}
    {location : Location} (hline : resolveLocation store line = some location) :
    codeQuantity placed line.codes =
      placedQuantity placed fun location' => location' == location := by
  rw [codeQuantity, placedQuantity]
  congr 2
  apply List.filter_congr
  intro entry hentry
  rw [Bool.eq_iff_iff, beq_iff_eq, beq_iff_eq]
  constructor
  · intro hcodes
    have hsame := location_of_codes store hcodes
    rw [hplaced entry hentry, hline] at hsame
    exact Option.some.inj hsame
  · intro hlocation
    rw [← hlocation] at hline
    exact codes_of_location (hplaced entry hentry) hline

theorem placeLines_spec {entries : List (SaleLine × ℕ)}
    (hplace : (entries.mapM fun entry => placeLine store entry.1 entry.2) = .ok placed) :
    placed.map PlacedLine.line = entries.map Prod.fst ∧ AllPlaced store placed := by
  induction entries generalizing placed with
  | nil =>
      cases hplace
      exact ⟨rfl, List.forall_mem_nil _⟩
  | cons entry entries ih =>
      rw [List.mapM_cons] at hplace
      obtain ⟨line, hline, hplace⟩ := bind_eq_ok.mp hplace
      obtain ⟨rest, hrest, hplace⟩ := bind_eq_ok.mp hplace
      cases hplace
      obtain ⟨hlines, hplaced⟩ := ih hrest
      rw [placeLine] at hline
      split at hline
      · cases hline
      next location hlocation =>
        cases hline
        refine ⟨?_, List.forall_mem_cons.mpr ⟨hlocation, hplaced⟩⟩
        rw [List.map_cons, List.map_cons, hlines]

theorem bulkResolveLocations_spec {lines : List SaleLine}
    (hresolve : bulkResolveLocations store lines = .ok placed) :
    placed.map PlacedLine.line = lines ∧ AllPlaced store placed := by
  obtain ⟨hlines, hplaced⟩ := placeLines_spec hresolve
  rw [List.zipIdx_map_fst] at hlines
  exact ⟨hlines, hplaced⟩

theorem placedQuantity_map (hplaced : AllPlaced store placed) {cond : Location → Bool}
    {cond' : SaleLine → Bool}
    (hcond : ∀ line location, resolveLocation store line = some location →
      cond' line = cond location) :
    placedQuantity placed cond =
      (((placed.map PlacedLine.line).filter cond').map SaleLine.quantity).sum := by
  rw [List.filter_map, List.map_map, placedQuantity]
  congr 2
  apply List.filter_congr
  intro line hline
  exact (hcond line.line line.location (hplaced line hline)).symm

theorem soldAt_eq (hplaced : AllPlaced store placed) (location : Location) :
    soldAt store (placed.map PlacedLine.line) location =
      placedQuantity placed fun location' => location' == location := by
  rw [soldAt, placedQuantity_map hplaced]
  intro line location' hlocation
  rw [hlocation, Bool.eq_iff_iff, beq_iff_eq, beq_iff_eq, Option.some.injEq]

theorem soldOf_eq (hplaced : AllPlaced store placed) (itemId : ℕ) :
    soldOf store (placed.map PlacedLine.line) itemId = itemQuantity placed itemId := by
  rw [soldOf, itemQuantity_eq, placedQuantity_map hplaced]
  intro line location hlocation
  obtain ⟨item, hitem, -, -⟩ := resolveLocation_eq_some.mp hlocation
  rw [hitem, Option.map_some, Bool.eq_iff_iff, beq_iff_eq, beq_iff_eq, Option.some.injEq]

theorem SameCodes.soldAt (hsame : SameCodes store after) (lines : List SaleLine)
    (location : Location) : soldAt after lines location = soldAt store lines location := by
  rw [SentryWms.soldAt, SentryWms.soldAt]
  simp only [hsame.resolveLocation]

theorem SameCodes.soldOf (hsame : SameCodes store after) (lines : List SaleLine)
    (itemId : ℕ) : soldOf after lines itemId = soldOf store lines itemId := by
  rw [SentryWms.soldOf, SentryWms.soldOf]
  simp only [hsame.itemBySku]

end Quantities

/-! ## Requests -/

section Requests

variable {store : Store} {body : RefundBody} {placed requested : List PlacedLine}

theorem originalLines_spec {originalSoId : ℕ}
    (horiginal : originalLines store originalSoId body = .ok placed) :
    ∃ audit, store.auditOf originalSoId = some audit ∧
      placed.map PlacedLine.line = audit.lines ∧ AllPlaced store placed := by
  rw [originalLines] at horiginal
  split at horiginal
  · cases horiginal
  next audit haudit =>
    split at horiginal
    · cases horiginal
    split at horiginal
    · cases horiginal
    split at horiginal
    · cases horiginal
    next lines hresolve =>
      cases horiginal
      exact ⟨audit, haudit, bulkResolveLocations_spec hresolve⟩

/-- What is asked for stands on the sale, is positive, and wants of no location more
than the sale took from it. -/
structure WithinSale (original requested : List PlacedLine) : Prop where
  sold : ∀ line ∈ requested, ∃ line' ∈ original, line'.location = line.location
  positive : ∀ line ∈ requested, 1 ≤ line.line.quantity
  location : ∀ location,
    placedQuantity requested (fun location' => location' == location) ≤
      placedQuantity original fun location' => location' == location

theorem requestedLines_spec (hplaced : AllPlaced store placed)
    (hpositive : ∀ line ∈ placed, 1 ≤ line.line.quantity)
    (hrequest : requestedLines store body placed = .ok requested) :
    WithinSale placed requested := by
  rw [requestedLines] at hrequest
  split at hrequest
  · cases hrequest
    exact ⟨fun line hline => ⟨line, hline, rfl⟩, hpositive, fun _ => le_refl _⟩
  next cart hcart =>
    split at hrequest
    · cases hrequest
    next _ hresolve =>
      split at hrequest
      · cases hrequest
      next hnone =>
        cases hrequest
        obtain ⟨hlines, hallPlaced⟩ := bulkResolveLocations_spec hresolve
        have hwithin : ∀ line ∈ requested,
            (∃ line' ∈ placed, line'.line.codes = line.line.codes) ∧
              codeQuantity requested line.line.codes ≤
                codeQuantity placed line.line.codes := by
          intro line hline
          have hexceeds := List.find?_eq_none.mp hnone line hline
          simpa [PlacedLine.exceeds] using hexceeds
        have hquantity : ∀ line ∈ requested, 1 ≤ line.line.quantity := by
          intro line hline
          have hmem : line.line ∈ cart.lines.map CartLine.saleLine := by
            rw [← hlines]
            exact List.mem_map_of_mem hline
          obtain ⟨cartLine, -, hcartLine⟩ := List.mem_map.mp hmem
          rw [← hcartLine]
          exact cartLine.quantityMin
        refine ⟨?_, hquantity, ?_⟩
        · intro line hline
          obtain ⟨⟨line', hline', hcodes⟩, -⟩ := hwithin line hline
          refine ⟨line', hline', ?_⟩
          have hsame := location_of_codes store hcodes
          rw [hplaced line' hline', hallPlaced line hline] at hsame
          exact Option.some.inj hsame
        · intro location
          by_cases hany : ∃ line ∈ requested, line.location = location
          · obtain ⟨line, hline, rfl⟩ := hany
            have hbound := (hwithin line hline).2
            rwa [codeQuantity_eq hallPlaced (hallPlaced line hline),
              codeQuantity_eq hplaced (hallPlaced line hline)] at hbound
          · have hzero : placedQuantity requested (fun location' => location' == location) =
                0 := by
              rw [placedQuantity, List.filter_eq_nil_iff.mpr]
              · rfl
              · intro line hline
                rw [beq_iff_eq]
                exact fun hlocation => hany ⟨line, hline, hlocation⟩
            rw [hzero]
            exact placedQuantity_nonneg
              (fun line hline => le_trans zero_le_one (hpositive line hline)) _

theorem checkRemaining_spec {originalSoId : ℕ}
    (hcheck : checkRemaining store originalSoId placed requested = .ok ()) :
    ∀ line ∈ requested, store.refundedUnits originalSoId line.location.itemId +
      itemQuantity requested line.location.itemId ≤
        itemQuantity placed line.location.itemId := by
  rw [checkRemaining] at hcheck
  split at hcheck
  next hnone =>
    intro line hline
    simpa using List.find?_eq_none.mp hnone line hline
  · cases hcheck

end Requests

/-! ## Stock by location -/

def Inventory.location (row : Inventory) : Location where
  itemId := row.itemId
  warehouseId := row.warehouseId
  binId := row.binId

/-- What the rows hold whose location satisfies a condition. -/
def Store.onHandWhere (store : Store) (cond : Location → Bool) : ℤ :=
  store.stock (fun row => cond row.location) Inventory.quantityOnHand

def Store.onHandAt (store : Store) (location : Location) : ℤ :=
  store.onHandWhere fun location' => location' == location

section Restock

variable {store after : Store} {memoSoId : ℕ}

theorem firstRow_mem {location : Location} {entry : ℕ × Inventory}
    (hfirst : store.firstRow location = some entry) :
    entry ∈ store.inventory.entries ∧ entry.2.location = location := by
  refine ⟨List.mem_of_find?_eq_some hfirst, ?_⟩
  have hcond := List.find?_some hfirst
  simp only [Inventory.atLocation, Bool.and_eq_true, beq_iff_eq] at hcond
  rw [Inventory.location, hcond.1.1, hcond.1.2, hcond.2]

theorem onHandWhere_modify {inventoryId : ℕ} {row : Inventory}
    (hmem : (inventoryId, row) ∈ store.inventory.entries)
    (change : Inventory → Inventory) (hlocation : (change row).location = row.location)
    (cond : Location → Bool) :
    Store.onHandWhere
        { store with inventory := store.inventory.modify inventoryId change } cond =
      store.onHandWhere cond +
        if cond row.location then (change row).quantityOnHand - row.quantityOnHand
        else 0 := by
  rw [Store.onHandWhere, Store.stock, Table.total_modify _ hmem, hlocation]
  split
  · rfl
  · rw [sub_self]
    rfl

theorem restockLine_spec {placed : PlacedLine}
    (hrestock : restockLine memoSoId store placed = .ok after) :
    (∃ inventory, after =
      { store with
        inventory
        salesOrderLines := store.salesOrderLines.insert (placed.memoLine memoSoId) }) ∧
      ∀ cond, after.onHandWhere cond = store.onHandWhere cond +
        if cond placed.location then placed.line.quantity else 0 := by
  rw [restockLine] at hrestock
  split at hrestock
  · cases hrestock
  next inventoryId row hfirst =>
    cases hrestock
    obtain ⟨hmem, hlocation⟩ := firstRow_mem hfirst
    refine ⟨⟨_, rfl⟩, fun cond => ?_⟩
    have hmove := onHandWhere_modify hmem
      (fun row =>
        { row with
          quantityOnHand := row.quantityOnHand + placed.line.quantity
          updatedAt := store.now }) rfl cond
    rw [hlocation, add_sub_cancel_left] at hmove
    exact hmove

def insertMemoLines (memoSoId : ℕ) (lines : List PlacedLine)
    (table : Table SalesOrderLine) : Table SalesOrderLine :=
  lines.foldl (fun table placed => table.insert (placed.memoLine memoSoId)) table

theorem restockLines_spec {lines : List PlacedLine}
    (hrestock : lines.foldlM (restockLine memoSoId) store = .ok after) :
    (∃ inventory, after =
      { store with
        inventory
        salesOrderLines := insertMemoLines memoSoId lines store.salesOrderLines }) ∧
      ∀ cond, after.onHandWhere cond =
        store.onHandWhere cond + placedQuantity lines cond := by
  induction lines generalizing store with
  | nil =>
      cases hrestock
      exact ⟨⟨_, rfl⟩, fun cond => (add_zero _).symm⟩
  | cons placed lines ih =>
      rw [List.foldlM_cons] at hrestock
      obtain ⟨middle, hmiddle, hrest⟩ := bind_eq_ok.mp hrestock
      obtain ⟨⟨inventory, rfl⟩, hline⟩ := restockLine_spec hmiddle
      obtain ⟨⟨inventory', rfl⟩, hlines⟩ := ih hrest
      refine ⟨⟨inventory', rfl⟩, fun cond => ?_⟩
      rw [hlines, hline, placedQuantity_cons, add_assoc]

end Restock

/-! ## The ledger -/

def Store.isRefunded (store : Store) (soId : ℕ) : Bool :=
  (store.salesOrders.get? soId).any fun order => order.status == .refunded

/-- Every line belongs to an order whose number was handed out. -/
def Store.LinesLinked (store : Store) : Prop :=
  ∀ entry ∈ store.salesOrderLines.entries, entry.2.soId < store.salesOrders.next

def Store.shippedUnits (store : Store) (soId itemId : ℕ) : ℤ :=
  store.salesOrderLines.total fun _ line =>
    if line.soId = soId ∧ line.itemId = itemId then line.quantityShipped else 0

def PlacedLine.ledgerEntry (placed : PlacedLine) : ℕ × ℤ :=
  (placed.location.itemId, placed.line.quantity)

section Ledger

variable {store after : Store} {memoSoId originalSoId soId : ℕ}

theorem refundLedger_congr (hlines : after.salesOrderLines = store.salesOrderLines)
    (hmemo : ∀ entry ∈ store.salesOrderLines.entries,
      after.isMemoOf soId entry.2.soId = store.isMemoOf soId entry.2.soId) :
    after.refundLedger soId = store.refundLedger soId := by
  rw [Store.refundLedger, Store.refundLedger, hlines, Table.select, Table.select,
    List.filter_congr hmemo]

theorem isMemoOf_modify (key : ℕ) (change : SalesOrder → SalesOrder)
    (hafter : after.salesOrders = store.salesOrders.modify key change)
    (hparent : ∀ order, (change order).parentSoId = order.parentSoId)
    (htype : ∀ order, (change order).orderType = order.orderType) (memo : ℕ) :
    after.isMemoOf soId memo = store.isMemoOf soId memo := by
  rw [Store.isMemoOf, Store.isMemoOf, hafter, Table.modify, Table.get?_mapRows,
    Option.any_map]
  congr 1
  funext order
  split
  · rw [hparent, htype]
  · rfl

theorem isMemoOf_insert {order : SalesOrder} {memo : ℕ}
    (hafter : after.salesOrders = store.salesOrders.insert order)
    (hmemo : memo ≠ store.salesOrders.next) :
    after.isMemoOf soId memo = store.isMemoOf soId memo := by
  rw [Store.isMemoOf, Store.isMemoOf, hafter, Table.get?_insert_of_ne _ hmemo]

theorem refundLedger_insertMemoLines (lines : List PlacedLine) (store : Store) :
    Store.refundLedger
        { store with
          salesOrderLines := insertMemoLines memoSoId lines store.salesOrderLines }
        soId =
      store.refundLedger soId ++
        if store.isMemoOf soId memoSoId then lines.map PlacedLine.ledgerEntry else [] := by
  induction lines generalizing store with
  | nil =>
      rw [List.map_nil, ite_self, List.append_nil]
      rfl
  | cons placed lines ih =>
      have hinserted : Store.refundLedger
          { store with
            salesOrderLines :=
              store.salesOrderLines.insert (placed.memoLine memoSoId) } soId =
          store.refundLedger soId ++
            if store.isMemoOf soId memoSoId then [placed.ledgerEntry] else [] := by
        rw [Store.refundLedger]
        dsimp only
        rw [Table.select_insert, List.map_append]
        congr 1
        change List.map _ (if store.isMemoOf soId memoSoId then _ else _) = _
        split
        · simp only [List.map_cons, List.map_nil, PlacedLine.memoLine, neg_neg]
          rfl
        · rfl
      have hrest := ih
        { store with
          salesOrderLines := store.salesOrderLines.insert (placed.memoLine memoSoId) }
      rw [hinserted] at hrest
      refine hrest.trans ?_
      change _ ++ (if store.isMemoOf soId memoSoId then _ else _) = _
      rw [List.append_assoc]
      congr 1
      split <;> rfl

theorem ledgerUnits_append (left right : List (ℕ × ℤ)) (itemId : ℕ) :
    ledgerUnits (left ++ right) itemId = ledgerUnits left itemId +
      ledgerUnits right itemId := by
  simp only [ledgerUnits, List.filter_append, List.map_append, List.sum_append]

theorem ledgerUnits_placed (lines : List PlacedLine) (itemId : ℕ) :
    ledgerUnits (lines.map PlacedLine.ledgerEntry) itemId = itemQuantity lines itemId := by
  rw [ledgerUnits, itemQuantity, List.filter_map, List.map_map]
  rfl

end Ledger

/-! ## One refund -/

/-- What an accepted refund of a sale does. -/
structure Refunded (store after : Store) (originalSoId : ℕ)
    (placed requested : List PlacedLine) : Prop where
  codes : SameCodes store after
  audits : after.posCheckouts = store.posCheckouts
  onHand : ∀ cond, after.onHandWhere cond =
    store.onHandWhere cond + placedQuantity requested cond
  ledger : ∀ soId, after.refundLedger soId = store.refundLedger soId ++
    if soId = originalSoId then (sortPlaced requested).map PlacedLine.ledgerEntry else []
  closed : ∀ soId, soId < store.salesOrders.next →
    after.isRefunded soId = (store.isRefunded soId ||
      decide (soId = originalSoId) && fullyRefunded store originalSoId placed requested)
  shipped : ∀ soId, soId < store.salesOrders.next → ∀ itemId,
    after.shippedUnits soId itemId = store.shippedUnits soId itemId
  next : after.salesOrders.next = store.salesOrders.next + 1
  linked : after.LinesLinked

section Refunds

variable {store after : Store} {body : RefundBody} {originalSoId : ℕ}
  {original : SalesOrder} {placed requested : List PlacedLine}
  {response : RefundResponse}

theorem insertMemo_spec {inserted : Store × ℕ × String}
    (hinsert : insertMemo store body originalSoId original = .ok inserted) :
    inserted.1 = { store with
        salesOrders := store.salesOrders.insert
          (body.memo store.now originalSoId original inserted.2.2) } ∧
      inserted.2.1 = store.salesOrders.next := by
  rw [insertMemo] at hinsert
  split at hinsert
  · cases hinsert
  split at hinsert
  · cases hinsert
  rw [insertSalesOrder] at hinsert
  split at hinsert
  · cases hinsert
  next memo memoSoId hmemo =>
    cases hinsert
    split at hmemo
    · cases hmemo
    · cases hmemo
      exact ⟨rfl, rfl⟩

theorem mem_insertMemoLines {memoSoId : ℕ} {lines : List PlacedLine}
    {table : Table SalesOrderLine} {entry : ℕ × SalesOrderLine}
    (hentry : entry ∈ (insertMemoLines memoSoId lines table).entries) :
    entry ∈ table.entries ∨ entry.2.soId = memoSoId := by
  induction lines generalizing table with
  | nil => exact .inl hentry
  | cons placed lines ih =>
      rcases ih hentry with hold | hnew
      · rcases (Table.mem_insert _).mp hold with hold | rfl
        · exact .inl hold
        · exact .inr rfl
      · exact .inr hnew

theorem shippedUnits_insertMemoLines {memoSoId : ℕ} {soId : ℕ} (hne : memoSoId ≠ soId)
    (itemId : ℕ) (lines : List PlacedLine) (store : Store) :
    Store.shippedUnits
        { store with
          salesOrderLines := insertMemoLines memoSoId lines store.salesOrderLines }
        soId itemId = store.shippedUnits soId itemId := by
  induction lines generalizing store with
  | nil => rfl
  | cons placed lines ih =>
      refine (ih
        { store with
          salesOrderLines :=
            store.salesOrderLines.insert (placed.memoLine memoSoId) }).trans ?_
      rw [Store.shippedUnits, Table.total_insert, if_neg, add_zero]
      · rfl
      · exact fun hsame => hne hsame.1

theorem isRefunded_modify (key : ℕ) (change : SalesOrder → SalesOrder)
    (hafter : after.salesOrders = store.salesOrders.modify key change)
    (hstatus : ∀ order, (change order).status = order.status) (soId : ℕ) :
    after.isRefunded soId = store.isRefunded soId := by
  rw [Store.isRefunded, Store.isRefunded, hafter, Table.modify, Table.get?_mapRows,
    Option.any_map]
  congr 1
  funext order
  split
  · rw [hstatus]
  · rfl

theorem isRefunded_closeOriginal (memoSoId soId : ℕ)
    (horiginal : (store.salesOrders.get? originalSoId).isSome = true) :
    (store.closeOriginal originalSoId memoSoId).isRefunded soId =
      (store.isRefunded soId || decide (soId = originalSoId)) := by
  rw [Store.isRefunded, Store.closeOriginal]
  dsimp only
  by_cases hsame : soId = originalSoId
  · subst hsame
    obtain ⟨order, horder⟩ := Option.isSome_iff_exists.mp horiginal
    rw [Table.modify, Table.get?_mapRows, horder]
    simp [SalesOrder.close]
  · rw [Table.get?_modify_of_ne _ hsame, Store.isRefunded, decide_eq_false hsame,
      Bool.or_false]

theorem isMemoOf_cacheRefund (store : Store) (memoSoId : ℕ) (cached : CachedRefund)
    (soId memo : ℕ) :
    (store.cacheRefund memoSoId cached).isMemoOf soId memo = store.isMemoOf soId memo :=
  isMemoOf_modify memoSoId cached.record rfl (fun _ => rfl) (fun _ => rfl) memo

theorem isRefunded_cacheRefund (store : Store) (memoSoId : ℕ) (cached : CachedRefund)
    (soId : ℕ) :
    (store.cacheRefund memoSoId cached).isRefunded soId = store.isRefunded soId :=
  isRefunded_modify memoSoId cached.record rfl (fun _ => rfl) soId

theorem isMemoOf_closeOriginal (store : Store) (originalSoId memoSoId soId memo : ℕ) :
    (store.closeOriginal originalSoId memoSoId).isMemoOf soId memo =
      store.isMemoOf soId memo :=
  isMemoOf_modify originalSoId (SalesOrder.close store.now memoSoId) rfl (fun _ => rfl)
    (fun _ => rfl) memo

theorem finishRefund_spec (store : Store) (originalSoId memoSoId : ℕ) (full : Bool)
    (cached : CachedRefund)
    (horiginal : (store.salesOrders.get? originalSoId).isSome = true)
    (hafter : after = ((if full then store.closeOriginal originalSoId memoSoId
      else store).cacheRefund memoSoId cached)) :
    (∃ salesOrders, after = { store with salesOrders }) ∧
      (∀ soId memo, after.isMemoOf soId memo = store.isMemoOf soId memo) ∧
      (∀ soId, after.isRefunded soId =
        (store.isRefunded soId || decide (soId = originalSoId) && full)) ∧
      after.salesOrders.next = store.salesOrders.next := by
  cases full with
  | false =>
      rw [hafter, if_neg Bool.false_ne_true]
      refine ⟨⟨_, rfl⟩, fun soId memo => ?_, fun soId => ?_, rfl⟩
      · exact isMemoOf_cacheRefund store memoSoId cached soId memo
      · rw [Bool.and_false, Bool.or_false]
        exact isRefunded_cacheRefund store memoSoId cached soId
  | true =>
      rw [hafter, if_pos rfl]
      refine ⟨⟨_, rfl⟩, fun soId memo => ?_, fun soId => ?_, rfl⟩
      · rw [isMemoOf_cacheRefund]
        exact isMemoOf_closeOriginal store originalSoId memoSoId soId memo
      · rw [Bool.and_true, isRefunded_cacheRefund,
          isRefunded_closeOriginal memoSoId soId horiginal]

theorem isMemoOf_memo (body : RefundBody) (soNumber : String) (soId : ℕ)
    (hafter : after.salesOrders = store.salesOrders.insert
      (body.memo store.now originalSoId original soNumber)) :
    after.isMemoOf soId store.salesOrders.next = decide (soId = originalSoId) := by
  rw [Store.isMemoOf, hafter, Table.get?_insert_self, Option.any_some, RefundBody.memo,
    beq_self_eq_true, Bool.and_true, Bool.eq_iff_iff, beq_iff_eq, decide_eq_true_eq,
    Option.some.injEq]
  exact eq_comm

theorem writeRefund_spec (hlinked : store.LinesLinked)
    (horiginal : (originalSoId, original) ∈ store.salesOrders.entries)
    (hwrite : writeRefund store body originalSoId original placed requested =
      .ok (after, response)) :
    Refunded store after originalSoId placed requested := by
  rw [writeRefund] at hwrite
  obtain ⟨⟨inserted, memoSoId, soNumber⟩, hinsert, hwrite⟩ := bind_eq_ok.mp hwrite
  obtain ⟨restocked, hrestock, hwrite⟩ := bind_eq_ok.mp hwrite
  cases hwrite
  obtain ⟨hinserted, hmemo⟩ := insertMemo_spec hinsert
  dsimp only at hinserted hmemo
  subst hinserted hmemo
  obtain ⟨⟨inventory, hrestocked⟩, honHand⟩ := restockLines_spec hrestock
  have hne : originalSoId ≠ store.salesOrders.next :=
    ne_of_lt (Table.lt_next_of_mem _ horiginal)
  have hfound : (restocked.salesOrders.get? originalSoId).isSome = true := by
    rw [hrestocked, Table.get?_insert_of_ne _ hne, (Table.get?_eq_some _).mpr horiginal]
    rfl
  obtain ⟨⟨salesOrders, hafter⟩, hmemo, hclosed, hnext⟩ := finishRefund_spec restocked
    originalSoId store.salesOrders.next
    (fullyRefunded store originalSoId placed requested)
    { refundSoId := soNumber, originalSoId := original.soNumber,
      fullyRefunded := fullyRefunded store originalSoId placed requested } hfound rfl
  constructor
  · rw [hafter, hrestocked]
    exact ⟨rfl, rfl, rfl⟩
  · rw [hafter, hrestocked]
  · intro cond
    have hperm : (sortPlaced requested).Perm requested :=
      List.perm_insertionSort _ requested
    rw [← placedQuantity_perm hperm cond, hafter]
    exact honHand cond
  · intro soId
    rw [refundLedger_congr (by rw [hafter]) fun entry _ => hmemo soId _, hrestocked]
    refine (refundLedger_insertMemoLines (sortPlaced requested) _).trans ?_
    rw [isMemoOf_memo body soNumber soId rfl]
    congr 1
    · exact refundLedger_congr rfl fun entry hentry =>
        isMemoOf_insert rfl (ne_of_lt (hlinked entry hentry))
    · simp only [decide_eq_true_eq]
  · intro soId hlt
    rw [hclosed, hrestocked]
    congr 1
    rw [Store.isRefunded, Store.isRefunded]
    dsimp only
    rw [Table.get?_insert_of_ne _ (ne_of_lt hlt)]
  · intro soId hlt itemId
    rw [hafter, hrestocked]
    exact shippedUnits_insertMemoLines (ne_of_gt hlt) itemId (sortPlaced requested) store
  · rw [hnext, hrestocked]
    rfl
  · intro entry hentry
    rw [hafter, hrestocked] at hentry
    rw [hnext, hrestocked]
    rcases mem_insertMemoLines hentry with hold | hnew
    · exact Nat.lt_succ_of_lt (hlinked entry hold)
    · rw [hnew]
      exact Nat.lt_succ_self _

/-- A refund that is accepted and not replayed: the sale was shipped, and the lines of
the request passed both checks. -/
structure Accepts (store : Store) (tokenWarehouseIds : List ℕ) (body : RefundBody)
    (after : Store) (originalSoId : ℕ) (audit : PosCheckout)
    (placed requested : List PlacedLine) : Prop where
  original : ∃ original, findOriginal store tokenWarehouseIds body =
    some (originalSoId, original) ∧ original.status = .shipped
  audited : store.auditOf originalSoId = some audit
  lines : placed.map PlacedLine.line = audit.lines
  stands : AllPlaced store placed
  request : requestedLines store body placed = .ok requested
  remaining : ∀ line ∈ requested,
    store.refundedUnits originalSoId line.location.itemId +
      itemQuantity requested line.location.itemId ≤
        itemQuantity placed line.location.itemId
  refunded : Refunded store after originalSoId placed requested

theorem refundOriginal_spec (hlinked : store.LinesLinked) {tokenWarehouseIds : List ℕ}
    (hfind : findOriginal store tokenWarehouseIds body = some (originalSoId, original))
    (hrefund : refundOriginal store body originalSoId original = .ok (after, response)) :
    ∃ audit placed requested, Accepts store tokenWarehouseIds body after originalSoId
      audit placed requested := by
  rw [refundOriginal] at hrefund
  obtain ⟨_, hcheck, hrefund⟩ := bind_eq_ok.mp hrefund
  obtain ⟨placed, hplaced, hrefund⟩ := bind_eq_ok.mp hrefund
  obtain ⟨requested, hrequest, hrefund⟩ := bind_eq_ok.mp hrefund
  obtain ⟨_, hremaining, hwrite⟩ := bind_eq_ok.mp hrefund
  obtain ⟨audit, haudit, hlines, hallPlaced⟩ := originalLines_spec hplaced
  have hshipped : original.status = .shipped := by
    rw [checkOriginal] at hcheck
    split at hcheck
    · cases hcheck
    split at hcheck
    · cases hcheck
    next hstatus => exact not_not.mp hstatus
  exact ⟨audit, placed, requested,
    { original := ⟨original, hfind, hshipped⟩
      audited := haudit
      lines := hlines
      stands := hallPlaced
      request := hrequest
      remaining := checkRemaining_spec hremaining
      refunded := writeRefund_spec hlinked (List.mem_of_find?_eq_some hfind) hwrite }⟩

theorem refund_spec (hlinked : store.LinesLinked) {tokenWarehouseIds : List ℕ}
    (hrefund : refund store tokenWarehouseIds body = .ok (after, response)) :
    after = store ∨ ∃ originalSoId audit placed requested,
      Accepts store tokenWarehouseIds body after originalSoId audit placed requested := by
  rw [refund] at hrefund
  obtain ⟨answer, -, hrefund⟩ := bind_eq_ok.mp hrefund
  cases answer with
  | some answered =>
      cases hrefund
      exact .inl rfl
  | none =>
      dsimp only at hrefund
      split at hrefund
      · cases hrefund
      next originalSoId original hfind =>
        exact .inr ⟨originalSoId, refundOriginal_spec hlinked hfind hrefund⟩

end Refunds

/-! ## The refunds of a sale -/

/-- A call of the refund route, or any other change of the database that keeps the
codes, the audit row of the sale and its refunds. -/
inductive SaleCall where
  | refund (tokenWarehouseIds : List ℕ) (body : RefundBody)
  | elsewhere (next : Store)

/-- The change keeps what the refunds of a sale rest on. -/
def Store.KeepsSale (store next : Store) (soId : ℕ) : Prop :=
  (next.items.entries = store.items.entries ∧
    next.warehouses.entries = store.warehouses.entries ∧
    next.bins.entries = store.bins.entries) ∧
  next.auditOf soId = store.auditOf soId ∧
  next.refundLedger soId = store.refundLedger soId ∧
  next.isRefunded soId = store.isRefunded soId ∧
  store.salesOrders.next ≤ next.salesOrders.next ∧
  ∀ entry ∈ next.salesOrderLines.entries, entry.2.soId < next.salesOrders.next

instance (store next : Store) (soId : ℕ) : Decidable (store.KeepsSale next soId) :=
  inferInstanceAs (Decidable (_ ∧ _ ∧ _ ∧ _ ∧ _ ∧ _))

/-- A store, with the stores before and after every accepted refund of a sale. -/
structure SaleHistory where
  store : Store
  refunds : List (Store × Store) := []

/-- The request names the sale. -/
def RefundBody.names (body : RefundBody) (store : Store) (tokenWarehouseIds : List ℕ)
    (soId : ℕ) : Bool :=
  (findOriginal store tokenWarehouseIds body).any fun entry => entry.1 == soId

def SaleHistory.step (soId : ℕ) (history : SaleHistory) : SaleCall → Option SaleHistory
  | .refund tokenWarehouseIds body =>
      (refund history.store tokenWarehouseIds body).toOption.map fun answer =>
        { store := answer.1
          refunds := history.refunds ++
            if body.names history.store tokenWarehouseIds soId then
              [(history.store, answer.1)]
            else [] }
  | .elsewhere next =>
      if history.store.KeepsSale next soId then some { history with store := next }
      else none

/-- What the refunds of the sale put back where a condition holds. -/
def SaleHistory.restocked (history : SaleHistory) (cond : Location → Bool) : ℤ :=
  (history.refunds.map fun stores =>
    stores.2.onHandWhere cond - stores.1.onHandWhere cond).sum

/-- What the refunds of the sale put back at a location. -/
def SaleHistory.restockedAt (history : SaleHistory) (location : Location) : ℤ :=
  history.restocked fun location' => location' == location

/-- What the refunds of the sale put back of an item. -/
def SaleHistory.restockedOf (history : SaleHistory) (itemId : ℕ) : ℤ :=
  history.restocked fun location => location.itemId == itemId

def SoldFrom (store : Store) (lines : List SaleLine) (location : Location) : Prop :=
  ∀ line ∈ lines, (store.itemBySku line.sku).map Prod.fst = some location.itemId →
    resolveLocation store line = some location

structure RefundsWithinSale (sold : Store) (soId : ℕ) (lines : List SaleLine)
    (history : SaleHistory) : Prop where
  booked : ∀ itemId, history.store.refundedUnits soId itemId ≤ soldOf sold lines itemId
  restocked : ∀ itemId,
    history.restockedOf itemId = history.store.refundedUnits soId itemId
  each : ∀ stores ∈ history.refunds, ∀ location,
    stores.1.onHandAt location ≤ stores.2.onHandAt location ∧
      stores.2.onHandAt location - stores.1.onHandAt location ≤
        soldAt sold lines location
  single : ∀ location, SoldFrom sold lines location →
    history.restockedAt location ≤ soldAt sold lines location
  refunded : history.store.isRefunded soId = true ↔
    ∀ itemId, history.store.refundedUnits soId itemId = soldOf sold lines itemId

/-- What every accepted call keeps: the sale as it was sold, and its refunds so
far. -/
structure SaleInv (sold : Store) (soId : ℕ) (lines : List SaleLine)
    (history : SaleHistory) : Prop where
  codes : SameCodes sold history.store
  audited : ∃ audit, history.store.auditOf soId = some audit ∧ audit.lines = lines
  linked : history.store.LinesLinked
  numbered : soId < history.store.salesOrders.next
  nonneg : ∀ itemId, 0 ≤ history.store.refundedUnits soId itemId
  booked : ∀ itemId, history.store.refundedUnits soId itemId ≤ soldOf sold lines itemId
  restocked : ∀ itemId,
    history.restockedOf itemId = history.store.refundedUnits soId itemId
  each : ∀ stores ∈ history.refunds, ∀ location,
    stores.1.onHandAt location ≤ stores.2.onHandAt location ∧
      stores.2.onHandAt location - stores.1.onHandAt location ≤
        soldAt sold lines location
  single : ∀ location, SoldFrom sold lines location →
    history.restockedAt location = history.store.refundedUnits soId location.itemId
  refunded : history.store.isRefunded soId = true ↔
    ∀ itemId, history.store.refundedUnits soId itemId = soldOf sold lines itemId

section Sale

variable {sold : Store} {soId : ℕ} {lines : List SaleLine} {history : SaleHistory}

theorem soldAt_of_soldFrom {location : Location} (hfrom : SoldFrom sold lines location) :
    soldAt sold lines location = soldOf sold lines location.itemId := by
  rw [soldAt, soldOf]
  congr 2
  apply List.filter_congr
  intro line hline
  rw [Bool.eq_iff_iff, beq_iff_eq, beq_iff_eq]
  constructor
  · intro hlocation
    obtain ⟨item, hitem, -, -⟩ := resolveLocation_eq_some.mp hlocation
    rw [hitem]
    rfl
  · exact hfrom line hline

theorem SaleInv.within (hinv : SaleInv sold soId lines history) :
    RefundsWithinSale sold soId lines history where
  booked := hinv.booked
  restocked := hinv.restocked
  each := hinv.each
  single location hfrom := by
    rw [hinv.single location hfrom, soldAt_of_soldFrom hfrom]
    exact hinv.booked location.itemId
  refunded := hinv.refunded

theorem restocked_append (history : SaleHistory) (store : Store)
    (stores : Store × Store) (cond : Location → Bool) :
    SaleHistory.restocked { store, refunds := history.refunds ++ [stores] } cond =
      history.restocked cond +
        (stores.2.onHandWhere cond - stores.1.onHandWhere cond) := by
  simp only [SaleHistory.restocked, List.map_append, List.sum_append, List.map_cons,
    List.map_nil, List.sum_cons, List.sum_nil, add_zero]

variable {store after : Store} {placed requested : List PlacedLine}

theorem refundedUnits_accepts (hrefunded : Refunded store after soId placed requested)
    (itemId : ℕ) :
    after.refundedUnits soId itemId =
      store.refundedUnits soId itemId + itemQuantity requested itemId := by
  have hperm : (sortPlaced requested).Perm requested := List.perm_insertionSort _ requested
  rw [Store.refundedUnits, hrefunded.ledger, if_pos rfl, ledgerUnits_append,
    ledgerUnits_placed, itemQuantity_eq, placedQuantity_perm hperm, ← itemQuantity_eq]
  rfl

theorem requestedAt_of_soldFrom (hcodes : SameCodes sold store)
    (hstands : AllPlaced store placed) (hwithin : WithinSale placed requested)
    {location : Location} (hfrom : SoldFrom sold (placed.map PlacedLine.line) location) :
    placedQuantity requested (fun location' => location' == location) =
      itemQuantity requested location.itemId := by
  rw [itemQuantity_eq]
  apply placedQuantity_congr
  intro line hline
  rw [Bool.eq_iff_iff, beq_iff_eq, beq_iff_eq]
  constructor
  · intro hlocation
    rw [hlocation]
  · intro hitem
    obtain ⟨line', hline', hsame⟩ := hwithin.sold line hline
    have hresolves : resolveLocation sold line'.line = some line'.location := by
      rw [← hcodes.resolveLocation]
      exact hstands line' hline'
    obtain ⟨item, hfound, -, -⟩ := resolveLocation_eq_some.mp hresolves
    have hlocation : resolveLocation sold line'.line = some location := by
      apply hfrom line'.line (List.mem_map_of_mem hline')
      rw [hfound, Option.map_some, hsame, hitem]
    rw [hresolves] at hlocation
    rw [← hsame]
    exact Option.some.inj hlocation

theorem Accepts.isRefunded {tokenWarehouseIds : List ℕ} {body : RefundBody}
    {audit : PosCheckout}
    (haccepts : Accepts store tokenWarehouseIds body after soId audit placed requested) :
    store.isRefunded soId = false := by
  obtain ⟨original, hfind, hstatus⟩ := haccepts.original
  have hmem : (soId, original) ∈ store.salesOrders.entries :=
    List.mem_of_find?_eq_some hfind
  rw [Store.isRefunded, (Table.get?_eq_some _).mpr hmem, Option.any_some, hstatus]
  rfl

theorem fullyRefunded_iff
    (hbounds : ∀ itemId, 0 ≤ store.refundedUnits soId itemId + itemQuantity requested itemId ∧ store.refundedUnits soId itemId + itemQuantity requested itemId ≤ itemQuantity placed itemId) :
    fullyRefunded store soId placed requested = true ↔
      ∀ itemId, store.refundedUnits soId itemId + itemQuantity requested itemId =
        itemQuantity placed itemId := by
  rw [fullyRefunded, List.all_eq_true]
  simp only [beq_iff_eq]
  constructor
  · intro hall itemId
    by_cases hany : ∃ line ∈ placed, line.location.itemId = itemId
    · obtain ⟨line, hline, rfl⟩ := hany
      exact hall line hline
    · have hzero : itemQuantity placed itemId = 0 := by
        rw [itemQuantity, List.filter_eq_nil_iff.mpr]
        · rfl
        · intro line hline
          rw [beq_iff_eq]
          exact fun hitem => hany ⟨line, hline, hitem⟩
      have hbound := hbounds itemId
      omega
  · exact fun hall line _ => hall line.location.itemId

theorem SaleInv.refund (hinv : SaleInv sold soId lines history)
    (hpositive : ∀ line ∈ lines, 1 ≤ line.quantity) {tokenWarehouseIds : List ℕ}
    {body : RefundBody} {audit : PosCheckout}
    (haccepts : Accepts history.store tokenWarehouseIds body after soId audit placed requested) :
    SaleInv sold soId lines
      { store := after, refunds := history.refunds ++ [(history.store, after)] } := by
  obtain ⟨audit', haudit', rfl⟩ := hinv.audited
  obtain rfl : audit = audit' := Option.some.inj (haccepts.audited.symm.trans haudit')
  have hlines := haccepts.lines
  have hrefunded := haccepts.refunded
  have hplacedPositive : ∀ line ∈ placed, 1 ≤ line.line.quantity := by
    intro line hline
    apply hpositive
    rw [← hlines]
    exact List.mem_map_of_mem hline
  have hwithin := requestedLines_spec haccepts.stands hplacedPositive haccepts.request
  have hnonneg : ∀ line ∈ requested, 0 ≤ line.line.quantity := fun line hline =>
    le_trans zero_le_one (hwithin.positive line hline)
  have hsoldOf : ∀ itemId, soldOf sold audit.lines itemId = itemQuantity placed itemId := by
    intro itemId
    rw [← hlines, ← hinv.codes.soldOf, soldOf_eq haccepts.stands]
  have hsoldAt : ∀ location, soldAt sold audit.lines location =
      placedQuantity placed fun location' => location' == location := by
    intro location
    rw [← hlines, ← hinv.codes.soldAt, soldAt_eq haccepts.stands]
  have hbooked : ∀ itemId,
      after.refundedUnits soId itemId ≤ soldOf sold audit.lines itemId := by
    intro itemId
    rw [refundedUnits_accepts hrefunded]
    by_cases hany : ∃ line ∈ requested, line.location.itemId = itemId
    · obtain ⟨line, hline, rfl⟩ := hany
      rw [hsoldOf]
      exact haccepts.remaining line hline
    · have hzero : itemQuantity requested itemId = 0 := by
        rw [itemQuantity, List.filter_eq_nil_iff.mpr]
        · rfl
        · intro line hline
          rw [beq_iff_eq]
          exact fun hitem => hany ⟨line, hline, hitem⟩
      rw [hzero, add_zero]
      exact hinv.booked itemId
  have hunits : ∀ itemId, 0 ≤ after.refundedUnits soId itemId := by
    intro itemId
    rw [refundedUnits_accepts hrefunded]
    exact add_nonneg (hinv.nonneg itemId)
      (placedQuantity_nonneg hnonneg fun location => location.itemId == itemId)
  constructor
  · exact hinv.codes.trans hrefunded.codes
  · refine ⟨audit, ?_, rfl⟩
    rw [Store.auditOf, hrefunded.audits]
    exact haccepts.audited
  · exact hrefunded.linked
  · rw [hrefunded.next]
    exact Nat.lt_succ_of_lt hinv.numbered
  · exact hunits
  · exact hbooked
  · intro itemId
    rw [SaleHistory.restockedOf, restocked_append, refundedUnits_accepts hrefunded,
      hrefunded.onHand, add_sub_cancel_left, ← hinv.restocked itemId]
    rfl
  · intro stores hstores location
    rcases List.mem_append.mp hstores with hold | hnew
    · exact hinv.each stores hold location
    · rw [List.mem_singleton.mp hnew, hsoldAt, Store.onHandAt, Store.onHandAt,
        hrefunded.onHand, add_sub_cancel_left]
      exact ⟨le_add_of_nonneg_right (placedQuantity_nonneg hnonneg _),
        hwithin.location location⟩
  · intro location hfrom
    rw [SaleHistory.restockedAt, restocked_append, refundedUnits_accepts hrefunded,
      hrefunded.onHand, add_sub_cancel_left, ← hinv.single location hfrom,
      ← requestedAt_of_soldFrom hinv.codes haccepts.stands hwithin (hlines ▸ hfrom)]
    rfl
  · have hbounds : ∀ itemId, 0 ≤ history.store.refundedUnits soId itemId +
        itemQuantity requested itemId ∧
        history.store.refundedUnits soId itemId + itemQuantity requested itemId ≤
          itemQuantity placed itemId := by
      intro itemId
      rw [← refundedUnits_accepts hrefunded, ← hsoldOf]
      exact ⟨hunits itemId, hbooked itemId⟩
    rw [hrefunded.closed soId hinv.numbered, haccepts.isRefunded, Bool.false_or,
      decide_eq_true rfl, Bool.true_and, fullyRefunded_iff hbounds]
    simp only [← refundedUnits_accepts hrefunded, hsoldOf]

theorem SaleInv.elsewhere (hinv : SaleInv sold soId lines history) {next : Store}
    (hkeeps : history.store.KeepsSale next soId) :
    SaleInv sold soId lines { history with store := next } := by
  obtain ⟨⟨hitems, hwarehouses, hbins⟩, haudit, hledger, hrefunded, hsequence, hlinked⟩ :=
    hkeeps
  have hunits : ∀ itemId,
      next.refundedUnits soId itemId = history.store.refundedUnits soId itemId := by
    intro itemId
    rw [Store.refundedUnits, Store.refundedUnits, hledger]
  constructor
  · exact hinv.codes.trans ⟨hitems, hwarehouses, hbins⟩
  · rw [haudit]
    exact hinv.audited
  · exact hlinked
  · exact lt_of_lt_of_le hinv.numbered hsequence
  · simpa only [hunits] using hinv.nonneg
  · simpa only [hunits] using hinv.booked
  · simp only [hunits]
    exact hinv.restocked
  · exact hinv.each
  · simp only [hunits]
    exact hinv.single
  · rw [hrefunded]
    simpa only [hunits] using hinv.refunded

theorem Refunded.keepsSale {originalSoId : ℕ}
    (hrefunded : Refunded store after originalSoId placed requested)
    (hother : soId ≠ originalSoId) (hnumbered : soId < store.salesOrders.next) :
    store.KeepsSale after soId := by
  refine ⟨⟨hrefunded.codes.items, hrefunded.codes.warehouses, hrefunded.codes.bins⟩,
    ?_, ?_, ?_, ?_, hrefunded.linked⟩
  · rw [Store.auditOf, hrefunded.audits]
    rfl
  · rw [hrefunded.ledger, if_neg hother, List.append_nil]
  · rw [hrefunded.closed soId hnumbered, decide_eq_false hother, Bool.false_and,
      Bool.or_false]
  · rw [hrefunded.next]
    exact Nat.le_succ _

theorem SaleInv.replayed (hinv : SaleInv sold soId lines history)
    (hpositive : ∀ line ∈ lines, 1 ≤ line.quantity) :
    SaleInv sold soId lines
      { history with refunds := history.refunds ++ [(history.store, history.store)] } := by
  constructor
  · exact hinv.codes
  · exact hinv.audited
  · exact hinv.linked
  · exact hinv.numbered
  · exact hinv.nonneg
  · exact hinv.booked
  · intro itemId
    rw [SaleHistory.restockedOf, restocked_append, sub_self, add_zero]
    exact hinv.restocked itemId
  · intro stores hstores location
    rcases List.mem_append.mp hstores with hold | hnew
    · exact hinv.each stores hold location
    · rw [List.mem_singleton.mp hnew, sub_self]
      refine ⟨le_refl _, List.sum_nonneg ?_⟩
      intro quantity hquantity
      obtain ⟨line, hline, rfl⟩ := List.mem_map.mp hquantity
      exact le_trans zero_le_one (hpositive line (List.mem_filter.mp hline).1)
  · intro location hfrom
    rw [SaleHistory.restockedAt, restocked_append, sub_self, add_zero]
    exact hinv.single location hfrom
  · exact hinv.refunded

theorem SaleInv.step (hinv : SaleInv sold soId lines history)
    (hpositive : ∀ line ∈ lines, 1 ≤ line.quantity) {call : SaleCall}
    {next : SaleHistory} (hstep : history.step soId call = some next) :
    SaleInv sold soId lines next := by
  cases call with
  | elsewhere after =>
      rw [SaleHistory.step] at hstep
      split at hstep
      next hkeeps =>
        cases hstep
        exact hinv.elsewhere hkeeps
      next => cases hstep
  | refund tokenWarehouseIds body =>
      obtain ⟨⟨after, response⟩, hrefund, rfl⟩ := Option.map_eq_some_iff.mp hstep
      rcases refund_spec hinv.linked (toOption_eq_some.mp hrefund) with
        rfl | ⟨originalSoId, audit, placed, requested, haccepts⟩
      · dsimp only
        split
        · exact hinv.replayed hpositive
        · rw [List.append_nil]
          exact hinv
      · obtain ⟨original, hfind, -⟩ := haccepts.original
        have hnames : body.names history.store tokenWarehouseIds soId =
            (originalSoId == soId) := by
          rw [RefundBody.names, hfind, Option.any_some]
        dsimp only
        rw [hnames]
        by_cases hsame : originalSoId = soId
        · subst hsame
          rw [beq_self_eq_true, if_pos rfl]
          exact hinv.refund hpositive haccepts
        · rw [beq_eq_false_iff_ne.mpr hsame, if_neg Bool.false_ne_true, List.append_nil]
          exact hinv.elsewhere
            (haccepts.refunded.keepsSale (Ne.symm hsame) hinv.numbered)

end Sale

end SentryWms
