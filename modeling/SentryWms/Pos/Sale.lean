import SentryWms.Pos.Fulfillment
import SentryWms.Pos.RefundLedger

/-!
# From the checkout of a sale to its refunds

A checkout leaves its sale with an empty ledger and an audit row of its cart. From
there every run of refunds stays within the sale, item by item; location by location
it does where an item is sold from one location only.
-/

namespace SentryWms

open Relational Transition

/-- Lines, parents and audit rows name orders whose numbers were handed out. -/
structure Store.OrdersLinked (store : Store) : Prop where
  lines : store.LinesLinked
  parents : ∀ entry ∈ store.salesOrders.entries, ∀ parentSoId,
    entry.2.parentSoId = some parentSoId → parentSoId < store.salesOrders.next
  audits : ∀ entry ∈ store.posCheckouts.entries, entry.2.soId < store.salesOrders.next

/-- The lines of a cart as the audit log keeps them. -/
def Cart.saleLines (cart : Cart) : List SaleLine :=
  cart.lines.map CartLine.saleLine

section Checkout

variable {store after : Store} {body : CheckoutBody}

theorem Cart.saleLines_positive (cart : Cart) :
    ∀ line ∈ cart.saleLines, 1 ≤ line.quantity := by
  intro line hline
  obtain ⟨cartLine, -, rfl⟩ := List.mem_map.mp hline
  exact cartLine.quantityMin

/-! ## Lines -/

theorem resolveLine_location (store : Store) (idx : ℕ) (line : CartLine) :
    (resolveLine store idx line).location = resolveLocation store line.saleLine := by
  apply Option.ext
  intro location
  rw [ResolvedLine.location_eq_some, resolveLocation_eq_some]
  constructor
  · rintro ⟨item, hitem, hwarehouse, hbin⟩
    obtain ⟨warehouseId, hcode, hbin⟩ := Option.bind_eq_some_iff.mp hbin
    have hsame : warehouseId = location.warehouseId :=
      Option.some.inj (hcode.symm.trans hwarehouse)
    rw [hsame] at hbin
    exact ⟨item, hitem, hwarehouse, hbin⟩
  · rintro ⟨item, hitem, hwarehouse, hbin⟩
    exact ⟨item, hitem, hwarehouse, Option.bind_eq_some_iff.mpr ⟨_, hwarehouse, hbin⟩⟩

theorem locateLines_demand {rows : List ResolvedLine} {lines : List StockLine}
    (hlocate : rows.mapM locateLine = .ok lines) (location : Location) :
    stockDemand lines location =
      ((rows.filter fun row => row.location == some location).map
        fun row => row.line.quantity).sum := by
  induction rows generalizing lines with
  | nil =>
      cases hlocate
      rfl
  | cons row rows ih =>
      rw [List.mapM_cons] at hlocate
      obtain ⟨line, hline, hlocate⟩ := bind_eq_ok.mp hlocate
      obtain ⟨rest, hrest, hlocate⟩ := bind_eq_ok.mp hlocate
      cases hlocate
      rw [locateLine] at hline
      split at hline
      next found hfound =>
        split at hline
        · cases hline
          rw [stockDemand_cons, ih hrest, List.filter_cons, hfound]
          by_cases hsame : found = location
          · simp [hsame]
          · simp [hsame]
        · cases hline
      next => cases hline

theorem soldAt_saleLines (store : Store) (cart : Cart) (location : Location) :
    soldAt store cart.saleLines location = cart.demandAt store location := by
  have hlines : cart.saleLines =
      cart.lines.zipIdx.map fun entry => entry.1.saleLine := by
    rw [Cart.saleLines]
    conv_lhs => rw [← List.zipIdx_map_fst 0 cart.lines, List.map_map]
    rfl
  rw [soldAt, Cart.demandAt, hlines, resolveLines, List.filter_map, List.filter_map,
    List.map_map, List.map_map]
  have hcond : ((fun line => resolveLocation store line == some location) ∘
      fun entry : CartLine × ℕ => entry.1.saleLine) =
      ((fun row : ResolvedLine => row.location == some location) ∘
        fun entry : CartLine × ℕ => resolveLine store entry.2 entry.1) := by
    funext entry
    rw [Function.comp_apply, Function.comp_apply, resolveLine_location]
  rw [hcond]
  rfl

theorem takeLine_spec {isPhoneOrder : Bool} {soId : ℕ} {line : StockLine}
    (htake : takeLine isPhoneOrder soId store line = .ok after) :
    (∃ inventory, after =
      { store with
        inventory
        salesOrderLines :=
          store.salesOrderLines.insert (line.orderLine isPhoneOrder soId) }) ∧
      (isPhoneOrder = false → ∀ location, after.onHandAt location =
        store.onHandAt location -
          if line.location = location then line.line.quantity else 0) := by
  rw [takeLine] at htake
  split at htake
  · cases htake
  next inventoryId row hfirst =>
    split at htake
    · cases htake
    cases htake
    obtain ⟨hmem, hlocation⟩ := firstRow_mem hfirst
    refine ⟨⟨_, rfl⟩, fun hcounter location => ?_⟩
    subst hcounter
    have hmove := onHandWhere_modify hmem (takeUnits false store.now line.line.quantity)
      rfl fun location' => location' == location
    rw [hlocation] at hmove
    refine hmove.trans ?_
    rw [Store.onHandAt, sub_eq_add_neg]
    congr 1
    simp only [beq_iff_eq, takeUnits, Bool.false_eq_true, if_false]
    split <;> omega

theorem takeLines_spec {isPhoneOrder : Bool} {soId : ℕ} {lines : List StockLine}
    (htake : lines.foldlM (takeLine isPhoneOrder soId) store = .ok after) :
    (∃ inventory salesOrderLines, after = { store with inventory, salesOrderLines } ∧
      ∀ entry ∈ salesOrderLines.entries,
        entry ∈ store.salesOrderLines.entries ∨ entry.2.soId = soId) ∧
      (isPhoneOrder = false → ∀ location, after.onHandAt location =
        store.onHandAt location - stockDemand lines location) := by
  induction lines generalizing store with
  | nil =>
      cases htake
      refine ⟨⟨_, _, rfl, fun entry hentry => .inl hentry⟩, fun _ location => ?_⟩
      rw [stockDemand_nil, sub_zero]
  | cons line lines ih =>
      rw [List.foldlM_cons] at htake
      obtain ⟨middle, hmiddle, hrest⟩ := bind_eq_ok.mp htake
      obtain ⟨⟨inventory, rfl⟩, hline⟩ := takeLine_spec hmiddle
      obtain ⟨⟨inventory', lines', rfl, hmem⟩, hlines⟩ := ih hrest
      refine ⟨⟨inventory', lines', rfl, fun entry hentry => ?_⟩, ?_⟩
      · rcases hmem entry hentry with hold | hnew
        · rcases (Table.mem_insert _).mp hold with hold | rfl
          · exact .inl hold
          · exact .inr rfl
        · exact .inr hnew
      · intro hcounter location
        rw [hlines hcounter, hline hcounter, stockDemand_cons, sub_sub]

/-! ## The new sale -/

theorem soldOf_pos {lines : List SaleLine} (hpositive : ∀ line ∈ lines, 1 ≤ line.quantity)
    {line : SaleLine} (hline : line ∈ lines) {item : ℕ × Item}
    (hitem : store.itemBySku line.sku = some item) :
    0 < soldOf store lines item.1 := by
  have hmem : line ∈ lines.filter fun line =>
      (store.itemBySku line.sku).map Prod.fst == some item.1 := by
    rw [List.mem_filter, hitem]
    exact ⟨hline, beq_self_eq_true _⟩
  have hle : line.quantity ≤ soldOf store lines item.1 := by
    apply List.single_le_sum
    · intro quantity hquantity
      obtain ⟨other, hother, rfl⟩ := List.mem_map.mp hquantity
      exact le_trans zero_le_one (hpositive other (List.mem_filter.mp hother).1)
    · exact List.mem_map_of_mem hmem
  exact lt_of_lt_of_le (lt_of_lt_of_le zero_lt_one (hpositive line hline)) hle

theorem soldOf_nonneg {lines : List SaleLine}
    (hpositive : ∀ line ∈ lines, 1 ≤ line.quantity) (itemId : ℕ) :
    0 ≤ soldOf store lines itemId := by
  apply List.sum_nonneg
  intro quantity hquantity
  obtain ⟨line, hline, rfl⟩ := List.mem_map.mp hquantity
  exact le_trans zero_le_one (hpositive line (List.mem_filter.mp hline).1)

theorem auditOf_auditCheckout {soId : ℕ}
    (hnew : ∀ entry ∈ store.posCheckouts.entries, entry.2.soId ≠ soId) :
    (store.auditCheckout soId body).auditOf soId =
      some ⟨soId, body.paymentMethod, body.cart.saleLines⟩ := by
  have hnone : (store.posCheckouts.entries.find? fun entry => entry.2.soId == soId) =
      none := by
    rw [List.find?_eq_none]
    intro entry hentry
    rw [beq_iff_eq]
    exact hnew entry hentry
  rw [Store.auditOf, Store.auditCheckout]
  dsimp only [Table.insert]
  rw [List.find?_append, hnone, Option.none_or, List.find?_singleton, beq_self_eq_true]
  rfl

theorem refundLedger_eq_nil {soId : ℕ}
    (hnone : ∀ entry ∈ store.salesOrders.entries, entry.2.parentSoId ≠ some soId) :
    store.refundLedger soId = [] := by
  rw [Store.refundLedger, Table.select, List.filter_eq_nil_iff.mpr]
  · rfl
  · intro entry _ hmemo
    rw [Store.isMemoOf] at hmemo
    obtain ⟨memo, hget, hcond⟩ := (Option.any_eq_true _ _).mp hmemo
    rw [Bool.and_eq_true, beq_iff_eq] at hcond
    exact hnone _ ((Table.get?_eq_some _).mp hget) hcond.1

theorem newSale_inv (hlinked : store.OrdersLinked) {order : SalesOrder}
    (hparent : order.parentSoId = none) (hstatus : order.status ≠ .refunded)
    {inventory : Table Inventory} {lines : Table SalesOrderLine}
    (hlines : ∀ entry ∈ lines.entries, entry ∈ store.salesOrderLines.entries ∨
      entry.2.soId = store.salesOrders.next)
    (hskus : ∀ line ∈ body.cart.lines, ∃ entry, store.itemBySku line.sku = some entry)
    (soNumber : String) {sold : Store}
    (hsold : sold = (Store.auditCheckout
      { store with
        salesOrders := store.salesOrders.insert order
        inventory
        salesOrderLines := lines }
      store.salesOrders.next body).cacheResponse store.salesOrders.next soNumber) :
    SaleInv sold store.salesOrders.next body.cart.saleLines { store := sold } := by
  have hpositive := body.cart.saleLines_positive
  have horders : ∀ entry ∈ sold.salesOrders.entries,
      entry.2.parentSoId ≠ some store.salesOrders.next := by
    rw [hsold]
    intro entry hentry hchild
    obtain ⟨before, hbefore, hrow⟩ := (Table.mem_modify _).mp hentry
    have hsame : entry.2.parentSoId = before.parentSoId := by
      rw [← hrow]
      split <;> rfl
    rcases (Table.mem_insert _).mp hbefore with hold | hnew
    · exact lt_irrefl _ (hlinked.parents _ hold _ (hsame.symm.trans hchild))
    · obtain ⟨-, rfl⟩ := Prod.mk.inj hnew
      rw [hsame, hparent] at hchild
      cases hchild
  have hledger := refundLedger_eq_nil horders
  have hunits : ∀ itemId, sold.refundedUnits store.salesOrders.next itemId = 0 := by
    intro itemId
    rw [Store.refundedUnits, hledger]
    rfl
  have hsame : SameCodes store sold := by
    rw [hsold]
    exact ⟨rfl, rfl, rfl⟩
  constructor
  · exact SameCodes.refl sold
  · refine ⟨⟨store.salesOrders.next, body.paymentMethod, body.cart.saleLines⟩, ?_, rfl⟩
    rw [hsold]
    exact auditOf_auditCheckout fun entry hentry =>
      ne_of_lt (hlinked.audits entry hentry)
  · rw [hsold]
    intro entry hentry
    rcases hlines entry hentry with hold | hnew
    · exact Nat.lt_succ_of_lt (hlinked.lines entry hold)
    · rw [hnew]
      exact Nat.lt_succ_self _
  · rw [hsold]
    exact Nat.lt_succ_self _
  · intro itemId
    rw [hunits]
  · intro itemId
    rw [hunits]
    exact soldOf_nonneg hpositive itemId
  · intro itemId
    rw [hunits]
    rfl
  · exact List.forall_mem_nil _
  · intro location _
    rw [hunits]
    rfl
  · have hopen : sold.isRefunded store.salesOrders.next = false := by
      rw [hsold, Store.isRefunded, Store.cacheResponse]
      dsimp only [Store.auditCheckout]
      rw [Table.modify, Table.get?_mapRows, Table.get?_insert_self, Option.map_some,
        if_pos rfl, Option.any_some, beq_eq_false_iff_ne]
      exact hstatus
    rw [hopen]
    refine ⟨fun hfalse => absurd hfalse Bool.false_ne_true, fun hall => ?_⟩
    obtain ⟨line, hline⟩ : ∃ line, line ∈ body.cart.lines :=
      List.exists_mem_of_length_pos (Nat.lt_of_lt_of_le zero_lt_one body.cart.linesMin)
    obtain ⟨item, hitem⟩ := hskus line hline
    have hpos := soldOf_pos hpositive
      (List.mem_map_of_mem hline) hitem
    rw [← hsame.soldOf, ← hall, hunits] at hpos
    exact absurd hpos (lt_irrefl _)

/-! ## The checkout of a sale -/

theorem insertSalesOrder_spec {order : SalesOrder} {inserted : Store × ℕ}
    (hinsert : insertSalesOrder store order = .ok inserted) :
    inserted =
      ({ store with salesOrders := store.salesOrders.insert order },
        store.salesOrders.next) := by
  rw [insertSalesOrder] at hinsert
  split at hinsert
  · cases hinsert
  · exact (Except.ok.inj hinsert).symm

theorem insertCheckoutOrder_eq {status : SoStatus} {warehouseId : ℕ}
    {number : String × Option ℕ} {inserted : Store × ℕ}
    (hinsert : insertCheckoutOrder store body status warehouseId number = .ok inserted) :
    inserted =
      ({ store with
          salesOrders := store.salesOrders.insert
            (body.order store.now status warehouseId number) },
        store.salesOrders.next) := by
  rw [insertCheckoutOrder] at hinsert
  split at hinsert
  · cases hinsert
  · exact insertSalesOrder_spec hinsert

theorem orderNumber_sale {tokenWarehouseIds : List ℕ} {number : String × Option ℕ}
    (htype : body.type = .sale)
    (hnumber : orderNumber store tokenWarehouseIds body = .ok number) :
    number.2 = none := by
  rw [orderNumber, htype] at hnumber
  cases hnumber
  rfl

theorem bookReturns_sale (htype : body.type = .sale) (parentSoId : Option ℕ) :
    bookReturns store body parentSoId = .ok store := by
  unfold bookReturns
  rw [htype]

theorem finishCheckout_sale {soId : ℕ} {number : String × Option ℕ} {sold : Store}
    {response : CheckoutResponse} (htype : body.type = .sale)
    (hfinish : finishCheckout store body soId number = .ok (sold, response)) :
    sold = (store.auditCheckout soId body).cacheResponse soId number.1 := by
  rw [finishCheckout, bookReturns_sale htype] at hfinish
  cases hfinish
  rfl

theorem items_of_mapM {Row : Type} {rows : List ResolvedLine} {found : List Row}
    {find : ResolvedLine → Except CheckoutError Row}
    (hfind : ∀ row result, find row = .ok result → ∃ entry, row.item = some entry)
    (hrows : rows.mapM find = .ok found) :
    ∀ row ∈ rows, ∃ entry, row.item = some entry := by
  induction rows generalizing found with
  | nil => exact List.forall_mem_nil _
  | cons row rows ih =>
      rw [List.mapM_cons] at hrows
      obtain ⟨first, hfirst, hrows⟩ := bind_eq_ok.mp hrows
      obtain ⟨rest, hrest, -⟩ := bind_eq_ok.mp hrows
      exact List.forall_mem_cons.mpr ⟨hfind row first hfirst, ih hrest⟩

theorem skus_of_items (hitems : ∀ row ∈ resolveLines store body.cart,
      ∃ entry, row.item = some entry) :
    ∀ line ∈ body.cart.lines, ∃ entry, store.itemBySku line.sku = some entry := by
  intro line hline
  rw [← List.zipIdx_map_fst 0 body.cart.lines] at hline
  obtain ⟨entry, hentry, rfl⟩ := List.mem_map.mp hline
  exact hitems (resolveLine store entry.2 entry.1) (List.mem_map_of_mem hentry)

theorem locateLine_item (row : ResolvedLine) (line : StockLine)
    (hlocate : locateLine row = .ok line) : ∃ entry, row.item = some entry := by
  rw [locateLine] at hlocate
  split at hlocate
  next location hlocation =>
    obtain ⟨item, hitem, -⟩ := ResolvedLine.location_eq_some.mp hlocation
    exact ⟨_, hitem⟩
  next => cases hlocate

theorem identifyLine_item (row : ResolvedLine) (found : ResolvedLine × ℕ)
    (hidentify : identifyLine row = .ok found) : ∃ entry, row.item = some entry := by
  rw [identifyLine] at hidentify
  split at hidentify
  next itemId item hitem => exact ⟨_, hitem⟩
  next => cases hidentify

theorem checkoutStock_sold (hlinked : store.OrdersLinked) (htype : body.type = .sale)
    {tokenWarehouseIds : List ℕ} {sold : Store} {response : CheckoutResponse}
    (hcheckout : checkoutStock store tokenWarehouseIds body = .ok (sold, response)) :
    SaleInv sold store.salesOrders.next body.cart.saleLines { store := sold } ∧
      (body.isPhoneOrder = false → ∀ location,
        store.onHandAt location - sold.onHandAt location =
          soldAt sold body.cart.saleLines location) := by
  rw [checkoutStock] at hcheckout
  obtain ⟨lines, hlines, hcheckout⟩ := bind_eq_ok.mp hcheckout
  obtain ⟨number, hnumber, hcheckout⟩ := bind_eq_ok.mp hcheckout
  obtain ⟨inserted, hinsert, hcheckout⟩ := bind_eq_ok.mp hcheckout
  obtain ⟨taken, htake, hfinish⟩ := bind_eq_ok.mp hcheckout
  obtain rfl := insertCheckoutOrder_eq hinsert
  obtain ⟨⟨inventory, lines', rfl, hmem⟩, hcounter⟩ := takeLines_spec htake
  have hsold := finishCheckout_sale htype hfinish
  have hitems := items_of_mapM locateLine_item hlines
  refine ⟨newSale_inv hlinked ?_ ?_ hmem (skus_of_items hitems) number.1 hsold, ?_⟩
  · exact orderNumber_sale htype hnumber
  · rw [CheckoutBody.order]
    dsimp only
    split <;> exact SoStatus.noConfusion
  · intro hcounterSale location
    have hperm : (sortLines lines).Perm lines := List.perm_insertionSort _ lines
    have hsame : SameCodes store sold := by
      rw [hsold]
      exact ⟨rfl, rfl, rfl⟩
    have honHand : sold.onHandAt location =
        store.onHandAt location - stockDemand lines location := by
      rw [hsold, ← stockDemand_perm hperm]
      exact hcounter hcounterSale location
    rw [honHand, hsame.soldAt, soldAt_saleLines, locateLines_demand hlines,
      sub_sub_cancel, Cart.demandAt]

theorem mem_insertLines (rows : List (ResolvedLine × ℕ))
    (line : ResolvedLine × ℕ → SalesOrderLine) (soId : ℕ)
    (hline : ∀ row, (line row).soId = soId) (store : Store) :
    ∃ lines, rows.foldl (fun store row => store.insertLine (line row)) store =
        { store with salesOrderLines := lines } ∧
      ∀ entry ∈ lines.entries,
        entry ∈ store.salesOrderLines.entries ∨ entry.2.soId = soId := by
  induction rows generalizing store with
  | nil => exact ⟨_, rfl, fun entry hentry => .inl hentry⟩
  | cons row rows ih =>
      obtain ⟨lines, hlines, hmem⟩ := ih (store.insertLine (line row))
      refine ⟨lines, hlines, fun entry hentry => ?_⟩
      rcases hmem entry hentry with hold | hnew
      · rcases (Table.mem_insert _).mp hold with hold | rfl
        · exact .inl hold
        · exact .inr (hline row)
      · exact .inr hnew

theorem checkoutBackorder_sold (hlinked : store.OrdersLinked)
    (htype : body.type = .sale) {backorderCode : String} {tokenWarehouseIds : List ℕ}
    {sold : Store} {response : CheckoutResponse}
    (hcheckout : checkoutBackorder store backorderCode tokenWarehouseIds body =
      .ok (sold, response)) :
    SaleInv sold store.salesOrders.next body.cart.saleLines { store := sold } := by
  rw [checkoutBackorder] at hcheckout
  obtain ⟨items, hitems, hcheckout⟩ := bind_eq_ok.mp hcheckout
  obtain ⟨number, hnumber, hcheckout⟩ := bind_eq_ok.mp hcheckout
  obtain ⟨warehouseId, -, hcheckout⟩ := bind_eq_ok.mp hcheckout
  obtain ⟨inserted, hinsert, hfinish⟩ := bind_eq_ok.mp hcheckout
  obtain rfl := insertCheckoutOrder_eq hinsert
  obtain ⟨lines, hlines, hmem⟩ := mem_insertLines items
    (fun entry =>
      { soId := store.salesOrders.next, itemId := entry.2, lineNumber := entry.1.idx + 1,
        quantityOrdered := entry.1.line.quantity, quantityAllocated := 0,
        quantityPicked := 0 })
    store.salesOrders.next (fun _ => rfl)
    { store with
      salesOrders := store.salesOrders.insert
        (body.order store.now .waitingStock warehouseId number) }
  dsimp only at hfinish
  rw [hlines] at hfinish
  have hsold := finishCheckout_sale htype hfinish
  refine newSale_inv hlinked ?_ ?_ hmem
    (skus_of_items (items_of_mapM identifyLine_item hitems)) number.1 hsold
  · exact orderNumber_sale htype hnumber
  · exact SoStatus.noConfusion

theorem checkout_sold (hlinked : store.OrdersLinked) {backorderCode : String}
    {tokenWarehouseIds : List ℕ} {sold : Store} {response : CheckoutResponse}
    (hcheckout : checkout store backorderCode tokenWarehouseIds body =
      .ok (sold, response))
    (hfresh : response.replayed = false) (htype : body.type = .sale) :
    SaleInv sold store.salesOrders.next body.cart.saleLines { store := sold } ∧
      (body.isPhoneOrder = false → body.backorder = false → ∀ location,
        store.onHandAt location - sold.onHandAt location =
          soldAt sold body.cart.saleLines location) := by
  rw [checkout] at hcheckout
  obtain ⟨answer, hreplay, hcheckout⟩ := bind_eq_ok.mp hcheckout
  cases answer with
  | some answered =>
      cases hcheckout
      rw [replay] at hreplay
      split at hreplay
      · cases hreplay
      split at hreplay
      · cases hreplay
      · obtain ⟨soNumber, -, rfl⟩ := Option.map_eq_some_iff.mp (Except.ok.inj hreplay)
        cases hfresh
  | none =>
      obtain ⟨_, -, hcheckout⟩ := bind_eq_ok.mp hcheckout
      split at hcheckout
      next hbackorder =>
        refine ⟨checkoutBackorder_sold hlinked htype hcheckout, fun _ hstock => ?_⟩
        rw [hbackorder] at hstock
        cases hstock
      next =>
        obtain ⟨hinv, htook⟩ := checkoutStock_sold hlinked htype hcheckout
        exact ⟨hinv, fun hcounter _ => htook hcounter⟩

end Checkout

/-! ## The refunds of a sale -/

/-- Every run of refunds of a sale, and of any other changes between them, stays within
the sale; what a counter sale took from a location is what left it at the checkout. -/
theorem refundsWithinSale_of_run {store sold : Store} {backorderCode : String}
    {tokenWarehouseIds : List ℕ} {body : CheckoutBody} {response : CheckoutResponse}
    (hlinked : store.OrdersLinked)
    (hcheckout : checkout store backorderCode tokenWarehouseIds body =
      .ok (sold, response))
    (hfresh : response.replayed = false) (htype : body.type = .sale)
    {calls : List SaleCall} {last : SaleHistory}
    (hrun : Run (SaleHistory.step store.salesOrders.next) (fun _ _ => True)
      { store := sold } calls last) :
    RefundsWithinSale sold store.salesOrders.next body.cart.saleLines last ∧
      (body.isPhoneOrder = false → body.backorder = false → ∀ location,
        store.onHandAt location - sold.onHandAt location =
          soldAt sold body.cart.saleLines location) := by
  obtain ⟨hinv, htook⟩ := checkout_sold hlinked hcheckout hfresh htype
  have hlast := hrun.invariant
    (SaleInv sold store.salesOrders.next body.cart.saleLines)
    (fun hinv _ hstep => hinv.step body.cart.saleLines_positive hstep) hinv
  exact ⟨hlast.within, htook⟩

/-! ## An item sold from two bins -/

def twoBins : Store where
  warehouses := .ofRows [{ warehouseCode := "W1", isActive := true }]
  items := .ofRows [{ sku := "A", upc := some "1", barcodeAliases := [] }]
  bins := .ofRows
    [{ warehouseId := 1, binCode := "P1", binType := .pickable, pickSequence := 1 },
     { warehouseId := 1, binCode := "P2", binType := .pickable, pickSequence := 2 }]
  inventory := .ofRows
    [{ itemId := 1, binId := 1, warehouseId := 1, quantityOnHand := 1,
       quantityAllocated := 0, lotNumber := none, updatedAt := 0 },
     { itemId := 1, binId := 2, warehouseId := 1, quantityOnHand := 1,
       quantityAllocated := 0, lotNumber := none, updatedAt := 0 }]

theorem twoBins_ordersLinked : twoBins.OrdersLinked where
  lines := List.forall_mem_nil _
  parents := List.forall_mem_nil _
  audits := List.forall_mem_nil _

def fromBothBins : Cart where
  lines := [oneUnit, { oneUnit with binCode := "P2" }]
  linesMin := by decide
  linesMax := by decide

/-- The counter sale of that cart. -/
def soldFromBothBins : CheckoutBody where
  idempotencyKey := "k1"
  bodyHash := "h1"
  cart := fromBothBins
  isPhoneOrder := false
  orderType := none
  parentSoNumber := none
  returnedItems := []
  paymentMethod := .card
  completedAt := 0
  backorder := false
  locationUnlessBackorder := by decide

def afterSale : Store :=
  ((checkout twoBins "" [1] soldFromBothBins).toOption.map Prod.fst).getD twoBins

def refundFirstBin (idempotencyKey : String) : RefundBody where
  idempotencyKey := idempotencyKey
  bodyHash := idempotencyKey
  originalSoId := "POS-1"
  method := .card
  completedAt := 0
  lines := some { lines := [oneUnit], linesMin := by decide, linesMax := by decide }
  locationGiven := by
    intro cart hcart
    cases hcart
    decide

def refundedOnce : SaleHistory :=
  (execute (SaleHistory.step 1) (fun _ _ => True) { store := afterSale }
    [.refund [1] (refundFirstBin "r1")]).getD { store := afterSale }

theorem refundsWithinSale_refundedOnce :
    refundedOnce.store.refundedUnits 1 1 = 1 ∧
      RefundsWithinSale afterSale 1 fromBothBins.saleLines refundedOnce := by
  have hrun : Run (SaleHistory.step 1) (fun _ _ => True) { store := afterSale }
      [.refund [1] (refundFirstBin "r1")] refundedOnce := Run.ofExecute rfl
  have hcheckout : checkout twoBins "" [1] soldFromBothBins =
      .ok (afterSale, ⟨"POS-1", false⟩) := rfl
  exact ⟨rfl, (refundsWithinSale_of_run twoBins_ordersLinked hcheckout rfl rfl hrun).1⟩

def refundedTwice : SaleHistory :=
  (execute (SaleHistory.step 1) (fun _ _ => True) { store := afterSale }
    [.refund [1] (refundFirstBin "r1"), .refund [1] (refundFirstBin "r2")]).getD
      { store := afterSale }

/-- Two partial refunds put two units back into the bin that the sale took one
from. -/
theorem refunds_fill_first_bin :
    twoBins.OrdersLinked ∧
      checkout twoBins "" [1] soldFromBothBins = .ok (afterSale, ⟨"POS-1", false⟩) ∧
      Run (SaleHistory.step 1) (fun _ _ => True) { store := afterSale }
        [.refund [1] (refundFirstBin "r1"), .refund [1] (refundFirstBin "r2")]
        refundedTwice ∧
      twoBins.onHandAt ⟨1, 1, 1⟩ - afterSale.onHandAt ⟨1, 1, 1⟩ = 1 ∧
      refundedTwice.restockedAt ⟨1, 1, 1⟩ = 2 ∧
      refundedTwice.store.isRefunded 1 = true :=
  ⟨twoBins_ordersLinked, rfl, Run.ofExecute rfl, rfl, rfl, rfl⟩

end SentryWms
