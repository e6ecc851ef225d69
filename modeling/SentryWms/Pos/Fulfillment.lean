import SentryWms.Pos.Checkout

/-!
# Carts that pass the check and fail at checkout

The pre-flight check compares every line on its own with all rows of its location;
the checkout takes the lines one after the other from the first row. A cart that
passes the check can be checked out exactly when the first row of every location
covers what the lines want of it together.
-/

namespace SentryWms

open Relational Transition

/-! ## Demand -/

def Cart.demandAt (store : Store) (cart : Cart) (location : Location) : ℤ :=
  (((resolveLines store cart).filter fun row => row.location == some location).map
    fun row => row.line.quantity).sum

def Cart.CoveredByFirstRows (store : Store) (cart : Cart) : Prop :=
  ∀ location, 0 < cart.demandAt store location →
    cart.demandAt store location ≤ store.firstAvailable location

/-- The request is new and its order can be numbered and filed, so that nothing
answers it before its lines are taken. -/
structure ReachesStock (store : Store) (tokenWarehouseIds : List ℕ)
    (body : CheckoutBody) : Prop where
  keyUnused : store.orderByKey body.idempotencyKey = none
  numbered : ∃ number, orderNumber store tokenWarehouseIds body = .ok number ∧
    store.soNumberTaken number.1 = false

def stockDemand (lines : List StockLine) (location : Location) : ℤ :=
  ((lines.filter fun line => line.location == location).map
    fun line => line.line.quantity).sum

@[simp]
theorem stockDemand_nil (location : Location) : stockDemand [] location = 0 := rfl

theorem stockDemand_cons (line : StockLine) (lines : List StockLine)
    (location : Location) :
    stockDemand (line :: lines) location =
      (if line.location = location then line.line.quantity else 0) +
        stockDemand lines location := by
  by_cases hlocation : line.location = location <;> simp [stockDemand, hlocation]

theorem stockDemand_nonneg (lines : List StockLine) (location : Location) :
    0 ≤ stockDemand lines location := by
  induction lines with
  | nil => exact le_refl 0
  | cons line lines ih =>
      have hquantity := line.line.quantityMin
      rw [stockDemand_cons]
      split <;> omega

variable {lines : List StockLine}

theorem stockDemand_perm {lines' : List StockLine} (hperm : lines.Perm lines')
    (location : Location) : stockDemand lines location = stockDemand lines' location :=
  ((hperm.filter _).map _).sum_eq

/-! ## Answers other than a failed fulfillment -/

/-- The computation does not end in `fulfillment_failed`. -/
def NeverFails {Value : Type} (result : Except CheckoutError Value) : Prop :=
  ∀ error, result = .error error → error.kind ≠ "fulfillment_failed"

namespace NeverFails

variable {Value Value' : Type} {value : Value}

theorem ok : NeverFails (.ok value) := by
  intro error herror
  cases herror

theorem error {error : CheckoutError} (hkind : error.kind ≠ "fulfillment_failed") :
    NeverFails (.error error : Except CheckoutError Value) := by
  intro error' herror
  cases herror
  exact hkind

theorem bind {first : Except CheckoutError Value}
    {next : Value → Except CheckoutError Value'} (hfirst : NeverFails first)
    (hnext : ∀ value, first = .ok value → NeverFails (next value)) :
    NeverFails (first >>= next) := by
  cases first with
  | error firstError =>
      intro error herror
      cases herror
      exact hfirst firstError rfl
  | ok value => exact hnext value rfl

theorem mapM {Item : Type} {step : Item → Except CheckoutError Value}
    (hstep : ∀ item, NeverFails (step item)) (items : List Item) :
    NeverFails (items.mapM step) := by
  induction items with
  | nil => exact ok
  | cons item items ih =>
      rw [List.mapM_cons]
      exact (hstep item).bind fun _ _ => ih.bind fun _ _ => ok

end NeverFails

variable {store : Store} {tokenWarehouseIds : List ℕ} {body : CheckoutBody}

theorem mintChildSoNumber_neverFails (parentSoId : ℕ) (parentSoNumber : String)
    (orderType : OrderType) :
    NeverFails (mintChildSoNumber store parentSoId parentSoNumber orderType) := by
  rw [mintChildSoNumber]
  split
  · exact .error (by simp [CheckoutError.kind])
  · split <;> exact .ok

theorem orderNumber_neverFails : NeverFails (orderNumber store tokenWarehouseIds body) := by
  rw [orderNumber]
  split
  · exact .ok
  · split
    · exact .error (by decide)
    · split
      · exact .error (by decide)
      · exact (mintChildSoNumber_neverFails _ _ _).bind fun _ _ => .ok

theorem insertSalesOrder_neverFails (order : SalesOrder) :
    NeverFails (insertSalesOrder store order) := by
  rw [insertSalesOrder]
  split
  · exact .error (by simp [CheckoutError.kind])
  · exact .ok

theorem insertCheckoutOrder_neverFails (status : SoStatus) (warehouseId : ℕ)
    (number : String × Option ℕ) :
    NeverFails (insertCheckoutOrder store body status warehouseId number) := by
  rw [insertCheckoutOrder]
  split
  · exact .error (by decide)
  · exact insertSalesOrder_neverFails _

theorem returnLine_neverFails (parentSoId : ℕ) (returned : ReturnedItem) :
    NeverFails (returnLine store body parentSoId returned) := by
  rw [returnLine]
  split
  · exact .error (by simp [CheckoutError.kind])
  · split
    · exact .ok
    · exact .error (by simp [CheckoutError.kind])

theorem createRma_neverFails (originalSoId : ℕ) (lines : List (ℕ × ℤ)) :
    NeverFails (createRma store originalSoId lines) := by
  rw [createRma]
  split
  · exact .error (by decide)
  · exact (mintChildSoNumber_neverFails _ _ _).bind fun _ _ =>
      (insertSalesOrder_neverFails _).bind fun _ _ => .ok

theorem bookReturns_neverFails (parentSoId : Option ℕ) :
    NeverFails (bookReturns store body parentSoId) := by
  unfold bookReturns
  split
  · exact (NeverFails.mapM (returnLine_neverFails _) _).bind fun _ _ =>
      createRma_neverFails _ _
  · exact .ok

theorem finishCheckout_neverFails (soId : ℕ) (number : String × Option ℕ) :
    NeverFails (finishCheckout store body soId number) :=
  (bookReturns_neverFails _).bind fun _ _ => .ok

theorem replay_neverFails : NeverFails (replay store body) := by
  rw [replay]
  split
  · exact .ok
  · split
    · exact .error (by simp [CheckoutError.kind])
    · exact .ok

theorem replay_of_unused (hkey : store.orderByKey body.idempotencyKey = none) :
    replay store body = .ok none := by
  rw [replay, hkey]

/-! ## Taking the lines -/

variable {isPhoneOrder : Bool} {soId : ℕ}

@[simp]
theorem takeUnits_atLocation (now : ℕ) (quantity : ℤ) (row : Inventory)
    (location : Location) :
    (takeUnits isPhoneOrder now quantity row).atLocation location =
      row.atLocation location := by
  cases isPhoneOrder <;> rfl

@[simp]
theorem takeUnits_available (now : ℕ) (quantity : ℤ) (row : Inventory) :
    (takeUnits isPhoneOrder now quantity row).available = row.available - quantity := by
  cases isPhoneOrder <;> simp [takeUnits, Inventory.available] <;> ring

theorem location_of_atLocation {row : Inventory} {location location' : Location}
    (hrow : row.atLocation location = true) (hrow' : row.atLocation location' = true) :
    location = location' := by
  cases location
  cases location'
  simp only [Inventory.atLocation, Bool.and_eq_true, beq_iff_eq] at hrow hrow'
  grind

theorem firstAvailable_take {location : Location} {inventoryId : ℕ} {row : Inventory}
    (hfirst : store.firstRow location = some (inventoryId, row)) (now : ℕ)
    (quantity : ℤ) (lines : Table SalesOrderLine) (location' : Location) :
    Store.firstAvailable
        { store with
          salesOrderLines := lines
          inventory := store.inventory.modify inventoryId
            (takeUnits isPhoneOrder now quantity) } location' =
      store.firstAvailable location' -
        if location = location' then quantity else 0 := by
  have hkept : Store.firstRow
      { store with
        salesOrderLines := lines
        inventory := store.inventory.modify inventoryId
          (takeUnits isPhoneOrder now quantity) } location' =
      (store.firstRow location').map fun entry =>
        (entry.1, if entry.1 = inventoryId then takeUnits isPhoneOrder now quantity entry.2
          else entry.2) := by
    apply Table.find?_mapRows
    intro key row'
    split
    · exact takeUnits_atLocation now quantity row' location'
    · rfl
  rw [Store.firstAvailable, hkept, Store.firstAvailable]
  have hlocation : row.atLocation location = true := by
    simpa using List.find?_some hfirst
  cases hfirst' : store.firstRow location' with
  | none =>
      have hne : location ≠ location' := by
        rintro rfl
        rw [hfirst] at hfirst'
        cases hfirst'
      simp [hne]
  | some entry =>
      obtain ⟨inventoryId', row'⟩ := entry
      have hlocation' : row'.atLocation location' = true := by
        simpa using List.find?_some hfirst'
      by_cases hkey : inventoryId' = inventoryId
      · subst hkey
        have hrow := store.inventory.row_unique (List.mem_of_find?_eq_some hfirst)
          (List.mem_of_find?_eq_some hfirst')
        subst hrow
        simp [location_of_atLocation hlocation hlocation']
      · have hne : location ≠ location' := by
          rintro rfl
          rw [hfirst] at hfirst'
          exact hkey (congrArg Prod.fst (Option.some.inj hfirst')).symm
        simp [hkey, hne]

variable {line : StockLine}

theorem takeLine_accepted :
    (∃ after, takeLine isPhoneOrder soId store line = .ok after) ↔
      line.line.quantity ≤ store.firstAvailable line.location := by
  have hquantity := line.line.quantityMin
  cases hfirst : store.firstRow line.location with
  | none =>
      simp only [takeLine, Store.firstAvailable, hfirst, reduceCtorEq, exists_false,
        false_iff, not_le]
      omega
  | some entry =>
      by_cases hshort : entry.2.available < line.line.quantity
      · simp [takeLine, Store.firstAvailable, hfirst, hshort]
      · simp only [takeLine, Store.firstAvailable, hfirst, if_neg hshort, not_lt.mp hshort,
          iff_true]
        exact ⟨_, rfl⟩

theorem takeLine_available {after : Store}
    (htake : takeLine isPhoneOrder soId store line = .ok after) (location : Location) :
    after.firstAvailable location = store.firstAvailable location -
      if line.location = location then line.line.quantity else 0 := by
  rw [takeLine] at htake
  split at htake
  · cases htake
  next inventoryId row hfirst =>
    split at htake
    · cases htake
    · cases htake
      exact firstAvailable_take hfirst _ _ _ location

theorem takeLine_error {error : CheckoutError}
    (htake : takeLine isPhoneOrder soId store line = .error error) :
    error.kind = "fulfillment_failed" := by
  rw [takeLine] at htake
  split at htake
  · cases htake
    rfl
  · split at htake
    · cases htake
      rfl
    · cases htake

theorem takeLines_accepted :
    (∃ after, lines.foldlM (takeLine isPhoneOrder soId) store = .ok after) ↔
      ∀ location, 0 < stockDemand lines location →
        stockDemand lines location ≤ store.firstAvailable location := by
  induction lines generalizing store with
  | nil => simp [pure, Except.pure]
  | cons line lines ih =>
      have hquantity := line.line.quantityMin
      have hrest := stockDemand_nonneg lines
      simp only [List.foldlM_cons, bind_eq_ok, stockDemand_cons]
      constructor
      · rintro ⟨after, middle, htake, hfold⟩ location hdemand
        have hline := takeLine_accepted.mp ⟨middle, htake⟩
        have hlines := ih.mp ⟨after, hfold⟩ location
        rw [takeLine_available htake] at hlines
        have hnonneg := hrest location
        by_cases hlocation : line.location = location
        · subst hlocation
          simp only [if_true] at hdemand hlines ⊢
          omega
        · simp only [if_neg hlocation] at hdemand hlines ⊢
          omega
      · intro hcovered
        have hline : line.line.quantity ≤ store.firstAvailable line.location := by
          have hall := hcovered line.location
          have hnonneg := hrest line.location
          rw [if_pos rfl] at hall
          omega
        obtain ⟨middle, htake⟩ := takeLine_accepted.mpr hline
        have hlines : ∀ location, 0 < stockDemand lines location →
            stockDemand lines location ≤ middle.firstAvailable location := by
          intro location hdemand
          have hall := hcovered location
          rw [takeLine_available htake]
          by_cases hlocation : line.location = location
          · simp only [if_pos hlocation] at hall ⊢
            omega
          · simp only [if_neg hlocation] at hall ⊢
            omega
        obtain ⟨after, hfold⟩ := ih.mpr hlines
        exact ⟨after, middle, htake, hfold⟩

theorem takeLines_error {error : CheckoutError}
    (hfold : lines.foldlM (takeLine isPhoneOrder soId) store = .error error) :
    error.kind = "fulfillment_failed" := by
  induction lines generalizing store with
  | nil => cases hfold
  | cons line lines ih =>
      rw [List.foldlM_cons] at hfold
      cases htake : takeLine isPhoneOrder soId store line with
      | error lineError =>
          rw [htake] at hfold
          cases hfold
          exact takeLine_error htake
      | ok middle =>
          rw [htake] at hfold
          exact ih hfold

/-! ## Lines of a valid cart -/

theorem locateLines_of_valid {rows : List ResolvedLine}
    (hvalid : ∀ row ∈ rows, classifyLine store tokenWarehouseIds row = none) :
    ∃ lines, rows.mapM locateLine = .ok lines ∧ ∀ location,
      stockDemand lines location =
        ((rows.filter fun row => row.location == some location).map
          fun row => row.line.quantity).sum := by
  induction rows with
  | nil => exact ⟨[], rfl, fun _ => rfl⟩
  | cons row rows ih =>
      obtain ⟨lines, hlines, hdemand⟩ :=
        ih fun row hrow => hvalid row (List.mem_cons_of_mem _ hrow)
      obtain ⟨location, hlocated, -⟩ :=
        classifyLine_eq_none (hvalid row List.mem_cons_self)
      have hitem : row.hasItem = true := by
        obtain ⟨item, hitem, -⟩ := ResolvedLine.location_eq_some.mp hlocated.resolves
        have hactive : item.isActive = true := hlocated.active _ hitem
        simp [ResolvedLine.hasItem, hitem, hactive]
      refine ⟨⟨row.idx, row.line, location⟩ :: lines, ?_, ?_⟩
      · rw [List.mapM_cons, hlines, locateLine, hlocated.resolves]
        simp only [hitem, if_true]
        rfl
      · intro location'
        rw [stockDemand_cons, hdemand]
        by_cases hsame : location = location' <;>
          simp [hlocated.resolves, hsame]

theorem checkScope_of_valid {cart : Cart}
    (hvalid : validateCart store tokenWarehouseIds cart = []) :
    checkScope store tokenWarehouseIds cart = .ok () := by
  have hnone : (cart.lines.zipIdx.find? fun entry =>
      entry.1.outOfScope store tokenWarehouseIds) = none := by
    rw [List.find?_eq_none]
    intro entry hentry
    have hrow : resolveLine store entry.2 entry.1 ∈ resolveLines store cart :=
      List.mem_map_of_mem hentry
    obtain ⟨location, hlocated, -⟩ :=
      classifyLine_eq_none (validateCart_eq_nil.mp hvalid _ hrow)
    obtain ⟨-, -, hwarehouse, -⟩ :=
      ResolvedLine.location_eq_some.mp hlocated.resolves
    have hcode : store.warehouseByCode entry.1.warehouseCode =
        some location.warehouseId := hwarehouse
    simp [CartLine.outOfScope, hcode, hlocated.scope]
  rw [checkScope, hnone]

/-! ## Checkout of a valid cart -/

theorem insertCheckoutOrder_spec {status : SoStatus} {warehouseId : ℕ}
    {number : String × Option ℕ} {inserted : Store × ℕ}
    (hinsert : insertCheckoutOrder store body status warehouseId number = .ok inserted) :
    store.orderByKey body.idempotencyKey = none ∧
      store.soNumberTaken number.1 = false ∧
      inserted.1.inventory = store.inventory := by
  rw [insertCheckoutOrder] at hinsert
  split at hinsert
  · cases hinsert
  next hkey =>
    rw [insertSalesOrder] at hinsert
    split at hinsert
    · cases hinsert
    next htaken =>
      cases hinsert
      exact ⟨hkey, Bool.not_eq_true _ ▸ htaken, rfl⟩

theorem insertCheckoutOrder_accepted (status : SoStatus) (warehouseId : ℕ)
    {number : String × Option ℕ}
    (hkey : store.orderByKey body.idempotencyKey = none)
    (hfree : store.soNumberTaken number.1 = false) :
    ∃ inserted,
      insertCheckoutOrder store body status warehouseId number = .ok inserted := by
  have hfree' : ¬ store.soNumberTaken
      (body.order store.now status warehouseId number).soNumber = true := by
    rw [CheckoutBody.order, hfree]
    exact Bool.false_ne_true
  rw [insertCheckoutOrder, hkey]
  exact ⟨_, if_neg hfree'⟩

theorem takeCart_accepted {inserted : Store}
    (hinventory : inserted.inventory = store.inventory)
    (hdemand : ∀ location, stockDemand lines location = body.cart.demandAt store location) :
    (∃ after, (sortLines lines).foldlM (takeLine isPhoneOrder soId) inserted =
        .ok after) ↔ body.cart.CoveredByFirstRows store := by
  have hsorted : (sortLines lines).Perm lines := List.perm_insertionSort _ lines
  have havailable : ∀ location,
      inserted.firstAvailable location = store.firstAvailable location := by
    intro location
    rw [Store.firstAvailable, Store.firstRow, hinventory]
    rfl
  rw [takeLines_accepted, Cart.CoveredByFirstRows]
  simp only [stockDemand_perm hsorted, hdemand, havailable]

theorem checkoutStock_covered
    (hvalid : validateCart store tokenWarehouseIds body.cart = []) :
    NeverFails (checkoutStock store tokenWarehouseIds body) ↔
      (ReachesStock store tokenWarehouseIds body →
        body.cart.CoveredByFirstRows store) := by
  obtain ⟨lines, hlines, hdemand⟩ :=
    locateLines_of_valid (validateCart_eq_nil.mp hvalid)
  constructor
  · intro hnever hreaches
    obtain ⟨number, hnumber, hfree⟩ := hreaches.numbered
    obtain ⟨inserted, hinsert⟩ := insertCheckoutOrder_accepted
      (if body.isPhoneOrder then .open else .shipped) (headerWarehouse lines)
      hreaches.keyUnused hfree
    obtain ⟨-, -, hinventory⟩ := insertCheckoutOrder_spec hinsert
    rw [checkoutStock, hlines] at hnever
    simp only [bind, Except.bind, hnumber, hinsert] at hnever
    rw [← takeCart_accepted hinventory hdemand]
    cases htake : (sortLines lines).foldlM
        (takeLine body.isPhoneOrder inserted.2) inserted.1 with
    | error error =>
        rw [htake] at hnever
        exact absurd (takeLines_error htake) (hnever error rfl)
    | ok after => exact ⟨after, rfl⟩
  · intro hcovered
    rw [checkoutStock, hlines]
    refine NeverFails.ok.bind fun _ hlocated => ?_
    cases hlocated
    refine orderNumber_neverFails.bind fun number hnumber => ?_
    refine (insertCheckoutOrder_neverFails _ _ _).bind fun inserted hinsert => ?_
    obtain ⟨hkey, hfree, hinventory⟩ := insertCheckoutOrder_spec hinsert
    have htakes : ∃ after, (sortLines lines).foldlM
        (takeLine body.isPhoneOrder inserted.2) inserted.1 = .ok after :=
      (takeCart_accepted hinventory hdemand).mpr
        (hcovered ⟨hkey, number, hnumber, hfree⟩)
    obtain ⟨after, htake⟩ := htakes
    dsimp only
    rw [htake]
    exact NeverFails.ok.bind fun _ _ => finishCheckout_neverFails _ _

/-- A valid cart that is not a backorder never ends in `fulfillment_failed` exactly
when the first rows cover it, or the request is answered before its lines are
taken. -/
theorem checkout_covered (backorderCode : String)
    (hvalid : validateCart store tokenWarehouseIds body.cart = [])
    (hbackorder : body.backorder = false) :
    NeverFails (checkout store backorderCode tokenWarehouseIds body) ↔
      (ReachesStock store tokenWarehouseIds body →
        body.cart.CoveredByFirstRows store) := by
  cases hreplay : replay store body with
  | error error =>
      constructor
      · intro _ hreaches
        rw [replay_of_unused hreaches.keyUnused] at hreplay
        cases hreplay
      · intro _
        rw [checkout, hreplay]
        exact .error (replay_neverFails error hreplay)
  | ok answered =>
      cases answered with
      | none =>
          rw [checkout, hreplay, ← checkoutStock_covered hvalid]
          simp [bind, Except.bind, checkScope_of_valid hvalid, hbackorder]
      | some response =>
          constructor
          · intro _ hreaches
            rw [replay_of_unused hreaches.keyUnused] at hreplay
            cases hreplay
          · intro _
            rw [checkout, hreplay]
            exact .ok

/-! ## Carts on a small shop -/

def shopStore (lots : List ℤ) : Store where
  warehouses := .ofRows [{ warehouseCode := "W1", isActive := true }]
  items := .ofRows [{ sku := "A", upc := some "1", barcodeAliases := [] }]
  bins := .ofRows
    [{ warehouseId := 1, binCode := "P1", binType := .pickable, pickSequence := 1 }]
  inventory := .ofRows (lots.map fun quantity =>
    { itemId := 1, binId := 1, warehouseId := 1, quantityOnHand := quantity,
      quantityAllocated := 0, lotNumber := none, updatedAt := 0 })

def oneUnit : CartLine where
  sku := "A"
  warehouseCode := "W1"
  binCode := "P1"
  quantity := 1
  quantityMin := by decide
  quantityMax := by decide

def twoLines : Cart where
  lines := [oneUnit, oneUnit]
  linesMin := by decide
  linesMax := by decide

/-- The counter sale or phone order of that cart. -/
def twoLinesBody (isPhoneOrder : Bool) : CheckoutBody where
  idempotencyKey := "k1"
  bodyHash := "h1"
  cart := twoLines
  isPhoneOrder := isPhoneOrder
  orderType := none
  parentSoNumber := none
  returnedItems := []
  paymentMethod := .card
  completedAt := 0
  backorder := false
  locationUnlessBackorder := by decide

theorem checkout_covered_twoUnits :
    NeverFails (checkout (shopStore [2]) "" [1] (twoLinesBody false)) ∧
      twoLines.CoveredByFirstRows (shopStore [2]) := by
  have hnever : NeverFails (checkout (shopStore [2]) "" [1] (twoLinesBody false)) := by
    intro error herror
    cases herror
  exact ⟨hnever, (checkout_covered "" rfl rfl).mp hnever ⟨rfl, _, rfl, rfl⟩⟩

/-- With one unit in stock, or with two on separate lot rows, the check accepts the
cart and the checkout fails on its second line. -/
theorem checkout_fails_valid_cart :
    validateCart (shopStore [1]) [1] twoLines = [] ∧
      checkout (shopStore [1]) "" [1] (twoLinesBody false) =
        .error (.fulfillmentFailed 1 "A" "W1" "P1" (.notDecremented 0)) ∧
      validateCart (shopStore [1, 1]) [1] twoLines = [] ∧
      checkout (shopStore [1, 1]) "" [1] (twoLinesBody true) =
        .error (.fulfillmentFailed 1 "A" "W1" "P1" (.notDecremented 0)) :=
  ⟨rfl, rfl, rfl, rfl⟩

end SentryWms
