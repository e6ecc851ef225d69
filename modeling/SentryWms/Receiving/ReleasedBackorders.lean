import SentryWms.Receiving.Receive
import SentryWms.Store.Stock

/-!
# Released backorders

Stock that arrives releases the waiting orders of which every line can be picked from
what the warehouse has. A release consumes nothing, so each order is tested against the
same stock, and so is each line.
-/

namespace SentryWms

open Relational Transition

def Store.backorderLines (store : Store) (soId : ℕ) : List (ℕ × SalesOrderLine) :=
  store.salesOrderLines.select fun line => line.soId == soId

def Store.satisfiable (store : Store) (warehouseId soId : ℕ) : Bool :=
  !(store.backorderLines soId).isEmpty &&
    (store.backorderLines soId).all fun line => decide (line.2.quantityOrdered ≤
      store.pickableUnits line.2.itemId warehouseId)

/-- The orders that a call takes from waiting to open. -/
def Store.releasedOrders (store after : Store) : List (ℕ × SalesOrder) :=
  store.salesOrders.entries.filter fun entry =>
    entry.2.status == .waitingStock &&
      (after.salesOrders.get? entry.1).any fun order => order.status == .open

def Store.orderedUnits (store : Store) (soId itemId : ℕ) : ℤ :=
  ((store.backorderLines soId).map fun line =>
    if line.2.itemId = itemId then line.2.quantityOrdered else 0).sum

/-- What the orders that a call releases are for can be picked, all together. -/
def JointlyCoverable (store : Store) (warehouseId itemId : ℕ) : Prop :=
  ∀ itemId', ((store.releasedOrders
      (releaseSatisfiableBackorders store warehouseId itemId)).map fun entry =>
        store.orderedUnits entry.1 itemId').sum ≤
    store.pickableUnits itemId' warehouseId

section Release

variable {store released : Store} {warehouseId itemId soId : ℕ}

/-- The stock of a warehouse and the lines of the orders are not changed. -/
def Store.SamePicks (store after : Store) : Prop :=
  after.inventory = store.inventory ∧ after.bins = store.bins ∧
    after.salesOrderLines = store.salesOrderLines

theorem Store.SamePicks.satisfiable (hsame : store.SamePicks released) :
    released.satisfiable = store.satisfiable := by
  obtain ⟨hinventory, hbins, hlines⟩ := hsame
  funext warehouseId soId
  rw [Store.satisfiable, Store.satisfiable, Store.backorderLines, Store.backorderLines,
    hlines]
  simp only [Store.pickableUnits, Store.stock, hinventory, hbins]

theorem releaseBackorder_eq (order : ℕ × SalesOrder) :
    releaseBackorder warehouseId store order =
      if store.satisfiable warehouseId order.1 then
        { store with
          salesOrders := store.salesOrders.modify order.1 fun order =>
            { order with status := .open } }
      else store := by
  rw [releaseBackorder, Store.satisfiable, Store.backorderLines]
  cases hempty : (store.salesOrderLines.select fun line =>
      line.soId == order.1).isEmpty with
  | true => rfl
  | false => rfl

theorem foldl_releaseBackorder (orders : List (ℕ × SalesOrder))
    (hsame : store.SamePicks released) :
    orders.foldl (releaseBackorder warehouseId) released =
      { released with
        salesOrders := (orders.filter fun order =>
            store.satisfiable warehouseId order.1).foldl
          (fun table order => table.modify order.1 fun order =>
            { order with status := .open }) released.salesOrders } := by
  induction orders generalizing released with
  | nil => rfl
  | cons order orders ih =>
      rw [List.foldl_cons, releaseBackorder_eq, hsame.satisfiable]
      by_cases hsatisfiable : store.satisfiable warehouseId order.1 = true
      · have hfilter : ((order :: orders).filter fun order =>
            store.satisfiable warehouseId order.1) =
            order :: orders.filter fun order => store.satisfiable warehouseId order.1 :=
          List.filter_cons_of_pos hsatisfiable
        have hopened : store.SamePicks
            { released with
              salesOrders := released.salesOrders.modify order.1 fun order =>
                { order with status := .open } } := hsame
        rw [if_pos hsatisfiable, hfilter, List.foldl_cons, ih hopened]
      · have hfilter : ((order :: orders).filter fun order =>
            store.satisfiable warehouseId order.1) =
            orders.filter fun order => store.satisfiable warehouseId order.1 :=
          List.filter_cons_of_neg hsatisfiable
        rw [if_neg hsatisfiable, hfilter, ih hsame]

theorem releaseSatisfiableBackorders_eq (store : Store) (warehouseId itemId : ℕ) :
    releaseSatisfiableBackorders store warehouseId itemId =
      { store with
        salesOrders := store.salesOrders.mapRows fun soId order =>
          if soId ∈ ((store.waitingOrders warehouseId itemId).filter fun order =>
              store.satisfiable warehouseId order.1).map Prod.fst then
            { order with status := .open }
          else order } := by
  rw [releaseSatisfiableBackorders, foldl_releaseBackorder _ ⟨rfl, rfl, rfl⟩,
    Table.foldl_modify]
  exact store.salesOrders.nodup_keys.sublist
    ((List.filter_sublist.trans List.filter_sublist).map _)

theorem mem_releasedOrders {entry : ℕ × SalesOrder} :
    entry ∈ store.releasedOrders (releaseSatisfiableBackorders store warehouseId itemId) ↔
      entry ∈ store.waitingOrders warehouseId itemId ∧
        store.satisfiable warehouseId entry.1 = true := by
  obtain ⟨soId, order⟩ := entry
  rw [releaseSatisfiableBackorders_eq, Store.releasedOrders, List.mem_filter]
  dsimp only
  have hselected : soId ∈ ((store.waitingOrders warehouseId itemId).filter fun order =>
      store.satisfiable warehouseId order.1).map Prod.fst ↔
      ∃ order, (soId, order) ∈ store.waitingOrders warehouseId itemId ∧
        store.satisfiable warehouseId soId = true := by
    simp only [List.mem_map, List.mem_filter, Prod.exists, exists_and_right,
      exists_eq_right]
  constructor
  · rintro ⟨hmem, hopened⟩
    rw [Bool.and_eq_true, beq_iff_eq, Table.get?_mapRows,
      (store.salesOrders.get?_eq_some).mpr hmem, Option.map_some, Option.any_some,
      beq_iff_eq] at hopened
    obtain ⟨hwaiting, hopen⟩ := hopened
    split at hopen
    next hin =>
      obtain ⟨order', hwaits, hsatisfiable⟩ := hselected.mp hin
      rw [store.salesOrders.row_unique hmem (List.mem_filter.mp hwaits).1]
      exact ⟨hwaits, hsatisfiable⟩
    next =>
      rw [hwaiting] at hopen
      cases hopen
  · rintro ⟨hwaits, hsatisfiable⟩
    obtain ⟨hmem, hcond⟩ := List.mem_filter.mp hwaits
    have hwaiting : order.status == .waitingStock := by
      simp only [Bool.and_eq_true] at hcond
      exact hcond.1.1
    refine ⟨hmem, ?_⟩
    rw [hwaiting, Table.get?_mapRows, (store.salesOrders.get?_eq_some).mpr hmem,
      Option.map_some, if_pos (hselected.mpr ⟨order, hwaits, hsatisfiable⟩)]
    rfl

/-! ### Several calls -/

def Store.opens (store : Store) (pairs : List (ℕ × ℕ)) (soId : ℕ) (order : SalesOrder) : Bool :=
  order.status == .waitingStock &&
    (pairs.any fun pair => order.warehouseId == pair.1 &&
      store.salesOrderLines.entries.any fun line =>
        line.2.soId == soId && line.2.itemId == pair.2) &&
    store.satisfiable order.warehouseId soId

def Store.openOrders (store : Store) (pairs : List (ℕ × ℕ)) (orders : Table SalesOrder) :
    Table SalesOrder :=
  orders.mapRows fun soId order =>
    if store.opens pairs soId order then { order with status := .open } else order

variable {pairs pairs' : List (ℕ × ℕ)}

theorem openOrders_congr (hpairs : ∀ pair, pair ∈ pairs ↔ pair ∈ pairs') :
    store.openOrders pairs = store.openOrders pairs' := by
  have hopens : store.opens pairs = store.opens pairs' := by
    funext soId order
    rw [Bool.eq_iff_iff]
    simp only [Store.opens, Bool.and_eq_true, List.any_eq_true, hpairs]
  funext orders
  rw [Store.openOrders, Store.openOrders, hopens]

theorem Store.SamePicks.openOrders (hsame : store.SamePicks released) :
    released.openOrders = store.openOrders := by
  have hopens : released.opens = store.opens := by
    funext pairs soId order
    rw [Store.opens, Store.opens, hsame.satisfiable, hsame.2.2]
  funext pairs orders
  rw [Store.openOrders, Store.openOrders, hopens]

theorem releaseSatisfiableBackorders_opens (store : Store) (warehouseId itemId : ℕ) :
    releaseSatisfiableBackorders store warehouseId itemId =
      { store with
        salesOrders := store.openOrders [(warehouseId, itemId)] store.salesOrders } := by
  rw [releaseSatisfiableBackorders_eq, Store.openOrders]
  refine congrArg (fun salesOrders => { store with salesOrders }) (Table.mapRows_congr _ ?_)
  intro soId order hmem
  refine if_congr ?_ rfl rfl
  simp only [List.mem_map, List.mem_filter, Store.waitingOrders, Store.opens, Bool.and_eq_true,
    beq_iff_eq, List.any_cons, List.any_nil, Bool.or_false, Prod.exists, exists_and_right,
    exists_eq_right]
  constructor
  · rintro ⟨⟨other, hother, ⟨hwaits, hwarehouse⟩, hline⟩, hsatisfiable⟩
    cases store.salesOrders.row_unique hmem hother
    exact ⟨⟨hwaits, hwarehouse, hline⟩, hwarehouse ▸ hsatisfiable⟩
  · rintro ⟨⟨hwaits, hwarehouse, hline⟩, hsatisfiable⟩
    exact ⟨⟨order, hmem, ⟨hwaits, hwarehouse⟩, hline⟩, hwarehouse ▸ hsatisfiable⟩

/-- What one call opens does not wait any more for the others. -/
theorem openOrders_cons (pair : ℕ × ℕ) (orders : Table SalesOrder) :
    store.openOrders pairs (store.openOrders [pair] orders) =
      store.openOrders (pair :: pairs) orders := by
  rw [Store.openOrders, Store.openOrders, Store.openOrders, Table.mapRows_mapRows]
  refine Table.mapRows_congr _ fun soId order _ => ?_
  have hcons : store.opens (pair :: pairs) soId order =
      (store.opens [pair] soId order || store.opens pairs soId order) := by
    simp only [Store.opens, List.any_cons, List.any_nil, Bool.or_false,
      Bool.and_or_distrib_left, Bool.and_or_distrib_right]
  have hopened : store.opens pairs soId { order with status := .open } = false := rfl
  rw [hcons]
  cases store.opens [pair] soId order with
  | true => rw [if_pos rfl, hopened, Bool.true_or, if_pos rfl, if_neg Bool.false_ne_true]
  | false => rw [Bool.false_or, if_neg Bool.false_ne_true]

theorem foldl_releaseSatisfiableBackorders (hsame : store.SamePicks released) :
    pairs.foldl (fun store pair => releaseSatisfiableBackorders store pair.1 pair.2) released =
      { released with salesOrders := store.openOrders pairs released.salesOrders } := by
  induction pairs generalizing released with
  | nil => simp [Store.openOrders, Store.opens, Table.mapRows_id]
  | cons pair pairs ih =>
      have hopened : store.SamePicks
          { released with
            salesOrders := store.openOrders [pair] released.salesOrders } := hsame
      rw [List.foldl_cons, releaseSatisfiableBackorders_opens, hsame.openOrders, ih hopened,
        openOrders_cons]

theorem pickableUnits_nonneg (store : Store) (itemId warehouseId : ℕ) :
    0 ≤ store.pickableUnits itemId warehouseId := by
  rw [Store.pickableUnits, Store.stock]
  apply Table.total_nonneg
  intro key row _
  split
  · exact le_max_right _ _
  · exact le_refl 0

theorem orderedUnits_le {capacity : ℤ} (hcapacity : 0 ≤ capacity)
    (hdistinct : ((store.backorderLines soId).map fun line => line.2.itemId).Nodup)
    (hlines : ∀ line ∈ store.backorderLines soId, line.2.itemId = itemId →
      line.2.quantityOrdered ≤ capacity) :
    store.orderedUnits soId itemId ≤ capacity := by
  rw [Store.orderedUnits]
  by_cases hitem : itemId ∈ (store.backorderLines soId).map fun line => line.2.itemId
  · obtain ⟨line, hline, hsame⟩ := List.mem_map.mp hitem
    have hsingle := Table.sum_ite_key hdistinct hline (fun line => line.2.quantityOrdered)
    rw [hsame] at hsingle
    rw [hsingle]
    exact hlines line hline hsame
  · have hzero : ((store.backorderLines soId).map fun line =>
        if line.2.itemId = itemId then line.2.quantityOrdered else 0).sum = 0 := by
      apply List.sum_eq_zero
      intro units hunits
      obtain ⟨line, hline, rfl⟩ := List.mem_map.mp hunits
      exact if_neg fun hsame => hitem (List.mem_map.mpr ⟨line, hline, hsame⟩)
    rw [hzero]
    exact hcapacity

end Release

/-! ## Two backorders for one unit -/

def waitingSale (soNumber : String) : SalesOrder where
  soNumber := soNumber
  soBarcode := none
  status := .waitingStock
  warehouseId := 1
  orderType := .backorder
  parentSoId := none
  cancellationReason := none

def oneWanted (soId : ℕ) : SalesOrderLine where
  soId := soId
  itemId := 1
  lineNumber := 1
  quantityOrdered := 1
  quantityAllocated := 0
  quantityPicked := 0

/-- Two backorders for a unit each, and one unit in a bin. -/
def oneUnitTwice : Store where
  warehouses := .ofRows [⟨"W", true⟩]
  items := .ofRows [⟨"A", none, [], true, none⟩]
  bins := .ofRows [⟨1, "B", .pickable, 1, true⟩]
  inventory := .ofRows [⟨1, 1, 1, 1, 0, none, 0⟩]
  salesOrders := .ofRows [waitingSale "SO-1-BO", waitingSale "SO-2-BO"]
  salesOrderLines := .ofRows [oneWanted 1, oneWanted 2]

/-- A call takes no stock, opens the orders waiting in the warehouse for the item of
which there are lines and each can be picked, and each of them that names its items once
can be picked by itself. -/
theorem releases_coverable (store : Store) (warehouseId itemId : ℕ) :
    (releaseSatisfiableBackorders store warehouseId itemId).inventory = store.inventory ∧
      ∀ entry, (entry ∈ store.releasedOrders
          (releaseSatisfiableBackorders store warehouseId itemId) ↔
          entry ∈ store.waitingOrders warehouseId itemId ∧
            store.backorderLines entry.1 ≠ [] ∧
            ∀ line ∈ store.backorderLines entry.1,
              line.2.quantityOrdered ≤ store.pickableUnits line.2.itemId warehouseId) ∧
        (entry ∈ store.releasedOrders
            (releaseSatisfiableBackorders store warehouseId itemId) →
          ((store.backorderLines entry.1).map fun line => line.2.itemId).Nodup →
          ∀ itemId', store.orderedUnits entry.1 itemId' ≤
            store.pickableUnits itemId' warehouseId) := by
  have hreleased : ∀ entry, entry ∈ store.releasedOrders
      (releaseSatisfiableBackorders store warehouseId itemId) ↔
      entry ∈ store.waitingOrders warehouseId itemId ∧
        store.backorderLines entry.1 ≠ [] ∧
        ∀ line ∈ store.backorderLines entry.1,
          line.2.quantityOrdered ≤ store.pickableUnits line.2.itemId warehouseId := by
    intro entry
    rw [mem_releasedOrders, Store.satisfiable, Bool.and_eq_true, Bool.not_eq_true',
      List.isEmpty_eq_false_iff, List.all_eq_true]
    simp only [decide_eq_true_eq]
  refine ⟨by rw [releaseSatisfiableBackorders_eq], fun entry => ⟨hreleased entry, ?_⟩⟩
  intro hentry hdistinct itemId'
  obtain ⟨-, -, hlines⟩ := (hreleased entry).mp hentry
  apply orderedUnits_le (pickableUnits_nonneg store itemId' warehouseId) hdistinct
  intro line hline hsame
  rw [← hsame]
  exact hlines line hline

theorem releases_coverable_oneUnit :
    oneUnitTwice.orderedUnits 1 1 ≤ oneUnitTwice.pickableUnits 1 1 :=
  ((releases_coverable oneUnitTwice 1 1).2 (1, waitingSale "SO-1-BO")).2
    (by decide +kernel) (by decide +kernel) 1

/-- Both are released. -/
theorem releases_oneUnitTwice :
    ¬ ∀ (store : Store) (warehouseId itemId : ℕ),
      JointlyCoverable store warehouseId itemId := by
  intro hclaim
  exact absurd (hclaim oneUnitTwice 1 1 1) (by decide +kernel)

end SentryWms
