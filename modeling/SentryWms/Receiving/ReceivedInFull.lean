import SentryWms.Receiving.Receive
import SentryWms.Store.Stock

/-!
# Receiving a purchase order in full

`receive_items` books each entry of a request on one line of its item, whichever line a
query without `ORDER BY` answers with, and checks the entry against what that line has
open. An order that has an item on several lines can then be open for more than one
entry may bring.
-/

namespace SentryWms

open Relational Transition

/-! ## A line of an item -/

def Store.poLines (store : Store) (poId itemId : ℕ) : List (ℕ × PurchaseOrderLine) :=
  store.purchaseOrderLines.select fun line => line.poId == poId && line.itemId == itemId

/-- One turn of the loop of `receive_items`, with the line that the query chooses. -/
def receiveItemOn (choice : Option ℕ) (poId warehouseId : ℕ) (state : Receiving)
    (item : ReceiveItem) : Except ReceiveError Receiving := do
  checkReceivingBin state.store warehouseId item.binId
  match limitOne choice (state.store.poLines poId item.itemId) with
  | none => .error (.itemNotOnPo item.itemId poId)
  | some (poLineId, line) =>
      let remaining := line.quantityOrdered - line.quantityReceived
      if remaining < item.quantity ∧ ¬ state.store.allowsOverReceipt then
        .error (.overReceipt line.lineNumber item.quantity remaining)
      else if state.store.receiptTaken item.externalId then
        .error (.receiptExists item.externalId)
      else
        .ok
          { store := bookItem poId warehouseId state.store item poLineId
            receiptIds := state.receiptIds ++ [state.store.itemReceipts.next]
            warnings :=
              if remaining < item.quantity then
                state.warnings ++ [⟨line.lineNumber, item.quantity, remaining⟩]
              else state.warnings }

/-- `receive_items`, with the lines that its queries choose, entry by entry. -/
def receiveItemsOn (choices : ℕ → Option ℕ) (store : Store) (scope : WarehouseScope)
    (request : ReceiveItemsRequest) : Except ReceiveError (Store × ReceiveResult) :=
  match (store.purchaseOrders.get? request.poId).filter fun order =>
      scope.allows order.warehouseId with
  | none => .error .orderNotFound
  | some order =>
      if order.status ≠ .open ∧ order.status ≠ .partiallyReceived then
        .error (.cannotReceive order.status)
      else do
        let received ← request.items.zipIdx.foldlM
          (fun state entry =>
            receiveItemOn (choices entry.2) request.poId order.warehouseId state entry.1)
          { store, receiptIds := [], warnings := [] }
        let poStatus := received.store.receivedStatus request.poId
        .ok ({ received.store with
            purchaseOrders := received.store.purchaseOrders.modify request.poId
              fun order => { order with status := poStatus } },
          { receiptIds := received.receiptIds, poStatus, warnings := received.warnings })

/-! ## What a request asks for -/

def PurchaseOrderLine.openUnits (line : PurchaseOrderLine) : ℤ :=
  line.quantityOrdered - line.quantityReceived

def Store.openUnits (store : Store) (poId itemId : ℕ) : ℤ :=
  ((store.poLines poId itemId).map fun entry => entry.2.openUnits).sum

def Store.receivedUnits (store : Store) (poId itemId : ℕ) : ℤ :=
  ((store.poLines poId itemId).map fun entry => entry.2.quantityReceived).sum

def ReceiveItemsRequest.unitsOf (request : ReceiveItemsRequest) (itemId : ℕ) : ℤ :=
  (request.items.map fun item => if item.itemId = itemId then item.quantity else 0).sum

/-- The request asks of every item for no more than its lines are open for. -/
def Store.WithinOrder (store : Store) (request : ReceiveItemsRequest) : Prop :=
  ∀ item ∈ request.items,
    request.unitsOf item.itemId ≤ store.openUnits request.poId item.itemId

/-- The request reaches the loop: the order is there and open, nothing may be received
beyond it, the bins lie in its warehouse, and the receipts have ids of their own. -/
structure Receivable (store : Store) (scope : WarehouseScope)
    (request : ReceiveItemsRequest) (order : PurchaseOrder) : Prop where
  found : store.purchaseOrders.get? request.poId = some order
  allowed : scope.allows order.warehouseId = true
  status : order.status = .open ∨ order.status = .partiallyReceived
  noOverReceipt : store.allowsOverReceipt = false
  bins : ∀ item ∈ request.items, ∃ bin, store.bins.get? item.binId = some bin ∧
    bin.warehouseId = order.warehouseId
  fresh : ∀ item ∈ request.items, store.receiptTaken item.externalId = false
  distinct : (request.items.map ReceiveItem.externalId).Nodup

/-- Whatever lines the queries choose, a request within the order is accepted, and the
totals grow by what it brings; one beyond the order is refused. -/
structure ReceivesInFull (store : Store) (scope : WarehouseScope)
    (request : ReceiveItemsRequest) : Prop where
  accepts : store.WithinOrder request → ∀ choices, ∃ after result,
    receiveItemsOn choices store scope request = .ok (after, result) ∧
      ∀ itemId,
        after.receivedUnits request.poId itemId =
          store.receivedUnits request.poId itemId + request.unitsOf itemId ∧
        after.onHand itemId = store.onHand itemId + request.unitsOf itemId
  refuses : ¬ store.WithinOrder request → ∀ choices, ∃ error,
    receiveItemsOn choices store scope request = .error error

def Store.EveryLineFits (store : Store) (request : ReceiveItemsRequest) : Prop :=
  ∀ item ∈ request.items, ∀ line ∈ store.poLines request.poId item.itemId,
    request.unitsOf item.itemId ≤ line.2.openUnits

def sentTo (target : ℕ → ℕ) (entries : List (ReceiveItem × ℕ)) (poLineId : ℕ) : ℤ :=
  (entries.map fun entry =>
    if target entry.2 = poLineId then entry.1.quantity else 0).sum

def Store.Spreadable (store : Store) (request : ReceiveItemsRequest) : Prop :=
  ∃ target : ℕ → ℕ, ∀ entry ∈ request.items.zipIdx,
    ∃ line, (target entry.2, line) ∈ store.poLines request.poId entry.1.itemId ∧
      sentTo target request.items.zipIdx (target entry.2) ≤ line.openUnits

/-! ## The lines along the loop -/

def PurchaseOrderLine.withShare (share : ℤ) (line : PurchaseOrderLine) :
    PurchaseOrderLine :=
  if share = 0 then line else line.receive share

@[simp]
theorem withShare_poId (share : ℤ) (line : PurchaseOrderLine) :
    (line.withShare share).poId = line.poId := by
  rw [PurchaseOrderLine.withShare]
  split <;> rfl

@[simp]
theorem withShare_itemId (share : ℤ) (line : PurchaseOrderLine) :
    (line.withShare share).itemId = line.itemId := by
  rw [PurchaseOrderLine.withShare]
  split <;> rfl

@[simp]
theorem withShare_quantityOrdered (share : ℤ) (line : PurchaseOrderLine) :
    (line.withShare share).quantityOrdered = line.quantityOrdered := by
  rw [PurchaseOrderLine.withShare]
  split <;> rfl

@[simp]
theorem withShare_quantityReceived (share : ℤ) (line : PurchaseOrderLine) :
    (line.withShare share).quantityReceived = line.quantityReceived + share := by
  rw [PurchaseOrderLine.withShare]
  split
  next hzero => rw [hzero, add_zero]
  · rfl

theorem withShare_openUnits (share : ℤ) (line : PurchaseOrderLine) :
    (line.withShare share).openUnits = line.openUnits - share := by
  rw [PurchaseOrderLine.openUnits, PurchaseOrderLine.openUnits, withShare_quantityOrdered,
    withShare_quantityReceived]
  omega

theorem withShare_receive {share quantity : ℤ} (hshare : 0 ≤ share) (hquantity : 0 < quantity)
    (line : PurchaseOrderLine) :
    (line.withShare share).receive quantity = line.withShare (share + quantity) := by
  have hsum : share + quantity ≠ 0 := by omega
  rw [PurchaseOrderLine.withShare, PurchaseOrderLine.withShare, if_neg hsum]
  split
  next hzero => rw [hzero, zero_add]
  · simp only [PurchaseOrderLine.receive, add_assoc]

section Loop

variable {store : Store} {poId warehouseId : ℕ}

def Store.sharedLines (store : Store) (share : ℕ → ℤ) : Table PurchaseOrderLine :=
  store.purchaseOrderLines.mapRows fun poLineId line => line.withShare (share poLineId)

/-- A state of the loop: the lines have received shares, and the other entries can be
booked as far as their bins and receipts go. -/
structure LoopState (store : Store) (warehouseId : ℕ) (share : ℕ → ℤ)
    (entries : List (ReceiveItem × ℕ)) (state : Receiving) : Prop where
  lines : state.store.purchaseOrderLines = store.sharedLines share
  nonneg : ∀ poLineId, 0 ≤ share poLineId
  noOverReceipt : state.store.allowsOverReceipt = false
  bins : ∀ entry ∈ entries, ∃ bin, state.store.bins.get? entry.1.binId = some bin ∧
    bin.warehouseId = warehouseId
  fresh : ∀ entry ∈ entries, state.store.receiptTaken entry.1.externalId = false
  distinct : (entries.map fun entry => entry.1.externalId).Nodup

/-- The line that an entry would be booked on. -/
def Store.chosenLine (store : Store) (poId : ℕ) (choices : ℕ → Option ℕ)
    (entry : ReceiveItem × ℕ) : Option (ℕ × PurchaseOrderLine) :=
  limitOne (choices entry.2) (store.poLines poId entry.1.itemId)

variable {share : ℕ → ℤ}

theorem limitOne_sharedLines {store' : Store}
    (hlines : store'.purchaseOrderLines = store.sharedLines share) (choice : Option ℕ)
    (itemId : ℕ) :
    limitOne choice (store'.poLines poId itemId) =
      (limitOne choice (store.poLines poId itemId)).map fun entry =>
        (entry.1, entry.2.withShare (share entry.1)) := by
  rw [Store.poLines, hlines, Store.sharedLines, Table.select_mapRows]
  · exact limitOne_map choice (fun poLineId (line : PurchaseOrderLine) =>
      line.withShare (share poLineId)) _
  · simp

theorem receiptTaken_insert (store : Store) (receipt : ItemReceipt) (externalId : String)
    {after : Store} (hafter : after.itemReceipts = store.itemReceipts.insert receipt) :
    after.receiptTaken externalId =
      (store.receiptTaken externalId || receipt.externalId == externalId) := by
  simp [Store.receiptTaken, hafter, Table.insert]

theorem bookItem_spec (poId warehouseId : ℕ) (store : Store) (item : ReceiveItem)
    (poLineId : ℕ) :
    ∃ inventory salesOrders, bookItem poId warehouseId store item poLineId =
      { store with
        itemReceipts := store.itemReceipts.insert
          { source := .purchaseOrder poId poLineId, itemId := item.itemId,
            quantityReceived := item.quantity, binId := item.binId, warehouseId,
            lotNumber := item.lotNumber, externalId := item.externalId }
        purchaseOrderLines := store.purchaseOrderLines.modify poLineId fun line =>
          line.receive item.quantity
        inventory, salesOrders } := by
  obtain ⟨inventory, hstocked⟩ := addInventory_spec
    { store with
      itemReceipts := store.itemReceipts.insert
        { source := .purchaseOrder poId poLineId, itemId := item.itemId,
          quantityReceived := item.quantity, binId := item.binId, warehouseId,
          lotNumber := item.lotNumber, externalId := item.externalId }
      purchaseOrderLines := store.purchaseOrderLines.modify poLineId fun line =>
        line.receive item.quantity } item.itemId item.binId warehouseId item.quantity
    item.lotNumber
  obtain ⟨salesOrders, hreleased⟩ := releaseSatisfiableBackorders_spec
    { store with
      itemReceipts := store.itemReceipts.insert
        { source := .purchaseOrder poId poLineId, itemId := item.itemId,
          quantityReceived := item.quantity, binId := item.binId, warehouseId,
          lotNumber := item.lotNumber, externalId := item.externalId }
      purchaseOrderLines := store.purchaseOrderLines.modify poLineId fun line =>
        line.receive item.quantity
      inventory } warehouseId item.itemId
  refine ⟨inventory, salesOrders, ?_⟩
  rw [bookItem, hstocked, hreleased]

variable {entry : ReceiveItem × ℕ} {entries : List (ReceiveItem × ℕ)} {state : Receiving}
  {choices : ℕ → Option ℕ}

theorem receiveItemOn_iff {next : Receiving}
    (hstate : LoopState store warehouseId share (entry :: entries) state) :
    receiveItemOn (choices entry.2) poId warehouseId state entry.1 = .ok next ↔
      ∃ picked, store.chosenLine poId choices entry = some picked ∧
        share picked.1 + entry.1.quantity ≤ picked.2.openUnits ∧
        next =
          { store := bookItem poId warehouseId state.store entry.1 picked.1
            receiptIds := state.receiptIds ++ [state.store.itemReceipts.next]
            warnings := state.warnings } := by
  obtain ⟨bin, hbin, hwarehouse⟩ := hstate.bins entry List.mem_cons_self
  have hcheck : checkReceivingBin state.store warehouseId entry.1.binId = .ok () := by
    rw [checkReceivingBin, hbin]
    exact if_neg (not_not.mpr hwarehouse)
  have hfresh := hstate.fresh entry List.mem_cons_self
  rw [receiveItemOn, hcheck, limitOne_sharedLines hstate.lines, Store.chosenLine]
  cases hpicked : limitOne (choices entry.2) (store.poLines poId entry.1.itemId) with
  | none =>
      constructor
      · intro hnext
        cases hnext
      · rintro ⟨picked, hsome, -⟩
        cases hsome
  | some picked =>
      have hopen := withShare_openUnits (share picked.1) picked.2
      rw [PurchaseOrderLine.openUnits] at hopen
      by_cases hroom : share picked.1 + entry.1.quantity ≤ picked.2.openUnits
      · have hremaining : ¬ (picked.2.withShare (share picked.1)).quantityOrdered -
            (picked.2.withShare (share picked.1)).quantityReceived < entry.1.quantity := by
          omega
        simp only [Option.map_some, bind, Except.bind, hremaining, false_and, if_false,
          hfresh, Bool.false_eq_true, Except.ok.injEq]
        constructor
        · intro hnext
          exact ⟨picked, rfl, hroom, hnext.symm⟩
        · rintro ⟨picked', hsome, -, hnext⟩
          cases hsome
          exact hnext.symm
      · have hremaining : (picked.2.withShare (share picked.1)).quantityOrdered -
            (picked.2.withShare (share picked.1)).quantityReceived < entry.1.quantity := by
          omega
        have hrefused : ¬ state.store.allowsOverReceipt = true := by
          simp [hstate.noOverReceipt]
        have hover : (picked.2.withShare (share picked.1)).quantityOrdered -
            (picked.2.withShare (share picked.1)).quantityReceived < entry.1.quantity ∧
              ¬ state.store.allowsOverReceipt = true := ⟨hremaining, hrefused⟩
        simp only [Option.map_some, bind, Except.bind]
        rw [if_pos hover]
        constructor
        · intro hnext
          cases hnext
        · rintro ⟨picked', hsome, hroom', -⟩
          cases hsome
          exact absurd hroom' hroom

/-- One more entry received on a line. -/
def addShare (share : ℕ → ℤ) (poLineId : ℕ) (quantity : ℤ) (poLineId' : ℕ) : ℤ :=
  share poLineId' + if poLineId' = poLineId then quantity else 0

theorem LoopState.booked (hstate : LoopState store warehouseId share (entry :: entries) state)
    (poLineId : ℕ) (receiptIds : List ℕ) (warnings : List OverReceipt) :
    LoopState store warehouseId (addShare share poLineId entry.1.quantity) entries
      { store := bookItem poId warehouseId state.store entry.1 poLineId, receiptIds,
        warnings } := by
  have hpos := entry.1.quantityPos
  obtain ⟨inventory, salesOrders, hbook⟩ :=
    bookItem_spec poId warehouseId state.store entry.1 poLineId
  have hdistinct := hstate.distinct
  rw [List.map_cons, List.nodup_cons] at hdistinct
  constructor
  · rw [hbook]
    dsimp only
    rw [hstate.lines, Store.sharedLines, Store.sharedLines, Table.modify,
      Table.mapRows_mapRows]
    apply Table.mapRows_congr
    intro key line _
    rw [addShare]
    by_cases hkey : key = poLineId
    · rw [if_pos hkey, if_pos hkey]
      exact withShare_receive (hstate.nonneg key) hpos line
    · rw [if_neg hkey, if_neg hkey, add_zero]
  · intro key
    have hnonneg := hstate.nonneg key
    rw [addShare]
    split <;> omega
  · rw [hbook]
    exact hstate.noOverReceipt
  · intro other hother
    rw [hbook]
    exact hstate.bins other (List.mem_cons_of_mem _ hother)
  · intro other hother
    rw [hbook, receiptTaken_insert state.store _ _ rfl,
      hstate.fresh other (List.mem_cons_of_mem _ hother), Bool.false_or]
    apply beq_false_of_ne
    intro hsame
    exact hdistinct.1 (List.mem_map.mpr ⟨other, hother, hsame.symm⟩)
  · exact hdistinct.2

/-- The units of the entries whose line is the given one. -/
def Store.sentOn (store : Store) (poId : ℕ) (choices : ℕ → Option ℕ)
    (entries : List (ReceiveItem × ℕ)) (poLineId : ℕ) : ℤ :=
  (entries.map fun entry =>
    if (store.chosenLine poId choices entry).map Prod.fst = some poLineId then
      entry.1.quantity else 0).sum

theorem sentOn_cons (choices : ℕ → Option ℕ) (entry : ReceiveItem × ℕ)
    (entries : List (ReceiveItem × ℕ)) (poLineId : ℕ) :
    store.sentOn poId choices (entry :: entries) poLineId =
      (if (store.chosenLine poId choices entry).map Prod.fst = some poLineId then
        entry.1.quantity else 0) + store.sentOn poId choices entries poLineId := by
  simp [Store.sentOn]

theorem addShare_sentOn {picked : ℕ × PurchaseOrderLine}
    (hpicked : store.chosenLine poId choices entry = some picked) (share : ℕ → ℤ)
    (entries : List (ReceiveItem × ℕ)) (poLineId : ℕ) :
    addShare share picked.1 entry.1.quantity poLineId +
        store.sentOn poId choices entries poLineId =
      share poLineId + store.sentOn poId choices (entry :: entries) poLineId := by
  rw [sentOn_cons, hpicked, Option.map_some, addShare, add_assoc]
  by_cases hkey : poLineId = picked.1
  · rw [if_pos hkey, if_pos (congrArg some hkey.symm)]
  · rw [if_neg hkey, if_neg fun hsome => hkey (Option.some.inj hsome).symm]

theorem sentOn_nonneg (choices : ℕ → Option ℕ) (entries : List (ReceiveItem × ℕ))
    (poLineId : ℕ) : 0 ≤ store.sentOn poId choices entries poLineId := by
  apply List.sum_nonneg
  intro units hunits
  obtain ⟨entry, -, rfl⟩ := List.mem_map.mp hunits
  have hpos := entry.1.quantityPos
  split <;> omega

def Store.Fits (store : Store) (poId : ℕ) (choices : ℕ → Option ℕ) (share : ℕ → ℤ)
    (entries : List (ReceiveItem × ℕ)) : Prop :=
  ∀ entry ∈ entries, ∃ picked, store.chosenLine poId choices entry = some picked ∧
    share picked.1 + store.sentOn poId choices entries picked.1 ≤ picked.2.openUnits

theorem chosenLine_unique {entry' : ReceiveItem × ℕ} {picked picked' : ℕ × PurchaseOrderLine}
    (hpicked : store.chosenLine poId choices entry = some picked)
    (hpicked' : store.chosenLine poId choices entry' = some picked')
    (hkey : picked.1 = picked'.1) : picked = picked' := by
  obtain ⟨poLineId, line⟩ := picked
  obtain ⟨poLineId', line'⟩ := picked'
  have hmem := ((Table.mem_select _).mp (mem_of_limitOne hpicked)).1
  have hmem' := ((Table.mem_select _).mp (mem_of_limitOne hpicked')).1
  obtain rfl : poLineId = poLineId' := hkey
  rw [store.purchaseOrderLines.row_unique hmem hmem']

theorem chosenLine_of_mem {line : ℕ × PurchaseOrderLine}
    (hchoice : choices entry.2 = some line.1)
    (hline : line ∈ store.poLines poId entry.1.itemId) :
    store.chosenLine poId choices entry = some line := by
  rw [Store.chosenLine, hchoice]
  exact limitOne_select hline

theorem fits_cons :
    store.Fits poId choices share (entry :: entries) ↔
      ∃ picked, store.chosenLine poId choices entry = some picked ∧
        share picked.1 + entry.1.quantity ≤ picked.2.openUnits ∧
        store.Fits poId choices (addShare share picked.1 entry.1.quantity) entries := by
  constructor
  · intro hfits
    obtain ⟨picked, hpicked, hroom⟩ := hfits entry List.mem_cons_self
    refine ⟨picked, hpicked, ?_, ?_⟩
    · have hnonneg : 0 ≤ store.sentOn poId choices entries picked.1 :=
        sentOn_nonneg choices entries picked.1
      rw [← addShare_sentOn hpicked, addShare, if_pos rfl] at hroom
      omega
    · intro other hother
      obtain ⟨picked', hpicked', hroom'⟩ := hfits other (List.mem_cons_of_mem _ hother)
      refine ⟨picked', hpicked', ?_⟩
      rw [addShare_sentOn hpicked]
      exact hroom'
  · rintro ⟨picked, hpicked, hroom, hfits⟩ other hother
    rcases List.mem_cons.mp hother with rfl | hother
    · refine ⟨picked, hpicked, ?_⟩
      rw [← addShare_sentOn hpicked, addShare, if_pos rfl]
      by_cases hsent : store.sentOn poId choices entries picked.1 = 0
      · omega
      · -- another entry goes to the same line, whose room counts both
        obtain ⟨units, hunits, hne⟩ : ∃ units ∈ entries.map fun entry =>
            if (store.chosenLine poId choices entry).map Prod.fst = some picked.1 then
              entry.1.quantity else 0, units ≠ 0 := by
          by_contra hnone
          push Not at hnone
          exact hsent (List.sum_eq_zero hnone)
        obtain ⟨same, hsame, rfl⟩ := List.mem_map.mp hunits
        have hline : (store.chosenLine poId choices same).map Prod.fst = some picked.1 := by
          by_contra hline
          exact hne (if_neg hline)
        obtain ⟨picked', hpicked', hroom'⟩ := hfits same hsame
        rw [hpicked', Option.map_some, Option.some.injEq] at hline
        rw [chosenLine_unique hpicked' hpicked hline, addShare, if_pos rfl] at hroom'
        omega
    · obtain ⟨picked', hpicked', hroom'⟩ := hfits other hother
      refine ⟨picked', hpicked', ?_⟩
      rw [← addShare_sentOn hpicked]
      exact hroom'

theorem receiveLoop_iff (hstate : LoopState store warehouseId share entries state) :
    (∃ last, entries.foldlM (fun state entry =>
      receiveItemOn (choices entry.2) poId warehouseId state entry.1) state = .ok last) ↔
      store.Fits poId choices share entries := by
  induction entries generalizing share state with
  | nil =>
      constructor
      · intro _ entry hentry
        cases hentry
      · intro _
        exact ⟨state, rfl⟩
  | cons entry entries ih =>
      rw [fits_cons]
      constructor
      · rintro ⟨last, hlast⟩
        rw [List.foldlM_cons] at hlast
        obtain ⟨next, hnext, hrest⟩ := bind_eq_ok.mp hlast
        obtain ⟨picked, hpicked, hroom, rfl⟩ := (receiveItemOn_iff hstate).mp hnext
        exact ⟨picked, hpicked, hroom, (ih (hstate.booked _ _ _)).mp ⟨last, hrest⟩⟩
      · rintro ⟨picked, hpicked, hroom, hfits⟩
        have hbooked : LoopState store warehouseId
            (addShare share picked.1 entry.1.quantity) entries
            { store := bookItem poId warehouseId state.store entry.1 picked.1
              receiptIds := state.receiptIds ++ [state.store.itemReceipts.next]
              warnings := state.warnings } := hstate.booked picked.1 _ _
        obtain ⟨last, hlast⟩ := (ih hbooked).mpr hfits
        refine ⟨last, ?_⟩
        rw [List.foldlM_cons]
        exact bind_eq_ok.mpr
          ⟨_, (receiveItemOn_iff hstate).mpr ⟨picked, hpicked, hroom, rfl⟩, hlast⟩

end Loop

/-! ## What the loop adds -/

section Growth

variable {store after : Store} {poId warehouseId : ℕ}

theorem receivedUnits_eq (store : Store) (poId itemId : ℕ) :
    store.receivedUnits poId itemId =
      store.purchaseOrderLines.total fun _ line =>
        if (line.poId == poId && line.itemId == itemId) = true then line.quantityReceived
        else 0 := by
  rw [Store.receivedUnits, Store.poLines]
  exact store.purchaseOrderLines.total_select _ fun _ line => line.quantityReceived

theorem bookItem_receivedUnits {item : ReceiveItem} {picked : ℕ × PurchaseOrderLine}
    (hpicked : picked ∈ store.poLines poId item.itemId) (itemId : ℕ) :
    (bookItem poId warehouseId store item picked.1).receivedUnits poId itemId =
      store.receivedUnits poId itemId +
        if item.itemId = itemId then item.quantity else 0 := by
  obtain ⟨hmem, hcond⟩ := (Table.mem_select _).mp hpicked
  rw [Bool.and_eq_true, beq_iff_eq, beq_iff_eq] at hcond
  obtain ⟨inventory, salesOrders, hbook⟩ :=
    bookItem_spec poId warehouseId store item picked.1
  rw [receivedUnits_eq, receivedUnits_eq, hbook]
  dsimp only
  rw [Table.total_modify _ hmem]
  congr 1
  simp only [PurchaseOrderLine.receive, hcond.1, hcond.2, BEq.rfl, Bool.true_and,
    beq_iff_eq]
  split
  · omega
  · omega

theorem bookItem_onHand (poId warehouseId : ℕ) (store : Store) (item : ReceiveItem)
    (poLineId itemId : ℕ) :
    (bookItem poId warehouseId store item poLineId).onHand itemId =
      store.onHand itemId + if item.itemId = itemId then item.quantity else 0 := by
  rw [bookItem]
  obtain ⟨salesOrders, hreleased⟩ := releaseSatisfiableBackorders_spec
    (addInventory
      { store with
        itemReceipts := store.itemReceipts.insert
          { source := .purchaseOrder poId poLineId, itemId := item.itemId,
            quantityReceived := item.quantity, binId := item.binId, warehouseId,
            lotNumber := item.lotNumber, externalId := item.externalId }
        purchaseOrderLines := store.purchaseOrderLines.modify poLineId fun line =>
          line.receive item.quantity } item.itemId item.binId warehouseId item.quantity
      item.lotNumber).1 warehouseId item.itemId
  rw [hreleased]
  exact addInventory_onHand _ item.itemId item.binId warehouseId item.quantity
    item.lotNumber itemId

theorem receiveItemOn_spec {choice : Option ℕ} {state next : Receiving}
    {item : ReceiveItem}
    (hreceive : receiveItemOn choice poId warehouseId state item = .ok next) :
    ∃ picked, limitOne choice (state.store.poLines poId item.itemId) = some picked ∧
      next.store = bookItem poId warehouseId state.store item picked.1 ∧
      next.receiptIds = state.receiptIds ++ [state.store.itemReceipts.next] := by
  rw [receiveItemOn] at hreceive
  obtain ⟨_, -, hreceive⟩ := bind_eq_ok.mp hreceive
  split at hreceive
  · cases hreceive
  next poLineId line hpicked =>
    dsimp only at hreceive
    split at hreceive
    · cases hreceive
    split at hreceive
    · cases hreceive
    · cases hreceive
      exact ⟨(poLineId, line), hpicked, rfl, rfl⟩

variable {request : ReceiveItemsRequest} {choices : ℕ → Option ℕ}

theorem unitsOf_zipIdx (request : ReceiveItemsRequest) (itemId : ℕ) :
    (request.items.zipIdx.map fun entry : ReceiveItem × ℕ =>
      if entry.1.itemId = itemId then entry.1.quantity else 0).sum =
      request.unitsOf itemId := by
  rw [ReceiveItemsRequest.unitsOf]
  conv_rhs => rw [← List.zipIdx_map_fst 0 request.items, List.map_map]
  rfl

theorem receiveLoop_totals {first last : Receiving}
    (hloop : request.items.zipIdx.foldlM (fun state entry =>
      receiveItemOn (choices entry.2) poId warehouseId state entry.1) first = .ok last)
    (itemId : ℕ) :
    last.store.receivedUnits poId itemId =
        first.store.receivedUnits poId itemId + request.unitsOf itemId ∧
      last.store.onHand itemId = first.store.onHand itemId + request.unitsOf itemId := by
  rw [← unitsOf_zipIdx]
  constructor
  · refine foldlM_shift (fun state : Receiving => state.store.receivedUnits poId itemId)
      _ ?_ hloop
    intro state entry next _ hnext
    obtain ⟨picked, hpicked, hbook, -⟩ := receiveItemOn_spec hnext
    rw [hbook]
    exact bookItem_receivedUnits (mem_of_limitOne hpicked) itemId
  · refine foldlM_shift (fun state : Receiving => state.store.onHand itemId) _ ?_ hloop
    intro state entry next _ hnext
    obtain ⟨picked, -, hbook, -⟩ := receiveItemOn_spec hnext
    rw [hbook]
    exact bookItem_onHand _ _ _ _ _ _

end Growth

/-! ## When a request is accepted -/

section Acceptance

variable {store : Store} {scope : WarehouseScope} {request : ReceiveItemsRequest}
  {order : PurchaseOrder} {choices : ℕ → Option ℕ}

theorem Receivable.loopState (hready : Receivable store scope request order) :
    LoopState store order.warehouseId (fun _ => 0) request.items.zipIdx
      { store, receiptIds := [], warnings := [] } where
  lines := by
    rw [Store.sharedLines]
    exact store.purchaseOrderLines.mapRows_id.symm
  nonneg := fun _ => le_refl 0
  noOverReceipt := hready.noOverReceipt
  bins := fun entry hentry => hready.bins entry.1 (List.fst_mem_of_mem_zipIdx hentry)
  fresh := fun entry hentry => hready.fresh entry.1 (List.fst_mem_of_mem_zipIdx hentry)
  distinct := by
    have hids : (request.items.zipIdx.map fun entry => entry.1.externalId) =
        request.items.map ReceiveItem.externalId := by
      conv_rhs => rw [← List.zipIdx_map_fst 0 request.items, List.map_map]
      rfl
    rw [hids]
    exact hready.distinct

theorem receiveItemsOn_iff (hready : Receivable store scope request order) :
    (∃ after result, receiveItemsOn choices store scope request = .ok (after, result)) ↔
      store.Fits request.poId choices (fun _ => 0) request.items.zipIdx := by
  have hfound : (store.purchaseOrders.get? request.poId).filter (fun order =>
      scope.allows order.warehouseId) = some order :=
    Option.filter_eq_some_iff.mpr ⟨hready.found, hready.allowed⟩
  have hstatus : ¬ (order.status ≠ .open ∧ order.status ≠ .partiallyReceived) := by
    rintro ⟨hopen, hpartial⟩
    exact hready.status.elim hopen hpartial
  rw [← receiveLoop_iff hready.loopState, receiveItemsOn, hfound]
  dsimp only
  rw [if_neg hstatus]
  constructor
  · rintro ⟨after, result, hok⟩
    obtain ⟨received, hloop, -⟩ := bind_eq_ok.mp hok
    exact ⟨received, hloop⟩
  · rintro ⟨received, hloop⟩
    rw [hloop]
    exact ⟨_, _, rfl⟩

theorem receiveItemsOn_totals {after : Store} {result : ReceiveResult}
    (hreceive : receiveItemsOn choices store scope request = .ok (after, result))
    (itemId : ℕ) :
    after.receivedUnits request.poId itemId =
        store.receivedUnits request.poId itemId + request.unitsOf itemId ∧
      after.onHand itemId = store.onHand itemId + request.unitsOf itemId := by
  rw [receiveItemsOn] at hreceive
  split at hreceive
  · cases hreceive
  split at hreceive
  · cases hreceive
  obtain ⟨received, hloop, hok⟩ := bind_eq_ok.mp hreceive
  cases hok
  exact receiveLoop_totals hloop itemId

theorem Store.EveryLineFits.fits (hfits : store.EveryLineFits request)
    (hwithin : store.WithinOrder request) (choices : ℕ → Option ℕ) :
    store.Fits request.poId choices (fun _ => 0) request.items.zipIdx := by
  intro entry hentry
  have hitem : entry.1 ∈ request.items := List.fst_mem_of_mem_zipIdx hentry
  have hunits : 0 < request.unitsOf entry.1.itemId := by
    apply lt_of_lt_of_le entry.1.quantityPos
    have hle := List.single_le_sum (l := request.items.map fun item : ReceiveItem =>
        if item.itemId = entry.1.itemId then item.quantity else 0) (by
      intro units hunits
      obtain ⟨item, -, rfl⟩ := List.mem_map.mp hunits
      have hpos := item.quantityPos
      split <;> omega) _ (List.mem_map_of_mem hitem)
    rwa [if_pos rfl] at hle
  cases hpicked : store.chosenLine request.poId choices entry with
  | none =>
      -- an item that is open for units has a line
      have hlines : store.poLines request.poId entry.1.itemId = [] := by
        exact limitOne_eq_none.mp hpicked
      have hopen := hwithin entry.1 hitem
      rw [Store.openUnits, hlines] at hopen
      exact absurd hopen (by simpa using hunits)
  | some picked =>
      refine ⟨picked, rfl, ?_⟩
      have hmem := mem_of_limitOne hpicked
      refine le_trans ?_ (hfits entry.1 hitem picked hmem)
      rw [zero_add, ← unitsOf_zipIdx]
      apply List.sum_le_sum
      intro other _
      have hpos := other.1.quantityPos
      by_cases hline : (store.chosenLine request.poId choices other).map Prod.fst =
          some picked.1
      · -- entries on one line are of the item of the line
        obtain ⟨picked', hpicked', hkey⟩ := Option.map_eq_some_iff.mp hline
        have hmem' := mem_of_limitOne hpicked'
        rw [chosenLine_unique hpicked' hpicked hkey] at hmem'
        have hitems := ((Table.mem_select _).mp hmem).2
        have hitems' := ((Table.mem_select _).mp hmem').2
        rw [Bool.and_eq_true, beq_iff_eq, beq_iff_eq] at hitems hitems'
        rw [if_pos hline, if_pos (hitems'.2.symm.trans hitems.2)]
      · rw [if_neg hline]
        split <;> omega

/-- Where the entries fit whatever lines are chosen, every line has room for all of its
item: all entries of the item may be booked on it. -/
theorem everyLineFits_of_fits
    (hfits : ∀ choices, store.Fits request.poId choices (fun _ => 0)
      request.items.zipIdx) : store.EveryLineFits request := by
  intro item hitem line hline
  have hchosen : ∀ entry : ReceiveItem × ℕ, entry.1.itemId = item.itemId →
      store.chosenLine request.poId (fun _ => some line.1) entry = some line := by
    intro entry hentry
    apply chosenLine_of_mem rfl
    rw [hentry]
    exact hline
  obtain ⟨index, hindex⟩ := List.mem_iff_getElem?.mp hitem
  have hentry : (item, index) ∈ request.items.zipIdx :=
    List.mem_zipIdx_iff_getElem?.mpr hindex
  obtain ⟨picked, hpicked, hroom⟩ := hfits (fun _ => some line.1) (item, index) hentry
  rw [hchosen (item, index) rfl, Option.some.injEq] at hpicked
  subst hpicked
  refine le_trans ?_ hroom
  rw [zero_add, ← unitsOf_zipIdx]
  apply List.sum_le_sum
  intro entry _
  have hpos := entry.1.quantityPos
  by_cases hsame : entry.1.itemId = item.itemId
  · rw [if_pos hsame, hchosen entry hsame, Option.map_some, if_pos rfl]
  · rw [if_neg hsame]
    split <;> omega

theorem sentOn_eq_sentTo {target : ℕ → ℕ} {entries : List (ReceiveItem × ℕ)}
    (htarget : ∀ entry ∈ entries,
      (store.chosenLine request.poId choices entry).map Prod.fst = some (target entry.2))
    (poLineId : ℕ) :
    store.sentOn request.poId choices entries poLineId =
      sentTo target entries poLineId := by
  rw [Store.sentOn, sentTo]
  congr 1
  apply List.map_congr_left
  intro entry hentry
  simp only [htarget entry hentry, Option.some.injEq]

theorem exists_fits_iff_spreadable :
    (∃ choices, store.Fits request.poId choices (fun _ => 0) request.items.zipIdx) ↔
      store.Spreadable request := by
  constructor
  · rintro ⟨choices, hfits⟩
    let target : ℕ → ℕ := fun index =>
      ((request.items[index]?.bind fun item =>
        store.chosenLine request.poId choices (item, index)).map Prod.fst).getD 0
    have htarget : ∀ entry ∈ request.items.zipIdx,
        (store.chosenLine request.poId choices entry).map Prod.fst =
          some (target entry.2) := by
      intro entry hentry
      obtain ⟨picked, hpicked, -⟩ := hfits entry hentry
      have hindex := List.mem_zipIdx_iff_getElem?.mp hentry
      simp only [target, hindex, Option.bind_some, hpicked, Option.map_some,
        Option.getD_some]
    refine ⟨target, ?_⟩
    intro entry hentry
    obtain ⟨picked, hpicked, hroom⟩ := hfits entry hentry
    have hkey := htarget entry hentry
    rw [hpicked, Option.map_some, Option.some.injEq] at hkey
    rw [sentOn_eq_sentTo htarget, zero_add] at hroom
    rw [← hkey]
    exact ⟨picked.2, mem_of_limitOne hpicked, hroom⟩
  · rintro ⟨target, hspread⟩
    have hchosen : ∀ entry ∈ request.items.zipIdx,
        ∃ line, store.chosenLine request.poId (fun index => some (target index)) entry =
          some (target entry.2, line) ∧
          sentTo target request.items.zipIdx (target entry.2) ≤ line.openUnits := by
      intro entry hentry
      obtain ⟨line, hline, hroom⟩ := hspread entry hentry
      exact ⟨line, chosenLine_of_mem rfl hline, hroom⟩
    refine ⟨fun index => some (target index), ?_⟩
    intro entry hentry
    obtain ⟨line, hline, hroom⟩ := hchosen entry hentry
    refine ⟨_, hline, ?_⟩
    rw [zero_add, sentOn_eq_sentTo]
    · exact hroom
    · intro other hother
      obtain ⟨line', hline', -⟩ := hchosen other hother
      rw [hline', Option.map_some]

end Acceptance

/-! ## An item on two lines -/

/-- An open order with an item on two lines for five units each. -/
def splitPurchase : Store where
  warehouses := .ofRows [⟨"W", true⟩]
  items := .ofRows [⟨"A", none, [], true, none⟩]
  bins := .ofRows [⟨1, "B", .staging, 1, true⟩]
  purchaseOrders := .ofRows [⟨1, .open⟩]
  purchaseOrderLines := .ofRows
    [⟨1, 1, 1, 5, 0, .pending⟩, ⟨1, 1, 2, 5, 0, .pending⟩]

/-- One entry for a number of units. -/
def oneEntry (quantity : ℤ) (quantityPos : 0 < quantity) : ReceiveItemsRequest where
  poId := 1
  items := [⟨1, quantity, quantityPos, 1, none, "r1"⟩]
  itemsNonempty := by simp

theorem splitPurchase_receivable (quantity : ℤ) (quantityPos : 0 < quantity) :
    Receivable splitPurchase ⟨none⟩ (oneEntry quantity quantityPos) ⟨1, .open⟩ where
  found := rfl
  allowed := rfl
  status := .inl rfl
  noOverReceipt := by decide
  bins := by
    intro item hitem
    rw [List.mem_singleton.mp hitem]
    exact ⟨_, rfl, rfl⟩
  fresh := by
    intro item hitem
    rw [List.mem_singleton.mp hitem]
    rfl
  distinct := by simp [oneEntry]

/-! ## In full -/

/-- An order can be received in full, and in no more, exactly when every line of a
requested item has room for all of it, where the request stays within the order, and when
the entries cannot be spread over the lines, where it does not. -/
theorem receivesInFull_iff {store : Store} {scope : WarehouseScope}
    {request : ReceiveItemsRequest} {order : PurchaseOrder}
    (hready : Receivable store scope request order) :
    ReceivesInFull store scope request ↔
      (store.WithinOrder request → store.EveryLineFits request) ∧
        (¬ store.WithinOrder request → ¬ store.Spreadable request) := by
  constructor
  · rintro ⟨haccepts, hrefuses⟩
    constructor
    · intro hwithin
      apply everyLineFits_of_fits
      intro choices
      obtain ⟨after, result, hok, -⟩ := haccepts hwithin choices
      exact (receiveItemsOn_iff hready).mp ⟨after, result, hok⟩
    · intro hbeyond hspread
      obtain ⟨choices, hfits⟩ := exists_fits_iff_spreadable.mpr hspread
      obtain ⟨after, result, hok⟩ := (receiveItemsOn_iff hready).mpr hfits
      obtain ⟨error, herror⟩ := hrefuses hbeyond choices
      rw [herror] at hok
      cases hok
  · rintro ⟨hfits, hspread⟩
    constructor
    · intro hwithin choices
      obtain ⟨after, result, hok⟩ :=
        (receiveItemsOn_iff hready).mpr ((hfits hwithin).fits hwithin choices)
      exact ⟨after, result, hok, receiveItemsOn_totals hok⟩
    · intro hbeyond choices
      cases hanswer : receiveItemsOn choices store scope request with
      | error error => exact ⟨error, rfl⟩
      | ok answer =>
          have hchoices := (receiveItemsOn_iff hready).mp ⟨answer.1, answer.2, hanswer⟩
          exact absurd (exists_fits_iff_spreadable.mp ⟨choices, hchoices⟩)
            (hspread hbeyond)

theorem receivesInFull_iff_five :
    ReceivesInFull splitPurchase ⟨none⟩ (oneEntry 5 (by decide)) := by
  have hfits : splitPurchase.EveryLineFits (oneEntry 5 (by decide)) := by
    unfold Store.EveryLineFits
    decide +kernel
  have hwithin : splitPurchase.WithinOrder (oneEntry 5 (by decide)) := by
    unfold Store.WithinOrder
    decide +kernel
  exact (receivesInFull_iff (splitPurchase_receivable 5 (by decide))).mpr
    ⟨fun _ => hfits, fun hbeyond => absurd hwithin hbeyond⟩

/-- Six of the ten open units are refused. -/
theorem receivesInFull_six_refused :
    ¬ ∀ (store : Store) (scope : WarehouseScope) (request : ReceiveItemsRequest)
      (order : PurchaseOrder), Receivable store scope request order →
      ReceivesInFull store scope request := by
  intro hclaim
  have hfull := hclaim splitPurchase ⟨none⟩ (oneEntry 6 (by decide)) ⟨1, .open⟩
    (splitPurchase_receivable 6 (by decide))
  have hwithin : splitPurchase.WithinOrder (oneEntry 6 (by decide)) := by
    unfold Store.WithinOrder
    decide +kernel
  obtain ⟨after, result, hok, -⟩ := hfull.accepts hwithin fun _ => none
  have hrefused : (receiveItemsOn (fun _ => none) splitPurchase ⟨none⟩
      (oneEntry 6 (by decide))).toOption.isSome = false := by
    decide +kernel
  rw [hok] at hrefused
  cases hrefused

end SentryWms
