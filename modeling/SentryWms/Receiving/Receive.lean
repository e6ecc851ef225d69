import SentryWms.Core.Transition
import SentryWms.Store.Inventory

/-!
# Receiving

Stock that comes in: `receive_items` books deliveries against a purchase order,
`receive_rma` books returned goods against a return order. Both refuse a bin that lies
outside the warehouse they credit. Stock that arrives may release backorders that wait
for it.
-/

namespace SentryWms

open Relational

/-! ## Who asks -/

/-- The warehouses a user may work in; an administrator is not restricted. -/
structure WarehouseScope where
  warehouseIds : Option (List ℕ)

/-- `check_warehouse_access`. -/
def WarehouseScope.allows (scope : WarehouseScope) (warehouseId : ℕ) : Bool :=
  scope.warehouseIds.all fun warehouseIds => warehouseIds.contains warehouseId

/-! ## Refusals -/

/-- What `receive_items` answers when nothing is received. The last one is an exception
of the database. -/
inductive ReceiveError where
  | orderNotFound
  | cannotReceive (status : PoStatus)
  | binNotFound (binId : ℕ)
  | binElsewhere (binId : ℕ)
  | itemNotOnPo (itemId poId : ℕ)
  | overReceipt (lineNumber requested remaining : ℤ)
  | receiptExists (externalId : String)

def PoStatus.text : PoStatus → String
  | .open => "OPEN"
  | .partiallyReceived => "PARTIAL"
  | .received => "RECEIVED"
  | .closed => "CLOSED"
  | .archived => "ARCHIVED"

/-! ## Waiting backorders -/

def Bin.picks (bin : Bin) : Bool :=
  bin.binType == .pickable || bin.binType == .pickableStaging

/-- What a warehouse can pick of an item; a row that is over-reserved counts as
empty. -/
def Store.pickableUnits (store : Store) (itemId warehouseId : ℕ) : ℤ :=
  store.stock
    (fun row => row.inWarehouse itemId warehouseId &&
      (store.bins.get? row.binId).any Bin.picks)
    fun row => max row.available 0

def Store.waitingOrders (store : Store) (warehouseId itemId : ℕ) :
    List (ℕ × SalesOrder) :=
  store.salesOrders.entries.filter fun entry =>
    entry.2.status == .waitingStock && entry.2.warehouseId == warehouseId &&
      store.salesOrderLines.entries.any fun line =>
        line.2.soId == entry.1 && line.2.itemId == itemId

/-- Release a waiting order if every line of it can be picked in full. -/
def releaseBackorder (warehouseId : ℕ) (store : Store) (order : ℕ × SalesOrder) :
    Store :=
  let lines := store.salesOrderLines.select fun line => line.soId == order.1
  if lines.isEmpty then store
  else if lines.all fun line => decide (line.2.quantityOrdered ≤
      store.pickableUnits line.2.itemId warehouseId) then
    { store with
      salesOrders := store.salesOrders.modify order.1 fun order =>
        { order with status := .open } }
  else store

/-- `release_satisfiable_backorders`. No stock is consumed. -/
def releaseSatisfiableBackorders (store : Store) (warehouseId itemId : ℕ) : Store :=
  (store.waitingOrders warehouseId itemId).foldl (releaseBackorder warehouseId) store

theorem releaseSatisfiableBackorders_spec (store : Store) (warehouseId itemId : ℕ) :
    ∃ salesOrders, releaseSatisfiableBackorders store warehouseId itemId =
      { store with salesOrders } := by
  have hstore : ∃ salesOrders, store = { store with salesOrders } := ⟨_, rfl⟩
  rw [releaseSatisfiableBackorders]
  refine Transition.foldl_invariant
    (fun released => ∃ salesOrders, released = { store with salesOrders }) ?_ _ hstore
  rintro released order ⟨salesOrders, hreleased⟩
  rw [hreleased, releaseBackorder]
  split
  · exact ⟨_, rfl⟩
  · split
    · exact ⟨_, rfl⟩
    · exact ⟨_, rfl⟩

/-! ## Purchase orders -/

/-- A validated item of a receipt, with the id generated for its row. -/
structure ReceiveItem where
  itemId : ℕ
  quantity : ℤ
  quantityPos : 0 < quantity
  binId : ℕ
  lotNumber : Option String
  externalId : String

structure ReceiveItemsRequest where
  poId : ℕ
  items : List ReceiveItem
  itemsNonempty : items ≠ []

/-- A line on which more than was open has been received. -/
structure OverReceipt where
  lineNumber : ℤ
  received : ℤ
  remaining : ℤ

/-- What `receive_items` returns. -/
structure ReceiveResult where
  receiptIds : List ℕ
  poStatus : PoStatus
  warnings : List OverReceipt

/-- The loop of `receive_items`: the store, the receipts and the warnings so far. -/
structure Receiving where
  store : Store
  receiptIds : List ℕ
  warnings : List OverReceipt

/-- The bin exists and lies in the warehouse of the order. -/
def checkReceivingBin (store : Store) (warehouseId binId : ℕ) :
    Except ReceiveError Unit :=
  match store.bins.get? binId with
  | none => .error (.binNotFound binId)
  | some bin =>
      if bin.warehouseId ≠ warehouseId then .error (.binElsewhere binId) else .ok ()

def Store.poLine (store : Store) (poId itemId : ℕ) : Option (ℕ × PurchaseOrderLine) :=
  store.purchaseOrderLines.entries.find? fun entry =>
    entry.2.poId == poId && entry.2.itemId == itemId

def Store.allowsOverReceipt (store : Store) : Bool :=
  store.appSettings.lookup "allow_over_receipt" == some "true"

def Store.receiptTaken (store : Store) (externalId : String) : Bool :=
  store.itemReceipts.entries.any fun entry => entry.2.externalId == externalId

def PurchaseOrderLine.receive (line : PurchaseOrderLine) (quantity : ℤ) :
    PurchaseOrderLine :=
  { line with
    quantityReceived := line.quantityReceived + quantity
    status :=
      if line.quantityOrdered ≤ line.quantityReceived + quantity then .received
      else .partiallyReceived }

def bookItem (poId warehouseId : ℕ) (store : Store) (item : ReceiveItem)
    (poLineId : ℕ) : Store :=
  let booked : Store :=
    { store with
      itemReceipts := store.itemReceipts.insert
        { source := .purchaseOrder poId poLineId, itemId := item.itemId,
          quantityReceived := item.quantity, binId := item.binId, warehouseId,
          lotNumber := item.lotNumber, externalId := item.externalId }
      purchaseOrderLines := store.purchaseOrderLines.modify poLineId fun line =>
        line.receive item.quantity }
  let stocked := (addInventory booked item.itemId item.binId warehouseId item.quantity
    item.lotNumber).1
  releaseSatisfiableBackorders stocked warehouseId item.itemId

/-- One turn of the loop of `receive_items`. -/
def receiveItem (poId warehouseId : ℕ) (state : Receiving) (item : ReceiveItem) :
    Except ReceiveError Receiving := do
  checkReceivingBin state.store warehouseId item.binId
  match state.store.poLine poId item.itemId with
  | none => .error (.itemNotOnPo item.itemId poId)
  | some (poLineId, line) =>
      let remaining := line.quantityOrdered - line.quantityReceived
      if remaining < item.quantity ∧ ¬ state.store.allowsOverReceipt then
        .error (.overReceipt line.lineNumber item.quantity remaining)
      else if state.store.receiptTaken item.externalId then
        .error (.receiptExists item.externalId)
      else
        .ok
          { store := bookItem poId warehouseId state.store item poLineId
            receiptIds := state.receiptIds ++ [state.store.itemReceipts.next]
            warnings :=
              if remaining < item.quantity then
                state.warnings ++ [⟨line.lineNumber, item.quantity, remaining⟩]
              else state.warnings }

def Store.receivedStatus (store : Store) (poId : ℕ) : PoStatus :=
  if (store.purchaseOrderLines.select fun line => line.poId == poId).all fun line =>
      line.2.status == .received then .received
  else .partiallyReceived

def receiveItems (store : Store) (scope : WarehouseScope)
    (request : ReceiveItemsRequest) : Except ReceiveError (Store × ReceiveResult) :=
  match (store.purchaseOrders.get? request.poId).filter fun order =>
      scope.allows order.warehouseId with
  | none => .error .orderNotFound
  | some order =>
      if order.status ≠ .open ∧ order.status ≠ .partiallyReceived then
        .error (.cannotReceive order.status)
      else do
        let received ← request.items.foldlM
          (receiveItem request.poId order.warehouseId)
          { store, receiptIds := [], warnings := [] }
        let poStatus := received.store.receivedStatus request.poId
        .ok ({ received.store with
            purchaseOrders := received.store.purchaseOrders.modify request.poId
              fun order => { order with status := poStatus } },
          { receiptIds := received.receiptIds, poStatus, warnings := received.warnings })

/-! ## Return orders -/

/-- Why returned goods are not received. The last one is an exception of the
database. -/
inductive ReceiveRmaError where
  | notFound (rmaSoId : ℕ)
  | itemNotOnRma (itemId rmaSoId : ℕ)
  | exceedsRemaining (quantity : ℤ) (itemId : ℕ) (remaining ordered : ℤ) (rmaSoId : ℕ)
  | binNotFound (binId : ℕ)
  | binElsewhere (binId binWarehouseId warehouseId : ℕ)
  | receiptExists (externalId : String)

/-- `ReceiveRmaRequest`, with the id generated where the client sends none. -/
structure ReceiveRmaRequest where
  rmaSoId : ℕ
  itemId : ℕ
  quantity : ℤ
  quantityPos : 0 < quantity
  warehouseId : ℕ
  binId : ℕ
  idempotencyKey : Option String
  externalId : String

/-- The key of the request; an empty one counts as absent. -/
def ReceiveRmaRequest.key (request : ReceiveRmaRequest) : Option String :=
  request.idempotencyKey.filter fun key => key != ""

/-- What `receive_rma` returns. -/
structure ReceiveRmaResult where
  receiptId : ℕ
  status : SoStatus
  replayed : Bool

def Store.priorReceipt (store : Store) (request : ReceiveRmaRequest) : Option ℕ :=
  request.key.bind fun key =>
    (store.itemReceipts.entries.find? fun entry => entry.2.externalId == key).map
      Prod.fst

/-- The status of a return order by what its lines have taken back. -/
def Store.rmaStatus (store : Store) (rmaSoId : ℕ) : SoStatus :=
  if (store.salesOrderLines.select fun line =>
      line.soId == rmaSoId &&
        decide (line.quantityReceived < line.quantityOrdered)).isEmpty then .received
  else .partiallyReceived

def bookReturn (store : Store) (request : ReceiveRmaRequest) (soLineId : ℕ) : Store :=
  let booked : Store :=
    { store with
      itemReceipts := store.itemReceipts.insert
        { source := .salesOrder request.rmaSoId soLineId, itemId := request.itemId,
          quantityReceived := request.quantity, binId := request.binId,
          warehouseId := request.warehouseId, lotNumber := none,
          externalId := request.key.getD request.externalId } }
  let stocked := (addInventory booked request.itemId request.binId request.warehouseId
    request.quantity none).1
  let counted : Store :=
    { stocked with
      salesOrderLines := stocked.salesOrderLines.modify soLineId fun line =>
        { line with quantityReceived := line.quantityReceived + request.quantity } }
  { counted with
    salesOrders := counted.salesOrders.modify request.rmaSoId fun order =>
      { order with status := counted.rmaStatus request.rmaSoId } }

/-- `receive_rma`. The key is looked up among all receipts, not those of the order. -/
def receiveRma (store : Store) (request : ReceiveRmaRequest) :
    Except ReceiveRmaError (Store × ReceiveRmaResult) :=
  match (store.salesOrders.get? request.rmaSoId).filter fun order =>
      order.orderType == .return with
  | none => .error (.notFound request.rmaSoId)
  | some order =>
      match store.salesOrderLines.entries.find? fun entry =>
          entry.2.soId == request.rmaSoId && entry.2.itemId == request.itemId with
      | none => .error (.itemNotOnRma request.itemId request.rmaSoId)
      | some (soLineId, line) =>
          match store.priorReceipt request with
          | some receiptId =>
              .ok (store, { receiptId, status := order.status, replayed := true })
          | none =>
              let remaining := line.quantityOrdered - line.quantityReceived
              if remaining < request.quantity then
                .error (.exceedsRemaining request.quantity request.itemId remaining
                  line.quantityOrdered request.rmaSoId)
              else
                match store.bins.get? request.binId with
                | none => .error (.binNotFound request.binId)
                | some bin =>
                    if bin.warehouseId ≠ request.warehouseId then
                      .error (.binElsewhere request.binId bin.warehouseId
                        request.warehouseId)
                    else if store.receiptTaken (request.key.getD request.externalId) then
                      .error (.receiptExists (request.key.getD request.externalId))
                    else
                      let after := bookReturn store request soLineId
                      .ok (after,
                        { receiptId := store.itemReceipts.next
                          status := after.rmaStatus request.rmaSoId
                          replayed := false })

end SentryWms
