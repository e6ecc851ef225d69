import SentryWms.Receiving.Receive

/-!
# Taking receipts back

`cancel_receiving` of `receiving.py` undoes the receipts of a session, and
`record_unreceive` of `receiving_service.py` a single one. Purchase orders and return
orders share the table of receipts; a return receipt names no purchase order.
-/

namespace SentryWms

open Relational

/-! ## What a receipt names -/

/-- `item_receipts.po_id`. -/
def ReceiptSource.poId : ReceiptSource → Option ℕ
  | .purchaseOrder poId _ => some poId
  | .salesOrder _ _ => none

/-- `item_receipts.po_line_id`. -/
def ReceiptSource.poLineId : ReceiptSource → Option ℕ
  | .purchaseOrder _ poLineId => some poLineId
  | .salesOrder _ _ => none

/-- `item_receipts.so_line_id`. -/
def ReceiptSource.soLineId : ReceiptSource → Option ℕ
  | .purchaseOrder _ _ => none
  | .salesOrder _ soLineId => some soLineId

/-! ## Cancelling a session -/

structure CancelReceivingRequest where
  poId : ℕ
  receiptIds : List ℕ

/-- The receipts belong to another purchase order. -/
structure MixedOrders where
  poId : ℕ
  mismatchedReceiptIds : List ℕ

def Store.visibleReceipt (store : Store) (scope : WarehouseScope) (receiptId : ℕ) :
    Option ItemReceipt :=
  (store.itemReceipts.get? receiptId).filter fun receipt =>
    scope.allows receipt.warehouseId

/-- The receipts of the request that belong to another purchase order. Comparing with
the null of a return receipt is not true. -/
def Store.mismatched (store : Store) (scope : WarehouseScope)
    (request : CancelReceivingRequest) : List ℕ :=
  ((store.itemReceipts.entries.filter fun entry =>
      request.receiptIds.contains entry.1 &&
        entry.2.source.poId.any (fun poId => poId != request.poId) &&
        scope.allows entry.2.warehouseId).map Prod.fst).take 20

/-- Take units off a line of a purchase order, floored at zero. -/
def PurchaseOrderLine.unreceive (quantity : ℤ) (line : PurchaseOrderLine) :
    PurchaseOrderLine :=
  let quantityReceived := max 0 (line.quantityReceived - quantity)
  { line with
    quantityReceived
    status :=
      if quantityReceived = 0 then .pending
      else if line.quantityOrdered ≤ quantityReceived then .received
      else .partiallyReceived }

def Inventory.inBinOf (itemId binId warehouseId : ℕ) (row : Inventory) : Bool :=
  row.inBin itemId binId && row.warehouseId == warehouseId

/-- Take a quantity out of every lot row of a bin, floored at zero. -/
def Store.reverseStock (store : Store) (itemId binId warehouseId : ℕ) (quantity : ℤ) :
    Store :=
  { store with
    inventory := store.inventory.updateWhere (Inventory.inBinOf itemId binId warehouseId)
      fun row => { row with quantityOnHand := max 0 (row.quantityOnHand - quantity) } }

/-- Change the line of a purchase order that a receipt names; a null pointer matches
no row. -/
def Store.updatePoLine (store : Store) (poLineId : Option ℕ)
    (change : PurchaseOrderLine → PurchaseOrderLine) : Store :=
  match poLineId with
  | none => store
  | some poLineId =>
      { store with
        purchaseOrderLines := store.purchaseOrderLines.modify poLineId change }

/-- A cancellation under way: the purchase orders it touched and what it reversed. -/
structure Cancelling where
  store : Store
  poIds : List ℕ
  reversed : List ℕ

def reverseReceipt (store : Store) (receiptId : ℕ) (receipt : ItemReceipt) : Store :=
  let stocked := store.reverseStock receipt.itemId receipt.binId receipt.warehouseId
    receipt.quantityReceived
  let counted := stocked.updatePoLine receipt.source.poLineId
    (PurchaseOrderLine.unreceive receipt.quantityReceived)
  { counted with itemReceipts := counted.itemReceipts.delete receiptId }

/-- One turn of the loop of `cancel_receiving`; a receipt the user does not see is
skipped. -/
def cancelReceipt (scope : WarehouseScope) (state : Cancelling) (receiptId : ℕ) :
    Cancelling :=
  match state.store.visibleReceipt scope receiptId with
  | none => state
  | some receipt =>
      { store := reverseReceipt state.store receiptId receipt
        poIds := state.poIds ++ receipt.source.poId.toList
        reversed := state.reversed ++ [receiptId] }

def Store.countedStatus (store : Store) (poId : ℕ) : PoStatus :=
  let lines := store.purchaseOrderLines.select fun line => line.poId == poId
  if lines.all fun line => decide (line.2.quantityOrdered ≤ line.2.quantityReceived) then
    .received
  else if lines.any fun line => decide (0 < line.2.quantityReceived) then
    .partiallyReceived
  else .open

def setCountedStatus (store : Store) (poId : ℕ) : Store :=
  { store with
    purchaseOrders := store.purchaseOrders.modify poId fun order =>
      { order with status := store.countedStatus poId } }

/-- `cancel_receiving`, with the receipts it reversed. -/
def cancelReceiving (store : Store) (scope : WarehouseScope)
    (request : CancelReceivingRequest) : Except MixedOrders (Store × List ℕ) :=
  if request.receiptIds.isEmpty then .ok (store, [])
  else
    match store.mismatched scope request with
    | first :: rest => .error ⟨request.poId, first :: rest⟩
    | [] =>
        let cancelled := request.receiptIds.foldl (cancelReceipt scope)
          { store, poIds := [request.poId], reversed := [] }
        .ok (cancelled.poIds.foldl setCountedStatus cancelled.store, cancelled.reversed)

/-! ## Taking back one receipt -/

/-- Why a receipt is not taken back. -/
inductive UnreceiveError where
  | notFound (receiptId : ℕ)
  | notAPoReceipt
  | insufficientAvailable (warehouseId : ℕ) (warehouseAvailable receiptQuantity : ℤ)
  | drained (warehouseAvailable receiptQuantity : ℤ)

/-- What a row has available; one that is over-reserved counts as empty. -/
def Inventory.spare (row : Inventory) : ℤ :=
  max 0 row.available

/-- What a warehouse has available of an item, row by row. -/
def Store.warehousePool (store : Store) (itemId warehouseId : ℕ) : ℤ :=
  store.stock (Inventory.inWarehouse itemId warehouseId) Inventory.spare

def unstockUnits (now : ℕ) (quantity : ℤ) (row : Inventory) : Inventory :=
  { row with quantityOnHand := row.quantityOnHand - quantity, updatedAt := now }

/-- The row of the original bin, if it has units to give; of several lots, the one that
the query answers with. -/
def Store.originalRow (choice : Option ℕ) (store : Store) (receipt : ItemReceipt) :
    Option (ℕ × Inventory) :=
  (limitOne choice (store.inventory.select
    (Inventory.inBinOf receipt.itemId receipt.binId receipt.warehouseId))).filter
      fun entry => decide (0 < entry.2.spare)

/-- The rows of the other bins of the warehouse that have units to give, the fullest
first. -/
def Store.otherRows (store : Store) (receipt : ItemReceipt) : List (ℕ × Inventory) :=
  orderBy (fun entry => toLex (-entry.2.available, entry.2.binId))
    (store.inventory.select fun row =>
      row.inWarehouse receipt.itemId receipt.warehouseId &&
        row.binId != receipt.binId && decide (0 < row.available))

/-- What the walk draws on, in order. -/
def Store.unreceiveSources (choice : Option ℕ) (store : Store) (receipt : ItemReceipt) :
    List (ℕ × ℤ) :=
  ((store.originalRow choice receipt).toList ++ store.otherRows receipt).map
    fun entry => (entry.1, entry.2.spare)

def PurchaseOrderLine.countedStatus (line : PurchaseOrderLine) : PoLineStatus :=
  if line.quantityReceived = 0 then .pending
  else if line.quantityOrdered ≤ line.quantityReceived then .received
  else .partiallyReceived

def recomputePoStatus (store : Store) (poId : ℕ) : Store × PoStatus :=
  let settled : Store :=
    { store with
      purchaseOrderLines := store.purchaseOrderLines.updateWhere
        (fun line => line.poId == poId)
        fun line => { line with status := line.countedStatus } }
  let lines := settled.purchaseOrderLines.select fun line => line.poId == poId
  let status : PoStatus :=
    if lines ≠ [] ∧ lines.all fun line =>
        decide (line.2.quantityOrdered ≤ line.2.quantityReceived) then .received
    else if lines.any fun line => decide (0 < line.2.quantityReceived) then
      .partiallyReceived
    else .open
  ({ settled with
      purchaseOrders := settled.purchaseOrders.modify poId fun order =>
        { order with status } }, status)

/-- `record_unreceive`, with the status of the purchase order. -/
def recordUnreceive (choice : Option ℕ) (store : Store) (receiptId : ℕ) :
    Except UnreceiveError (Store × PoStatus) :=
  match store.itemReceipts.get? receiptId with
  | none => .error (.notFound receiptId)
  | some receipt =>
      match receipt.source with
      | .salesOrder _ _ => .error .notAPoReceipt
      | .purchaseOrder poId poLineId =>
          let pool := store.warehousePool receipt.itemId receipt.warehouseId
          if pool < receipt.quantityReceived then
            .error (.insufficientAvailable receipt.warehouseId pool
              receipt.quantityReceived)
          else
            let draws := takes receipt.quantityReceived
              (store.unreceiveSources choice receipt)
            let remaining := receipt.quantityReceived - supply draws
            if 0 < remaining then
              .error (.drained (receipt.quantityReceived - remaining)
                receipt.quantityReceived)
            else
              let unstocked : Store :=
                { store with
                  inventory := store.inventory.applyTakes (unstockUnits store.now) draws }
              let counted := unstocked.updatePoLine (some poLineId) fun line =>
                { line with
                  quantityReceived :=
                    max 0 (line.quantityReceived - receipt.quantityReceived) }
              .ok (recomputePoStatus
                { counted with itemReceipts := counted.itemReceipts.delete receiptId }
                poId)

end SentryWms
