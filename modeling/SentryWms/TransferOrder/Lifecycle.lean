import SentryWms.Picking.Task

/-!
# The life of a transfer order

The routes of `admin_transfer_orders.py`. An import reserves stock in the source
warehouse line by line; picking goes through pick tasks; an approval moves the
units of a snapshot from the source to a staging bin of the destination; a
cancel and a short close give reservations back.
-/

namespace SentryWms

open Relational

/-! ## State machines -/

def headerTransitions : ToStatus → List ToStatus
  | .open => [.partiallyPicked, .cancelled]
  | .partiallyPicked => [.partiallyPicked, .awaitingApproval, .cancelled]
  | .awaitingApproval => [.approved, .partiallyPicked]
  | .approved => [.closed, .partiallyPicked]
  | .closed => []
  | .cancelled => []

def lineTransitions : ToLineStatus → List ToLineStatus
  | .pending => [.partiallyPicked, .shortClosed]
  | .partiallyPicked => [.partiallyPicked, .picked, .shortClosed]
  | .picked => [.approved, .shortClosed]
  | .approved => []
  | .shortClosed => []

/-! ## Responses -/

/-- A row of an import whose item is not known. -/
structure UnknownSku where
  rowIndex : ℕ
  sku : String

/-- The error responses of the transfer-order routes. -/
inductive ToError where
  | orderNotFound
  | lineNotFound
  | approvalNotFound
  | sourceAndDestinationMustDiffer (warehouseCode : String)
  | unknownWarehouse (field value : String)
  | rowErrors (rows : List UnknownSku)
  | warehousesDistinctCheck (warehouseId : ℕ)
  | toNumberCollision (toNumber : String)
  | invalidStatusForStartPicking (currentStatus : ToStatus)
  | noLinesToPick
  | noPickableInventory (toLineId itemId : ℕ) (remaining : ℤ)
  | invalidStatusForCancel (currentStatus : ToStatus)
  | toAlreadyPartiallyApproved (nonPendingApprovals : ℕ)
  | invalidLineStatusForShortClose (currentStatus : ToLineStatus)
  | approvalNotPending (currentStatus : ToApprovalStatus) (approvedBy : Option String)
  | selfApprovalBlocked (submittedBy : String)
  | approvalSnapshotEmpty
  | approvedQtyCheck (toLineId : ℕ)
  | sourceUnderFunded (remaining : ℤ) (itemId warehouseId : ℕ)
  | noStagingBin (destWarehouseId : ℕ)

/-! ## Releasing reservations -/

def giveBackUnits (quantity : ℤ) (row : Inventory) : Inventory :=
  { row with quantityAllocated := row.quantityAllocated - quantity }

def Store.reservedBy (store : Store) (itemId warehouseId : ℕ)
    (measure : Inventory → ℤ) : List (ℕ × ℤ) :=
  (store.inventory.select fun row =>
      row.inWarehouse itemId warehouseId && decide (0 < row.quantityAllocated)).map
    fun entry => (entry.1, measure entry.2)

def releaseInventoryAllocation (store : Store) (itemId warehouseId : ℕ)
    (delta : ℤ) : Store :=
  { store with
    inventory := store.inventory.applyTakes giveBackUnits
      (takes delta (store.reservedBy itemId warehouseId Inventory.quantityAllocated)) }

def Store.releasableLines (store : Store) (toId : ℕ) :
    List (ℕ × TransferOrderLine) :=
  orderBy (fun entry => entry.2.itemId)
    (store.transferOrderLines.select fun line =>
      line.toId == toId && decide (line.approvedQty < line.committedQty))

def releaseReservations (store : Store) (toId sourceWarehouseId : ℕ) : Store :=
  (store.releasableLines toId).foldl (fun store entry =>
    releaseInventoryAllocation store entry.2.itemId sourceWarehouseId
      (entry.2.committedQty - entry.2.approvedQty)) store

def Store.setToStatus (store : Store) (toId : ℕ) (status : ToStatus) : Store :=
  { store with
    transferOrders := store.transferOrders.modify toId fun header =>
      { header with status } }

def cancelTransferOrder (store : Store) (toId : ℕ) : Except ToError Store :=
  match store.transferOrders.get? toId with
  | none => .error .orderNotFound
  | some header =>
      if ¬ (headerTransitions header.status).contains .cancelled then
        .error (.invalidStatusForCancel header.status)
      else
        let nonPending := store.transferOrderApprovals.select fun approval =>
          approval.toId == toId && approval.status != .pending
        if 0 < nonPending.length then
          .error (.toAlreadyPartiallyApproved nonPending.length)
        else
          .ok ((releaseReservations store toId header.sourceWarehouseId).setToStatus
            toId .cancelled)

def Store.setToLineStatus (store : Store) (toLineId : ℕ) (status : ToLineStatus) :
    Store :=
  { store with
    transferOrderLines := store.transferOrderLines.modify toLineId fun line =>
      { line with status } }

/-- `short_close_to_line`. The status of the order is not looked at. -/
def shortCloseToLine (store : Store) (toId toLineId : ℕ) : Except ToError Store :=
  match store.transferOrderLines.get? toLineId with
  | none => .error .lineNotFound
  | some line =>
      if line.toId ≠ toId then .error .lineNotFound
      else
        match store.transferOrders.get? toId with
        | none => .error .lineNotFound
        | some header =>
            if ¬ (lineTransitions line.status).contains .shortClosed then
              .error (.invalidLineStatusForShortClose line.status)
            else
              .ok ((releaseInventoryAllocation store line.itemId
                header.sourceWarehouseId
                (line.committedQty - line.approvedQty)).setToLineStatus toLineId
                  .shortClosed)

/-! ## Import -/

structure ImportRecord where
  sku : String
  quantity : ℤ
  quantityPos : 0 < quantity

/-- A validated import request, with the numbers that its two attempts at the
header generate. -/
structure ImportRequest where
  sourceWarehouseCode : String
  destinationWarehouseCode : String
  records : List ImportRecord
  toNumber : String
  retryToNumber : String

/-- A record with its item. -/
structure ImportRow where
  rowIndex : ℕ
  itemId : ℕ
  requestedQty : ℤ
  requestedPos : 0 < requestedQty

/-- What the import reserved for a line. -/
structure LineInsert where
  itemId : ℕ
  lineNumber : ℤ
  requested : ℤ
  committed : ℤ
  requestedPos : 0 < requested
  committedNonneg : 0 ≤ committed
  committedLe : committed ≤ requested

def resolveWarehouseId (store : Store) (code : String) : Option ℕ :=
  (store.warehouses.entries.find? fun entry =>
    entry.2.warehouseCode == code && entry.2.isActive).map Prod.fst

def Store.itemOfSku (store : Store) (sku : String) : Option ℕ :=
  (store.items.entries.find? fun entry => entry.2.sku == sku).map Prod.fst

def resolveRows (store : Store) : ℕ → List ImportRecord →
    List ImportRow × List UnknownSku
  | _, [] => ([], [])
  | rowIndex, record :: rest =>
      let resolved := resolveRows store (rowIndex + 1) rest
      match store.itemOfSku record.sku with
      | none => (resolved.1, ⟨rowIndex, record.sku⟩ :: resolved.2)
      | some itemId =>
          (⟨rowIndex, itemId, record.quantity, record.quantityPos⟩ :: resolved.1,
            resolved.2)

def Store.availableRows (store : Store) (itemId warehouseId : ℕ) : List (ℕ × ℤ) :=
  (store.inventory.select fun row => row.inWarehouse itemId warehouseId).map
    fun entry => (entry.1, max 0 entry.2.available)

/-- Reserve units of a row for a transfer order. -/
def commitUnits (quantity : ℤ) (row : Inventory) : Inventory :=
  { row with quantityAllocated := row.quantityAllocated + quantity }

def Store.committable (store : Store) (warehouseId : ℕ) (row : ImportRow) : ℤ :=
  max 0 (min row.requestedQty (supply (store.availableRows row.itemId warehouseId)))

def reserveRow (store : Store) (warehouseId : ℕ) (lineNumber : ℤ)
    (row : ImportRow) : Store × LineInsert :=
  let committed := store.committable warehouseId row
  ({ store with
      inventory := store.inventory.applyTakes commitUnits
        (takes committed (store.availableRows row.itemId warehouseId)) },
    { itemId := row.itemId, lineNumber, requested := row.requestedQty, committed,
      requestedPos := row.requestedPos
      committedNonneg := le_max_left _ _
      committedLe := max_le (le_of_lt row.requestedPos) (min_le_left _ _) })

def reserveRows (warehouseId : ℕ) : Store → ℤ → List ImportRow →
    Store × List LineInsert
  | store, _, [] => (store, [])
  | store, lineNumber, row :: rest =>
      let reserved := reserveRow store warehouseId lineNumber row
      let remaining := reserveRows warehouseId reserved.1 (lineNumber + 1) rest
      (remaining.1, reserved.2 :: remaining.2)

def Store.toNumberTaken (store : Store) (toNumber : String) : Bool :=
  store.transferOrders.entries.any fun entry => entry.2.toNumber == toNumber

def Store.insertHeader (store : Store) (header : TransferOrder) : Store :=
  { store with transferOrders := store.transferOrders.insert header }

/-- The new line: one without stock is short-closed from the start. -/
def LineInsert.toLine (toId : ℕ) (line : LineInsert) : TransferOrderLine where
  toId := toId
  itemId := line.itemId
  lineNumber := line.lineNumber
  requestedQty := line.requested
  committedQty := line.committed
  pickedQty := 0
  approvedQty := 0
  status := if 0 < line.committed then .pending else .shortClosed
  requestedPos := line.requestedPos
  approvedNonneg := le_refl 0
  approvedLePicked := le_refl 0
  pickedLeCommitted := line.committedNonneg
  committedLeRequested := line.committedLe

def insertLines (toId : ℕ) (store : Store) (lines : List LineInsert) : Store :=
  lines.foldl (fun store line =>
    { store with
      transferOrderLines := store.transferOrderLines.insert (line.toLine toId) })
    store

def sortRows (rows : List ImportRow) : List ImportRow :=
  rows.insertionSort fun left right => left.itemId ≤ right.itemId

/-- `import_transfer_order`, with the id of the new order. A collision of the
order number rolls the whole transaction back before the second attempt, and
with it the reservations, but keeps the lines computed from them. -/
def importTransferOrder (store : Store) (request : ImportRequest)
    (username : String) : Except ToError (Store × ℕ) :=
  if request.sourceWarehouseCode = request.destinationWarehouseCode then
    .error (.sourceAndDestinationMustDiffer request.sourceWarehouseCode)
  else
    match resolveWarehouseId store request.sourceWarehouseCode with
    | none =>
        .error (.unknownWarehouse "source_warehouse_code" request.sourceWarehouseCode)
    | some sourceWarehouseId =>
        match resolveWarehouseId store request.destinationWarehouseCode with
        | none =>
            .error (.unknownWarehouse "destination_warehouse_code"
              request.destinationWarehouseCode)
        | some destinationWarehouseId =>
            match resolveRows store 0 request.records with
            | (_, first :: rest) => .error (.rowErrors (first :: rest))
            | (rows, []) =>
                if hdistinct : sourceWarehouseId = destinationWarehouseId then
                  .error (.warehousesDistinctCheck sourceWarehouseId)
                else
                  let reserved := reserveRows sourceWarehouseId store 1 (sortRows rows)
                  let header (toNumber : String) : TransferOrder :=
                    { toNumber, sourceWarehouseId, destinationWarehouseId,
                      status := .open, createdBy := username,
                      warehousesDistinct := hdistinct }
                  let toId := store.transferOrders.next
                  if ¬ store.toNumberTaken request.toNumber then
                    .ok (insertLines toId
                      (reserved.1.insertHeader (header request.toNumber)) reserved.2,
                      toId)
                  else if ¬ store.toNumberTaken request.retryToNumber then
                    .ok (insertLines toId
                      (store.insertHeader (header request.retryToNumber)) reserved.2,
                      toId)
                  else .error (.toNumberCollision request.retryToNumber)

/-! ## Start picking -/

def Store.onHandRows (store : Store) (itemId warehouseId : ℕ) :
    List ((ℕ × Inventory) × ℤ) :=
  (store.inventory.select fun row =>
      row.inWarehouse itemId warehouseId && decide (0 < row.quantityOnHand)).map
    fun entry => (entry, entry.2.quantityOnHand)

/-- Create the tasks of a line; the state carries the walk position. -/
def startTask (batchId toId : ℕ) (line : ℕ × TransferOrderLine)
    (state : Store × ℤ) (draw : (ℕ × Inventory) × ℤ) : Store × ℤ :=
  ({ state.1 with
      pickTasks := state.1.pickTasks.insert
        { batchId, target := .transferOrder toId (some line.1),
          itemId := line.2.itemId, binId := draw.1.2.binId,
          quantityToPick := draw.2, quantityPicked := 0,
          pickSequence := state.2 + 1, toteNumber := none, status := .pending } },
    state.2 + 1)

/-- Cover what a line still has to pick with tasks. -/
def startLine (batchId toId warehouseId : ℕ) (state : Store × ℤ)
    (line : ℕ × TransferOrderLine) : Except ToError (Store × ℤ) :=
  let remaining := line.2.committedQty - line.2.pickedQty
  let draws := takes remaining (state.1.onHandRows line.2.itemId warehouseId)
  if supply draws < remaining then
    .error (.noPickableInventory line.1 line.2.itemId (remaining - supply draws))
  else .ok (draws.foldl (startTask batchId toId line) state)

/-- `start_to_picking`, with the id of the new batch. -/
def startToPicking (store : Store) (toId : ℕ) (username : String) :
    Except ToError (Store × ℕ) :=
  match store.transferOrders.get? toId with
  | none => .error .orderNotFound
  | some header =>
      if header.status ≠ .open ∧ header.status ≠ .partiallyPicked then
        .error (.invalidStatusForStartPicking header.status)
      else
        match (store.toLines toId).filter fun entry =>
            entry.2.pickable && decide (entry.2.pickedQty < entry.2.committedQty) with
        | [] => .error .noLinesToPick
        | first :: rest => do
            let batchId := store.pickBatches.next
            let batched : Store :=
              { store with
                pickBatches := store.pickBatches.insert
                  { warehouseId := header.sourceWarehouseId, assignedTo := username,
                    status := .open, totalOrders := 0, totalItems := 0 } }
            let (started, _) ← (first :: rest).foldlM
              (startLine batchId toId header.sourceWarehouseId) (batched, (0 : ℤ))
            .ok (started, batchId)

/-! ## Approval -/

def selfApprovalBlocked (store : Store) : Bool :=
  match store.appSettings.lookup "transfer_order_block_self_approval" with
  | none => false
  | some value => value.toLower == "true"

/-- Take moved units out of a source row. -/
def shipUnits (now : ℕ) (quantity : ℤ) (row : Inventory) : Inventory :=
  { row with
    quantityAllocated := row.quantityAllocated - quantity
    quantityOnHand := row.quantityOnHand - quantity
    updatedAt := now }

/-- What a reserved row can give to a transfer. -/
def Inventory.shippable (row : Inventory) : ℤ :=
  min row.quantityAllocated row.quantityOnHand

def decrementSourceInventory (store : Store) (itemId warehouseId : ℕ)
    (quantity : ℤ) : Except ToError Store :=
  let draws := takes quantity (store.reservedBy itemId warehouseId
    Inventory.shippable)
  if supply draws < quantity then
    .error (.sourceUnderFunded (quantity - supply draws) itemId warehouseId)
  else
    .ok { store with
      inventory := store.inventory.applyTakes (shipUnits store.now)
        (draws.filter fun draw => draw.2 != 0) }

def Store.stagingBin (store : Store) (warehouseId : ℕ) : Option ℕ :=
  (store.bins.entries.find? fun entry =>
    entry.2.warehouseId == warehouseId && entry.2.binType == .staging).map Prod.fst

def creditDestinationInventory (store : Store) (itemId destWarehouseId : ℕ)
    (quantity : ℤ) : Except ToError Store :=
  match store.stagingBin destWarehouseId with
  | none => .error (.noStagingBin destWarehouseId)
  | some binId =>
      .ok (addInventory store itemId binId destWarehouseId quantity none).1

def TransferOrderLine.approve (line : TransferOrderLine) (quantity : ℤ)
    (hquantity : 0 < quantity) (hcheck : line.approvedQty + quantity ≤ line.pickedQty) :
    TransferOrderLine :=
  { line with
    approvedQty := line.approvedQty + quantity
    status :=
      if line.approvedQty + quantity = line.pickedQty ∧
          line.pickedQty = line.committedQty then .approved
      else line.status
    approvedNonneg := by
      have hnonneg := line.approvedNonneg
      omega
    approvedLePicked := hcheck }

/-- Count approved units on a line; the table refuses more than were picked. -/
def approveLineQty (store : Store) (toLineId : ℕ) (quantity : ℤ)
    (hquantity : 0 < quantity) : Except ToError Store :=
  match store.transferOrderLines.get? toLineId with
  | none => .ok store
  | some line =>
      if hcheck : line.approvedQty + quantity ≤ line.pickedQty then
        .ok { store with
          transferOrderLines := store.transferOrderLines.modify toLineId fun _ =>
            line.approve quantity hquantity hcheck }
      else .error (.approvedQtyCheck toLineId)

def approveSnapshotLine (header : TransferOrder) (store : Store)
    (snap : SnapshotLine) : Except ToError Store :=
  if hquantity : snap.pickedInSnapshot ≤ 0 then .ok store
  else do
    let counted ← approveLineQty store snap.toLineId snap.pickedInSnapshot
      (Int.lt_of_not_ge hquantity)
    let shipped ← decrementSourceInventory counted snap.itemId
      header.sourceWarehouseId snap.pickedInSnapshot
    creditDestinationInventory shipped snap.itemId header.destinationWarehouseId
      snap.pickedInSnapshot

def sortSnapshot (lines : List SnapshotLine) : List SnapshotLine :=
  lines.insertionSort fun left right => left.itemId ≤ right.itemId

/-- Close an order that meets every closure condition. -/
def closeIfDone (store : Store) (toId : ℕ) : Store :=
  if evaluateToClosure store toId then store.setToStatus toId .closed else store

def Store.approval (store : Store) (toId approvalId : ℕ) :
    Except ToError TransferOrderApproval :=
  match store.transferOrderApprovals.get? approvalId with
  | none => .error .approvalNotFound
  | some approval =>
      if approval.toId ≠ toId then .error .approvalNotFound
      else if approval.status ≠ .pending then
        .error (.approvalNotPending approval.status approval.approvedBy)
      else .ok approval

/-- `approve_transfer_order_approval`. Neither the status of the order nor that of
its lines is looked at. -/
def approveTransferOrderApproval (store : Store) (toId approvalId : ℕ)
    (username : String) : Except ToError Store := do
  let approval ← store.approval toId approvalId
  if selfApprovalBlocked store && approval.submittedBy == username then
    .error (.selfApprovalBlocked approval.submittedBy)
  else
    match store.transferOrders.get? toId with
    | none => .error .orderNotFound
    | some header =>
        if approval.linesSnapshot.isEmpty then .error .approvalSnapshotEmpty
        else do
          let moved ← (sortSnapshot approval.linesSnapshot).foldlM
            (approveSnapshotLine header) store
          .ok (closeIfDone
            { moved with
              transferOrderApprovals :=
                moved.transferOrderApprovals.modify approvalId fun approval =>
                  { approval with status := .approved, approvedBy := some username } }
            toId)

def rejectTransferOrderApproval (store : Store) (toId approvalId : ℕ)
    (rejectionReason : Option String) : Except ToError Store := do
  let _ ← store.approval toId approvalId
  .ok { store with
    transferOrderApprovals :=
      store.transferOrderApprovals.modify approvalId fun approval =>
        { approval with status := .rejected, rejectionReason } }

end SentryWms
