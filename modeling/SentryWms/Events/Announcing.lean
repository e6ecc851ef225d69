import SentryWms.Events.Outbox

/-!
# The requests that announce

Each request writes its change, appends its event and commits both. An edit of a purchase
order that changes nothing and the repair of an order that is SHIPPED already append none.
-/

namespace SentryWms.Outbox

open Relational ReadCommitted Interleaving Counting
open Dockd (DockdRequest DockdRefusal IdempotencyColumns FulfillmentColumns validateSoNumber)

/-! ## Sales orders -/

def completePacking (soId : ℕ) (warehouseIds : List ℕ) (sourceTxnId : String) :
    OutboxProgram :=
  query (.order soId (some warehouseIds)) fun found =>
    match found with
    | none => refuse (.pack .orderNotFound)
    | some (_, columns, state) =>
        if state.status ≠ .picked then refuse (.pack (.notReady state.status))
        else
          query (.unverifiedLines soId) fun (unverified : ℕ) =>
            if 0 < unverified then refuse (.pack (.unverified unverified))
            else
              query (.silentShortfall soId) fun silentlyShort =>
                match silentlyShort with
                | first :: rest => refuse (.pack (.underPicked (first :: rest)))
                | [] =>
                    query (.updateOrder soId (.setStatus .packed)) fun _ =>
                      emitEvent ⟨.packConfirmed, .salesOrder, soId, columns.warehouseId,
                          sourceTxnId, .packConfirmed⟩
                        (commit (.packCompletion soId) sourceTxnId)

/-- `tracking_numbers` of `ship.confirmed`. -/
def trackingNumbers (trackingNumber : Option String) : List String :=
  (trackingNumber.filter fun tracking => !(PyText.strip tracking.toList).isEmpty).toList

def emitShipConfirmed (soId warehouseId : ℕ) (trackingNumber : Option String)
    (sourceTxnId : String) (next : OutboxProgram) : OutboxProgram :=
  emitEvent ⟨.shipConfirmed, .salesOrder, soId, warehouseId, sourceTxnId,
    .shipConfirmed (trackingNumbers trackingNumber)⟩ next

/-- `record_ship`. The refusals of its callers differ in form. -/
def recordShip (raise : ShipError → Refusal) (soId warehouseId : ℕ)
    (preShipStatus : Option SoStatus) (trackingNumber shipMethod : Option String)
    (sourceTxnId : String) (next : ℕ → OutboxProgram) : OutboxProgram :=
  query (.silentShortfall soId) fun lines =>
    match lines with
    | first :: rest => refuse (raise (.underPicked (first :: rest)))
    | [] =>
        query (.insertFulfillment soId preShipStatus) fun (fulfillmentId : ℕ) =>
          query (.missingBin soId) fun missing =>
            match missing with
            | some binId => refuse (raise (.binMissing binId))
            | none =>
                query (.shipLines soId false) fun _ =>
                  query (.updateOrder soId (.shipped trackingNumber shipMethod)) fun _ =>
                    emitShipConfirmed soId warehouseId trackingNumber sourceTxnId
                      (next fulfillmentId)

def fulfill (soId : ℕ) (warehouseIds : List ℕ) (trackingNumber : String)
    (shipMethod : Option String) (sourceTxnId : String) : OutboxProgram :=
  query (.order soId (some warehouseIds)) fun found =>
    match found with
    | none => refuse (.ship .orderNotFound)
    | some (_, columns, state) =>
        query .requirePacking fun (packingRequired : Bool) =>
          if packingRequired ∧ state.status ≠ .packed then
            refuse (.ship (.notPacked state.status))
          else if state.status ≠ .picked ∧ state.status ≠ .packed then
            refuse (.ship (.notReady state.status))
          else
            recordShip .ship soId columns.warehouseId none (some trackingNumber) shipMethod
              sourceTxnId fun _ => commit (.ship soId state.status) sourceTxnId

/-- The ship transition of `update_sales_order`. An order that is SHIPPED is edited, not
shipped. -/
def adminEditShip (soId : ℕ) (trackingNumber shipMethod : Option (Option String))
    (sourceTxnId : String) : OutboxProgram :=
  query (.order soId none) fun found =>
    match found with
    | none => refuse .salesOrderNotFound
    | some (_, columns, state) =>
        let shipTracking := trackingNumber.getD state.trackingNumber
        let finalMethod := shipMethod.getD state.shipMethod
        if state.status = .shipped then
          query (.updateOrder soId (.header trackingNumber shipMethod)) fun _ =>
            .reply true .edited
        else if state.status ≠ .picked ∧ state.status ≠ .packed then
          refuse (.ship (.onlyFromPickedOrPacked state.status))
        else if (trackingNumbers shipTracking).isEmpty ∧ ¬ isLocalPickup finalMethod then
          refuse (.ship .trackingRequired)
        else
          recordShip .ship soId columns.warehouseId (some state.status) shipTracking
            finalMethod sourceTxnId fun _ =>
              query (.updateOrder soId (.header none shipMethod)) fun _ =>
                commit (.ship soId state.status) sourceTxnId

/-- `record_admin_ship`, once nothing is found to be short. An order that was SHIPPED is
repaired without an event. -/
def shipShippable (soId : ℕ) (columns : OrderColumns) (state : OrderState)
    (sourceTxnId : String) : OutboxProgram :=
  query (.shippableLines soId) fun shippable =>
    if List.isEmpty shippable then refuse (.ship .nothingToShip)
    else
      query (.insertFulfillment soId (some state.status)) fun _ =>
        query (.unbooked soId columns.warehouseId) fun (unbooked : Bool) =>
          if unbooked then refuse (.ship (.noBin columns.warehouseId))
          else
            query (.shipLines soId true) fun _ =>
              query (.updateOrder soId (.setStatus .shipped)) fun _ =>
                if state.status ≠ .shipped then
                  emitShipConfirmed soId columns.warehouseId state.trackingNumber sourceTxnId
                    (commit (.ship soId state.status) sourceTxnId)
                else commit (.ship soId state.status) sourceTxnId

/-- `record_admin_ship`. -/
def adminShip (soId : ℕ) (acknowledgeShortfall : Bool) (sourceTxnId : String) :
    OutboxProgram :=
  query (.order soId none) fun found =>
    match found with
    | none => refuse (.ship (.adminNotFound soId))
    | some (_, columns, state) =>
        if ¬ orderTypeAllowsFulfillmentOps columns.orderType then
          refuse (.ship (.notEligible columns.orderType))
        else if state.status ≠ .picked ∧ state.status ≠ .packed ∧ state.status ≠ .shipped then
          refuse (.ship (.wrongStatus state.status))
        else
          query (.hasFulfillment soId) fun (existing : Bool) =>
            if existing then refuse (.ship .alreadyFulfilled)
            else if acknowledgeShortfall then shipShippable soId columns state sourceTxnId
            else
              query (.silentShortfall soId) fun shortfall =>
                match shortfall with
                | first :: rest => refuse (.ship (.silentShortfall (first :: rest)))
                | [] => shipShippable soId columns state sourceTxnId

/-! ## Dockd -/

/-- Roll back and refuse a request of dockd for its order. -/
def refuseOrder (error : ShipError) : OutboxProgram :=
  refuse (.dockd (.order error))

/-- `ship_order`, once the order is locked. -/
def shipLocked (request : DockdRequest) (tracking : String) (shipMethod : Option String)
    (soId : ℕ) (columns : OrderColumns) (state : OrderState) : OutboxProgram :=
  if state.status = .shipped then
    query (.lastShipped soId) fun _ => refuseOrder .alreadyShipped
  else
    query .requirePacking fun (packingRequired : Bool) =>
      let allowedStatuses : List SoStatus :=
        if packingRequired then [.packed] else [.picked, .packed]
      if ¬ allowedStatuses.contains state.status then
        refuseOrder (.notInShippableStatus state.status allowedStatuses)
      else
        recordShip (fun error => .dockd (.order error)) soId columns.warehouseId
          (some state.status) (some tracking) shipMethod request.body.idempotencyKey
          fun fulfillmentId =>
            query (.cacheResponse request (.shipped tracking fulfillmentId)) fun _ =>
              commit (.ship soId state.status) request.body.idempotencyKey

/-- `record_void_ship`, and the end of `void_ship`. -/
def recordVoidShip (request : DockdRequest) (reason : String) (soId : ℕ)
    (columns : OrderColumns) (fulfillmentId : ℕ) (preShipStatus : SoStatus) :
    OutboxProgram :=
  query (.updateOrder soId (.voided preShipStatus)) fun _ =>
    query (.voidFulfillment fulfillmentId) fun _ =>
      query (.unshipLines soId) fun _ =>
        emitEvent ⟨.shipVoided, .salesOrder, soId, columns.warehouseId,
            request.body.idempotencyKey, .shipVoided reason preShipStatus⟩
          (query (.cacheResponse request (.voided preShipStatus)) fun _ =>
            commit (.voidShip soId) request.body.idempotencyKey)

/-- `void_ship`, once the order is locked. An order has to have a status. -/
def voidLocked (request : DockdRequest) (reason : String) (soId : ℕ) (columns : OrderColumns)
    (state : OrderState) : OutboxProgram :=
  if state.status ≠ .shipped then refuseOrder (.notShipped state.status)
  else
    query (.lastShipped soId) fun fulfillment =>
      match fulfillment with
      | none => refuseOrder (.noShippedFulfillment state.status)
      | some (fulfillmentId, fulfillment, _) =>
          match fulfillment.preShipStatus with
          | none => refuseOrder .statusNull
          | some preShipStatus =>
              recordVoidShip request reason soId columns fulfillmentId preShipStatus

def work (request : DockdRequest) : OutboxProgram :=
  if request.tokenWarehouseIds.isEmpty then refuseOrder .orderNotFound
  else
    query (.orderByNumber request.soNumber request.tokenWarehouseIds) fun found =>
      match found with
      | none => refuseOrder .orderNotFound
      | some (soId, columns, state) =>
          match request.body.payload with
          | .ship body => shipLocked request body.tracking body.shipMethod soId columns state
          | .voidShip body => voidLocked request body.reason soId columns state

/-- A request that finds no response in the cache. -/
def claimAndWork (sha256 : Dockd.Payload → String) (request : DockdRequest) : OutboxProgram :=
  query (.operatorExternalId request.operatorUsername) fun operator =>
    match operator with
    | none => refuse (.dockd .unknownOperator)
    | some _ =>
        query (.claimKey request) fun (claimed : Bool) =>
          if claimed then work request
          else
            query (.cachedRow request) fun peer =>
              .reply true (match peer with
                | none => .refused (.dockd .lockTimeout)
                | some (row, response) =>
                    if request.reuses sha256 row then .refused (.dockd .keyReused)
                    else .replayed response)

/-- `ship_order` and `void_ship`. -/
def dockd (sha256 : Dockd.Payload → String) (request : DockdRequest) : OutboxProgram :=
  match validateSoNumber request.soNumber with
  | some message => refuse (.dockd (.invalidSoNumber message))
  | none =>
      query (.cachedRow request) fun cached =>
        match cached with
        | none => claimAndWork sha256 request
        | some (row, response) =>
            if request.reuses sha256 row then refuse (.dockd .keyReused)
            else
              match response with
              | none => claimAndWork sha256 request
              | some response => .reply false (.replayed (some response))

/-! ## Purchase orders -/

def editBlocked (status : PoStatus) : Bool :=
  status == .closed || status == .archived

def poStatusOf (lines : List PoLineState) : PoStatus :=
  if !lines.isEmpty && lines.all fun line => decide (line.ordered ≤ line.received) then
    .received
  else if lines.any fun line => decide (0 < line.received) then .partiallyReceived
  else .open

def recomputePoStatus (poId : ℕ) (next : PoStatus → OutboxProgram) : OutboxProgram :=
  query (.deriveLineStatuses poId) fun _ =>
    query (.linesOf poId) fun lines =>
      query (.setPoStatus poId (poStatusOf lines)) fun _ => next (poStatusOf lines)

def emitPoEdit (poId warehouseId : ℕ) (status : PoStatus) (changes : List FieldChange)
    (sourceTxnId : String) (next : OutboxProgram) : OutboxProgram :=
  if changes.isEmpty then next
  else
    emitEvent ⟨.purchaseOrderEditCompleted, .purchaseOrder, poId, warehouseId, sourceTxnId,
      .purchaseOrderEdit status changes⟩ next

def finishLineEdit (poId warehouseId : ℕ) (before after : Option ℤ)
    (changes : List FieldChange) (sourceTxnId : String) : OutboxProgram :=
  recomputePoStatus poId fun status =>
    emitPoEdit poId warehouseId status changes sourceTxnId
      (commit (.purchaseOrderLineEdit poId before after) sourceTxnId)

/-- `add_purchase_order_line`. -/
def addLine (poId itemId : ℕ) (quantityOrdered : ℤ) (sourceTxnId : String) : OutboxProgram :=
  query (.purchaseOrder poId) fun found =>
    match found with
    | none => refuse (.purchaseOrder .orderNotFound)
    | some (warehouseId, header) =>
        if editBlocked header.status then
          refuse (.purchaseOrder (.cannotAddLines header.status))
        else
          query (.itemById itemId) fun item =>
            match item with
            | none => refuse (.purchaseOrder (.itemNotFound itemId))
            | some item =>
                query (.itemOnOrder poId itemId) fun (dup : Bool) =>
                  if dup then refuse (.purchaseOrder (.itemOnOrder item.sku))
                  else
                    query (.nextLineNumber poId) fun lineNumber =>
                      query (.insertLine ⟨poId, itemId, lineNumber⟩ quantityOrdered) fun _ =>
                        finishLineEdit poId warehouseId none (some quantityOrdered)
                          [⟨s!"line[{item.sku}]", none, some (toString quantityOrdered)⟩]
                          sourceTxnId

/-- `update_purchase_order_line`. The quantity that it compares with is the one that it
read. -/
def updateLine (poId poLineId : ℕ) (quantityOrdered : ℤ) (sourceTxnId : String) :
    OutboxProgram :=
  query (.purchaseOrder poId) fun found =>
    match found with
    | none => refuse (.purchaseOrder .orderNotFound)
    | some (warehouseId, header) =>
        if editBlocked header.status then
          refuse (.purchaseOrder (.cannotEditLines header.status))
        else
          query (.purchaseOrderLine poId poLineId) fun line =>
            match line with
            | none => refuse (.purchaseOrder .lineNotFound)
            | some (sku, line) =>
                if quantityOrdered < line.received then
                  refuse (.purchaseOrder (.belowReceived quantityOrdered line.received))
                else
                  query (.setOrdered poLineId quantityOrdered) fun _ =>
                    finishLineEdit poId warehouseId (some line.ordered)
                      (some quantityOrdered)
                      (if quantityOrdered ≠ line.ordered then
                        [⟨s!"line[{sku}].quantity_ordered", some (toString line.ordered),
                          some (toString quantityOrdered)⟩]
                      else [])
                      sourceTxnId

/-- `delete_purchase_order_line`. -/
def deleteLine (poId poLineId : ℕ) (sourceTxnId : String) : OutboxProgram :=
  query (.purchaseOrder poId) fun found =>
    match found with
    | none => refuse (.purchaseOrder .orderNotFound)
    | some (warehouseId, header) =>
        if editBlocked header.status then
          refuse (.purchaseOrder (.cannotRemoveLines header.status))
        else
          query (.purchaseOrderLine poId poLineId) fun line =>
            match line with
            | none => refuse (.purchaseOrder .lineNotFound)
            | some (sku, line) =>
                if 0 < line.received then
                  refuse (.purchaseOrder (.hasReceipts line.received))
                else
                  query (.deleteLine poLineId) fun _ =>
                    finishLineEdit poId warehouseId (some line.ordered) none
                      [⟨s!"line[{sku}]", some (toString line.ordered), none⟩] sourceTxnId

/-- One header field of an edit, if it was sent with another value. -/
def fieldChange (field : String) (sent : Option (Option String)) (stored : Option String) :
    Option FieldChange :=
  sent.bind fun value => if value = stored then none else some ⟨field, stored, value⟩

def dateChange (sent : Option (Option String)) (stored : Option String) :
    Option FieldChange :=
  sent.bind fun value =>
    if value.isNone ∧ stored.isNone then none else some ⟨"expected_date", stored, value⟩

/-- `changes` of `update_purchase_order`. -/
def headerChanges (edit : HeaderEdit) (header : PoHeader) : List FieldChange :=
  [fieldChange "po_number" edit.poNumber header.poNumber,
    fieldChange "po_barcode" edit.poBarcode header.poBarcode,
    fieldChange "vendor_name" edit.vendorName header.vendorName,
    dateChange edit.expectedDate header.expectedDate,
    fieldChange "notes" edit.notes header.notes,
    edit.status.bind fun status =>
      if status = header.status then none
      else some ⟨"status", some header.status.text, some status.text⟩].reduceOption

/-- A header field other than the status was sent. -/
def HeaderEdit.sendsFields (edit : HeaderEdit) : Bool :=
  edit.poNumber.isSome || edit.poBarcode.isSome || edit.vendorName.isSome ||
    edit.expectedDate.isSome || edit.notes.isSome

def updatePurchaseOrder (poId : ℕ) (edit : HeaderEdit) (sourceTxnId : String) :
    OutboxProgram :=
  query (.purchaseOrder poId) fun found =>
    match found with
    | none => refuse (.purchaseOrder .orderNotFound)
    | some (warehouseId, header) =>
        let status := edit.status.getD header.status
        if edit.status = some .archived ∧ header.status ≠ .closed then
          refuse (.purchaseOrder .notClosed)
        else if edit.sendsFields ∧ editBlocked header.status then
          refuse (.purchaseOrder (.headerLocked header.status))
        else if ¬ edit.sendsFields ∧ status = header.status then
          refuse (.purchaseOrder .noValidFields)
        else
          query (.editHeader poId edit) fun _ =>
            emitPoEdit poId warehouseId status (headerChanges edit header) sourceTxnId
              (commit (.purchaseOrderHeaderEdit poId (headerChanges edit header)) sourceTxnId)

/-! ## All requests -/

/-- What a request asks for. The last one is any other request, as what it does to the
tables, statement by statement. -/
inductive Call where
  | completePacking (soId : ℕ) (warehouseIds : List ℕ)
  | fulfill (soId : ℕ) (warehouseIds : List ℕ) (trackingNumber : String)
      (shipMethod : Option String)
  | adminEditShip (soId : ℕ) (trackingNumber shipMethod : Option (Option String))
  | adminShip (soId : ℕ) (acknowledgeShortfall : Bool)
  | dockd (request : DockdRequest)
  | addLine (poId itemId : ℕ) (quantityOrdered : ℤ)
  | updateLine (poId poLineId : ℕ) (quantityOrdered : ℤ)
  | deleteLine (poId poLineId : ℕ)
  | updatePurchaseOrder (poId : ℕ) (edit : HeaderEdit)
  | elsewhere (writes : List (Tables → Tables)) (commits : Bool)

/-- A request with its header, and the id that would be minted for it. -/
structure HttpRequest where
  xRequestId : Option String
  uuid4 : String
  call : Call

/-- `g.source_txn_id`. -/
def HttpRequest.sourceTxnId (request : HttpRequest) : String :=
  mintSourceTxnId request.xRequestId request.uuid4

/-- The statements of any other request. -/
def elsewhere (writes : List (Tables → Tables)) (commits : Bool) : OutboxProgram :=
  match writes with
  | [] => .reply commits .elsewhere
  | write :: writes => query (.elsewhere write) fun _ => elsewhere writes commits

def HttpRequest.program (sha256 : Dockd.Payload → String) (request : HttpRequest) :
    OutboxProgram :=
  match request.call with
  | .completePacking soId warehouseIds =>
      Outbox.completePacking soId warehouseIds request.sourceTxnId
  | .fulfill soId warehouseIds trackingNumber shipMethod =>
      Outbox.fulfill soId warehouseIds trackingNumber shipMethod request.sourceTxnId
  | .adminEditShip soId trackingNumber shipMethod =>
      Outbox.adminEditShip soId trackingNumber shipMethod request.sourceTxnId
  | .adminShip soId acknowledgeShortfall =>
      Outbox.adminShip soId acknowledgeShortfall request.sourceTxnId
  | .dockd request => Outbox.dockd sha256 request
  | .addLine poId itemId quantityOrdered =>
      Outbox.addLine poId itemId quantityOrdered request.sourceTxnId
  | .updateLine poId poLineId quantityOrdered =>
      Outbox.updateLine poId poLineId quantityOrdered request.sourceTxnId
  | .deleteLine poId poLineId => Outbox.deleteLine poId poLineId request.sourceTxnId
  | .updatePurchaseOrder poId edit =>
      Outbox.updatePurchaseOrder poId edit request.sourceTxnId
  | .elsewhere writes commits => Outbox.elsewhere writes commits

/-! ## Execution -/

/-- `SELECT ... FOR UPDATE` on an order. -/
def lockOrder (tables : Tables) (txn : ℕ) (cond : ℕ → OrderColumns → Bool) :
    Option (Tables × Option (ℕ × OrderColumns × OrderState)) :=
  match tables.orders.entries.find? fun entry => cond entry.1 entry.2.ident with
  | none => some (tables, none)
  | some (soId, row) =>
      (writeKey tables.orders txn soId id).map fun orders =>
        ({ tables with orders }, some (soId, row.ident, row.version.latest))

/-- The lines of an order, as a transaction sees them. -/
def linesSeen (tables : Tables) (txn soId : ℕ) : List (ℕ × LineColumns × LineQuantities) :=
  (rowsSeen tables.orderLines txn).filter fun row => row.2.1.soId == soId

def shortMarked (tables : Tables) (txn soLineId : ℕ) : Bool :=
  ((rowsSeen tables.pickTasks txn).any fun row =>
    row.2.1.soLineId == soLineId && row.2.2 == .short) ||
      tables.shortWaveLines.contains soLineId

/-- `_detect_silent_shortfall`. -/
def silentShortfall (tables : Tables) (txn soId : ℕ) : List SilentlyShort :=
  ((linesSeen tables txn soId).filter fun row =>
    decide (row.2.2.picked < row.2.2.ordered) && !shortMarked tables txn row.1).map fun row =>
      { soId, sku := ((tables.items.get? row.2.1.itemId).map Item.sku).getD "",
        ordered := row.2.2.ordered, picked := row.2.2.picked }

def pickedFrom (tables : Tables) (txn soId itemId : ℕ) : Option ℕ :=
  ((rowsSeen tables.pickTasks txn).find? fun row =>
    row.2.1.soId == soId && row.2.1.itemId == itemId &&
      (row.2.2 == .picked || row.2.2 == .short)).map fun row => row.2.1.binId

def missingBin (tables : Tables) (txn soId : ℕ) : Option ℕ :=
  (((linesSeen tables txn soId).filter fun row => decide (0 < row.2.2.picked)).map fun row =>
    (pickedFrom tables txn soId row.2.1.itemId).getD 1).find? fun binId =>
      (tables.bins.get? binId).isNone

def shippableLines (tables : Tables) (txn soId : ℕ) :
    List (ℕ × LineColumns × LineQuantities) :=
  (linesSeen tables txn soId).filter fun row => decide (row.2.2.shipped < row.2.2.picked)

def unbooked (tables : Tables) (txn soId warehouseId : ℕ) : Bool :=
  ((shippableLines tables txn soId).any fun row =>
    (pickedFrom tables txn soId row.2.1.itemId).isNone) &&
      !tables.bins.entries.any fun entry =>
        entry.2.warehouseId == warehouseId && entry.2.isActive

def LineQuantities.ship (onlyUnshipped : Bool) (line : LineQuantities) : LineQuantities :=
  if if onlyUnshipped then line.shipped < line.picked else 0 < line.picked then
    { line with shipped := line.picked }
  else line

/-- The lines of a purchase order, as a transaction sees them. -/
def poLinesSeen (tables : Tables) (txn poId : ℕ) :
    List (ℕ × PoLineColumns × PoLineState) :=
  (rowsSeen tables.purchaseOrderLines txn).filterMap fun row =>
    if row.2.1.poId = poId then row.2.2.map fun line => (row.1, row.2.1, line) else none

def PoLineState.derive (line : PoLineState) : PoLineState :=
  { line with
    status :=
      if line.received = 0 then .pending
      else if line.ordered ≤ line.received then .received
      else .partiallyReceived }

def HeaderEdit.apply (edit : HeaderEdit) (header : PoHeader) : PoHeader where
  status := edit.status.getD header.status
  poNumber := edit.poNumber.getD header.poNumber
  poBarcode := edit.poBarcode.getD header.poBarcode
  vendorName := edit.vendorName.getD header.vendorName
  expectedDate := edit.expectedDate.getD header.expectedDate
  notes := edit.notes.getD header.notes

section Perform

variable (sha256 : Dockd.Payload → String)
  (fetchOne : FetchOne (FulfillmentColumns × FulfillmentStatus))

/-- Execute a statement on the tables beside `integration_events`, if the rows it locks are
free. -/
def performQuery (tables : Tables) (txn : ℕ) :
    (query : Query) → Option (Tables × query.Answer)
  | .order soId warehouseIds =>
      lockOrder tables txn fun key columns =>
        key == soId && warehouseIds.all fun ids => ids.contains columns.warehouseId
  | .orderByNumber soNumber tokenWarehouseIds =>
      lockOrder tables txn fun _ columns =>
        columns.soNumber == soNumber && tokenWarehouseIds.contains columns.warehouseId
  | .requirePacking =>
      some (tables, match tables.appSettings.lookup "require_packing_before_shipping" with
        | none => true
        | some value => value != "false")
  | .unverifiedLines soId =>
      some (tables, ((linesSeen tables txn soId).filter fun row =>
        decide (row.2.2.packed < row.2.2.picked)).length)
  | .silentShortfall soId => some (tables, silentShortfall tables txn soId)
  | .missingBin soId => some (tables, missingBin tables txn soId)
  | .shippableLines soId => some (tables, (shippableLines tables txn soId).map Prod.fst)
  | .unbooked soId warehouseId => some (tables, unbooked tables txn soId warehouseId)
  | .hasFulfillment soId =>
      some (tables, (rowsSeen tables.fulfillments txn).any fun row =>
        row.2.1.soId == soId && row.2.2 != .voided)
  | .lastShipped soId =>
      some (tables, fetchOne.fetch ((rowsSeen tables.fulfillments txn).filter fun row =>
        row.2.1.soId == soId && row.2.2 == .shipped))
  | .insertFulfillment soId preShipStatus =>
      some ({ tables with
        fulfillments := insertRow tables.fulfillments txn ⟨soId, preShipStatus⟩ .shipped },
        tables.fulfillments.next)
  | .shipLines soId onlyUnshipped =>
      if allFree tables.orderLines txn fun _ line => line.soId == soId then
        some ({ tables with
          orderLines := writeWhere tables.orderLines txn (fun _ line => line.soId == soId)
            (LineQuantities.ship onlyUnshipped) }, ())
      else none
  | .unshipLines soId =>
      if allFree tables.orderLines txn fun _ line => line.soId == soId then
        some ({ tables with
          orderLines := writeWhere tables.orderLines txn (fun _ line => line.soId == soId)
            fun line => { line with shipped := 0 } }, ())
      else none
  | .updateOrder soId update =>
      (writeKey tables.orders txn soId update.apply).map fun orders =>
        ({ tables with orders }, ())
  | .voidFulfillment fulfillmentId =>
      (writeKey tables.fulfillments txn fulfillmentId fun _ => .voided).map
        fun fulfillments => ({ tables with fulfillments }, ())
  | .cachedRow request =>
      some (tables, ((rowsSeen tables.idempotency txn).find? fun row =>
        request.claims row.2.1).map Prod.snd)
  | .operatorExternalId username => some (tables, tables.operators.lookup username)
  | .claimKey request =>
      (insertUnique IdempotencyColumns.primaryKey tables.idempotency txn
        (request.columns sha256) none).map fun inserted =>
          ({ tables with idempotency := inserted.1 }, inserted.2.isSome)
  | .cacheResponse request response =>
      if allFree tables.idempotency txn fun _ row => request.claims row then
        some ({ tables with
          idempotency := writeWhere tables.idempotency txn (fun _ row => request.claims row)
            fun _ => some response }, ())
      else none
  | .purchaseOrder poId => some (tables, rowByKey tables.purchaseOrders txn poId)
  | .purchaseOrderLine poId poLineId =>
      some (tables, ((poLinesSeen tables txn poId).find? fun row => row.1 == poLineId).bind
        fun row => (tables.items.get? row.2.1.itemId).map fun item => (item.sku, row.2.2))
  | .itemById itemId => some (tables, tables.items.get? itemId)
  | .itemOnOrder poId itemId =>
      some (tables, (poLinesSeen tables txn poId).any fun row => row.2.1.itemId == itemId)
  | .nextLineNumber poId =>
      some (tables, ((poLinesSeen tables txn poId).map fun row =>
        row.2.1.lineNumber).max?.getD 0 + 1)
  | .insertLine columns quantityOrdered =>
      some ({ tables with
        purchaseOrderLines := insertRow tables.purchaseOrderLines txn columns
          (some ⟨quantityOrdered, 0, .pending⟩) }, tables.purchaseOrderLines.next)
  | .setOrdered poLineId quantityOrdered =>
      (writeKey tables.purchaseOrderLines txn poLineId
        (Option.map fun line => { line with ordered := quantityOrdered })).map
          fun purchaseOrderLines => ({ tables with purchaseOrderLines }, ())
  | .deleteLine poLineId =>
      (writeKey tables.purchaseOrderLines txn poLineId fun _ => none).map
        fun purchaseOrderLines => ({ tables with purchaseOrderLines }, ())
  | .deriveLineStatuses poId =>
      if allFree tables.purchaseOrderLines txn fun _ line => line.poId == poId then
        some ({ tables with
          purchaseOrderLines := writeWhere tables.purchaseOrderLines txn
            (fun _ line => line.poId == poId) (Option.map PoLineState.derive) }, ())
      else none
  | .linesOf poId => some (tables, (poLinesSeen tables txn poId).map fun row => row.2.2)
  | .setPoStatus poId status =>
      (writeKey tables.purchaseOrders txn poId fun header => { header with status }).map
        fun purchaseOrders => ({ tables with purchaseOrders }, ())
  | .editHeader poId edit =>
      (writeKey tables.purchaseOrders txn poId edit.apply).map
        fun purchaseOrders => ({ tables with purchaseOrders }, ())
  | .elsewhere write => some (write tables, ())

/-- Execute a statement, if the rows it locks are free. -/
def perform (db : Database) (txn : ℕ) :
    (statement : Statement) → Option (Database × Answer statement)
  | .table query =>
      (performQuery sha256 fetchOne db.tables txn query).map fun result =>
        ({ db with tables := result.1 }, result.2)
  | .emitEvent event =>
      (insertUnique Event.key db.events txn event ()).map fun result =>
        ({ db with events := result.1 }, result.2)

/-- A transaction commits or rolls back in every table. -/
def Tables.settle
    (rows : {κ ρ : Type} → Table (Row κ ρ) → Table (Row κ ρ)) (tables : Tables) : Tables :=
  { tables with
    orders := rows tables.orders
    orderLines := rows tables.orderLines
    pickTasks := rows tables.pickTasks
    fulfillments := rows tables.fulfillments
    idempotency := rows tables.idempotency
    purchaseOrders := rows tables.purchaseOrders
    purchaseOrderLines := rows tables.purchaseOrderLines }

/-- The database as the sessions use it. -/
def engine : Engine Database Statement Answer where
  perform := perform sha256 fetchOne
  commit := fun db txn =>
    ⟨db.tables.settle fun table => commitRows table txn, commitRows db.events txn⟩
  rollback := fun db txn =>
    ⟨db.tables.settle fun table => rollbackRows table txn, rollbackRows db.events txn⟩

end Perform

/-- The requests in progress on a database, and the replies given. -/
abbrev OutboxSystem := System Database Statement Answer Reply

end SentryWms.Outbox
