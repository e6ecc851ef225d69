import SentryWms.Core.Session
import SentryWms.Core.UniqueRows
import SentryWms.Core.Uuid
import SentryWms.Receiving.Receive
import SentryWms.Shipping.DockdRequests

/-!
# Requests that announce what they change

Pack completion, the ships, the void of a ship and the edits of a purchase order as the
SQL statements they execute, with the event that each of them appends to
`integration_events`. Every event of a request carries the id of the request, which its
client may choose, and dockd's carry its idempotency key. What the rest of the program
does to the tables that these requests read is left open; it emits no event of these types.
-/

namespace SentryWms.Outbox

open Relational ReadCommitted Interleaving Counting
open Dockd (DockdRequest DockdRefusal IdempotencyColumns FulfillmentColumns)

/-! ## Events -/

/-- `integration_events.aggregate_type`, as the requests here write it. -/
inductive AggregateType where
  | salesOrder
  | purchaseOrder
deriving DecidableEq

/-- `integration_events.event_type`, as the requests here write it. -/
inductive EventType where
  | packConfirmed
  | shipConfirmed
  | shipVoided
  | purchaseOrderEditCompleted
deriving DecidableEq

/-- An entry of `changes`. -/
structure FieldChange where
  field : String
  oldValue : Option String
  newValue : Option String

/-- What an event tells beside its order. -/
inductive EventPayload where
  | packConfirmed
  | shipConfirmed (trackingNumbers : List String)
  | shipVoided (reason : String) (revertedToStatus : SoStatus)
  | purchaseOrderEdit (status : PoStatus) (changes : List FieldChange)

/-- The columns of `integration_events`. -/
structure Event where
  eventType : EventType
  aggregateType : AggregateType
  aggregateId : ℕ
  warehouseId : ℕ
  sourceTxnId : String
  payload : EventPayload

/-- The columns of `integration_events_idempotency_key`. -/
@[ext]
structure EventKey where
  aggregateType : AggregateType
  aggregateId : ℕ
  eventType : EventType
  sourceTxnId : String
deriving DecidableEq

/-- The unique columns of an event. -/
def Event.key (event : Event) : EventKey where
  aggregateType := event.aggregateType
  aggregateId := event.aggregateId
  eventType := event.eventType
  sourceTxnId := event.sourceTxnId

/-- `_mint_source_txn_id`, with what `uuid.uuid4()` would return. -/
def mintSourceTxnId (xRequestId : Option String) (uuid4 : String) : String :=
  let inbound := PyText.strip (xRequestId.getD "").toList
  if inbound.isEmpty then uuid4
  else
    match PyText.parseUuid inbound with
    | some value => PyText.uuidText value
    | none => uuid4

/-! ## Changes -/

/-- What a request changes. A ship names the status that the order had, and a line edit
the ordered quantity that it read and the one that it left, if there is a line. -/
inductive Change where
  | packCompletion (soId : ℕ)
  | ship (soId : ℕ) (preShipStatus : SoStatus)
  | voidShip (soId : ℕ)
  | purchaseOrderLineEdit (poId : ℕ) (before after : Option ℤ)
  | purchaseOrderHeaderEdit (poId : ℕ) (changes : List FieldChange)

def Change.aggregate : Change → AggregateType × ℕ
  | .packCompletion soId | .ship soId _ | .voidShip soId => (.salesOrder, soId)
  | .purchaseOrderLineEdit poId _ _ | .purchaseOrderHeaderEdit poId _ => (.purchaseOrder, poId)

def Change.eventType : Change → EventType
  | .packCompletion _ => .packConfirmed
  | .ship _ _ => .shipConfirmed
  | .voidShip _ => .shipVoided
  | .purchaseOrderLineEdit _ _ _ | .purchaseOrderHeaderEdit _ _ => .purchaseOrderEditCompleted

/-- A change that its request announces: not the repair of an order that was SHIPPED
already, and no edit that leaves what it read. -/
def Change.announced : Change → Bool
  | .ship _ preShipStatus => preShipStatus != .shipped
  | .purchaseOrderLineEdit _ before after => before != after
  | .purchaseOrderHeaderEdit _ changes => !changes.isEmpty
  | _ => true

structure RequestedChange where
  change : Change
  sourceTxnId : String

def RequestedChange.key (requested : RequestedChange) : EventKey where
  aggregateType := requested.change.aggregate.1
  aggregateId := requested.change.aggregate.2
  eventType := requested.change.eventType
  sourceTxnId := requested.sourceTxnId

/-! ## The tables -/

/-- The columns of `sales_orders` that never change. -/
structure OrderColumns where
  soNumber : String
  warehouseId : ℕ
  orderType : OrderType

/-- The columns of `sales_orders` that ships write. -/
structure OrderState where
  status : SoStatus
  trackingNumber : Option String
  shipMethod : Option String

/-- The columns of `sales_order_lines` that never change. -/
structure LineColumns where
  soId : ℕ
  itemId : ℕ

structure LineQuantities where
  ordered : ℤ
  picked : ℤ
  packed : ℤ
  shipped : ℤ

/-- The columns of `pick_tasks` but for the status. -/
structure TaskColumns where
  soId : ℕ
  soLineId : ℕ
  itemId : ℕ
  binId : ℕ

/-- The columns of `purchase_orders` that are edited. -/
structure PoHeader where
  status : PoStatus
  poNumber : Option String
  poBarcode : Option String
  vendorName : Option String
  expectedDate : Option String
  notes : Option String

/-- The columns of `purchase_order_lines` that never change. -/
structure PoLineColumns where
  poId : ℕ
  itemId : ℕ
  lineNumber : ℤ

/-- The quantities and the status of a line of a purchase order. -/
structure PoLineState where
  ordered : ℤ
  received : ℤ
  status : PoLineStatus

/-- `response_body` of `dockd_idempotency`. -/
inductive Response where
  | shipped (tracking : String) (fulfillmentId : ℕ)
  | voided (revertedToStatus : SoStatus)

/-- The tables beside `integration_events`. A line of a purchase order that is deleted has
no state. -/
structure Tables where
  appSettings : List (String × String)
  items : Table Item
  bins : Table Bin
  operators : List (String × String)
  orders : Table (Row OrderColumns OrderState)
  orderLines : Table (Row LineColumns LineQuantities)
  pickTasks : Table (Row TaskColumns TaskStatus)
  shortWaveLines : List ℕ
  fulfillments : Table (Row FulfillmentColumns FulfillmentStatus)
  idempotency : Table (Row IdempotencyColumns (Option Response))
  purchaseOrders : Table (Row ℕ PoHeader)
  purchaseOrderLines : Table (Row PoLineColumns (Option PoLineState))

structure Database where
  tables : Tables
  events : Table (Row Event Unit)

/-! ## Statements -/

/-- The header fields of `UpdatePurchaseOrderRequest` that were sent, and the status. -/
structure HeaderEdit where
  poNumber : Option (Option String)
  poBarcode : Option (Option String)
  vendorName : Option (Option String)
  expectedDate : Option (Option String)
  notes : Option (Option String)
  status : Option PoStatus

inductive OrderUpdate where
  | setStatus (status : SoStatus)
  | shipped (trackingNumber shipMethod : Option String)
  | voided (preShipStatus : SoStatus)
  | header (trackingNumber shipMethod : Option (Option String))

/-- The order after it. A ship without a method keeps the one that is there, and the void
of the repair of a SHIPPED order keeps what the repair did not write. -/
def OrderUpdate.apply (update : OrderUpdate) (state : OrderState) : OrderState :=
  match update with
  | .setStatus status => { state with status }
  | .shipped trackingNumber shipMethod =>
      { status := .shipped, trackingNumber, shipMethod := shipMethod.or state.shipMethod }
  | .voided .shipped => { state with status := .shipped }
  | .voided preShipStatus => { state with status := preShipStatus, trackingNumber := none }
  | .header trackingNumber shipMethod =>
      { state with
        trackingNumber := trackingNumber.getD state.trackingNumber
        shipMethod := shipMethod.getD state.shipMethod }

/-- The statements on the tables beside `integration_events`. Both selections of an order
lock it. The last one is what other requests do. -/
inductive Query where
  | order (soId : ℕ) (warehouseIds : Option (List ℕ))
  | orderByNumber (soNumber : String) (tokenWarehouseIds : List ℕ)
  | requirePacking
  | unverifiedLines (soId : ℕ)
  | silentShortfall (soId : ℕ)
  | missingBin (soId : ℕ)
  | shippableLines (soId : ℕ)
  | unbooked (soId warehouseId : ℕ)
  | hasFulfillment (soId : ℕ)
  | lastShipped (soId : ℕ)
  | insertFulfillment (soId : ℕ) (preShipStatus : Option SoStatus)
  | shipLines (soId : ℕ) (onlyUnshipped : Bool)
  | unshipLines (soId : ℕ)
  | updateOrder (soId : ℕ) (update : OrderUpdate)
  | voidFulfillment (fulfillmentId : ℕ)
  | cachedRow (request : DockdRequest)
  | operatorExternalId (username : String)
  | claimKey (request : DockdRequest)
  | cacheResponse (request : DockdRequest) (response : Response)
  | purchaseOrder (poId : ℕ)
  | purchaseOrderLine (poId poLineId : ℕ)
  | itemById (itemId : ℕ)
  | itemOnOrder (poId itemId : ℕ)
  | nextLineNumber (poId : ℕ)
  | insertLine (columns : PoLineColumns) (quantityOrdered : ℤ)
  | setOrdered (poLineId : ℕ) (quantityOrdered : ℤ)
  | deleteLine (poLineId : ℕ)
  | deriveLineStatuses (poId : ℕ)
  | linesOf (poId : ℕ)
  | setPoStatus (poId : ℕ) (status : PoStatus)
  | editHeader (poId : ℕ) (edit : HeaderEdit)
  | elsewhere (write : Tables → Tables)

/-- What a statement on the tables returns. -/
def Query.Answer : Query → Type
  | .order _ _ => Option (ℕ × OrderColumns × OrderState)
  | .orderByNumber _ _ => Option (ℕ × OrderColumns × OrderState)
  | .requirePacking => Bool
  | .unverifiedLines _ => ℕ
  | .silentShortfall _ => List SilentlyShort
  | .missingBin _ => Option ℕ
  | .shippableLines _ => List ℕ
  | .unbooked _ _ => Bool
  | .hasFulfillment _ => Bool
  | .lastShipped _ => Option (ℕ × FulfillmentColumns × FulfillmentStatus)
  | .insertFulfillment _ _ => ℕ
  | .cachedRow _ => Option (IdempotencyColumns × Option Response)
  | .operatorExternalId _ => Option String
  | .claimKey _ => Bool
  | .purchaseOrder _ => Option (ℕ × PoHeader)
  | .purchaseOrderLine _ _ => Option (String × PoLineState)
  | .itemById _ => Option Item
  | .itemOnOrder _ _ => Bool
  | .nextLineNumber _ => ℤ
  | .insertLine _ _ => ℕ
  | .linesOf _ => List PoLineState
  | _ => Unit

/-- A statement: on one of the other tables, or the insert of `emit_event`. -/
inductive Statement where
  | table (query : Query)
  | emitEvent (event : Event)

def Answer : Statement → Type
  | .table query => query.Answer
  | .emitEvent _ => Option ℕ

/-- Why a purchase order is not edited. -/
inductive PoEditError where
  | orderNotFound
  | cannotAddLines (status : PoStatus)
  | cannotEditLines (status : PoStatus)
  | cannotRemoveLines (status : PoStatus)
  | itemNotFound (itemId : ℕ)
  | itemOnOrder (sku : String)
  | lineNotFound
  | belowReceived (quantityOrdered quantityReceived : ℤ)
  | hasReceipts (quantityReceived : ℤ)
  | notClosed
  | headerLocked (status : PoStatus)
  | noValidFields

/-- Why packing is not completed. -/
inductive PackError where
  | orderNotFound
  | notReady (status : SoStatus)
  | unverified (lines : ℕ)
  | underPicked (lines : List SilentlyShort)

/-- Why a request is refused. -/
inductive Refusal where
  | pack (error : PackError)
  | ship (error : ShipError)
  | dockd (refusal : DockdRefusal)
  | salesOrderNotFound
  | purchaseOrder (error : PoEditError)

/-- How a request ends. -/
inductive Reply where
  | refused (refusal : Refusal)
  | replayed (response : Option Response)
  | done (requested : RequestedChange)
  | edited
  | elsewhere

/-- A request of these kinds. -/
abbrev OutboxProgram := Program Statement Answer Reply

def query (statement : Query) (next : statement.Answer → OutboxProgram) : OutboxProgram :=
  .exec (.table statement) next

/-- Roll back and refuse. -/
def refuse (refusal : Refusal) : OutboxProgram :=
  .reply false (.refused refusal)

/-- `emit_event`. No caller looks at what it returns. -/
def emitEvent (event : Event) (next : OutboxProgram) : OutboxProgram :=
  .exec (.emitEvent event) fun _ => next

def commit (change : Change) (sourceTxnId : String) : OutboxProgram :=
  .reply true (.done ⟨change, sourceTxnId⟩)

end SentryWms.Outbox
