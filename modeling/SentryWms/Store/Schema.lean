import SentryWms.Core.Table

/-!
# The database

The rows of `src/db/schema.sql` that the stock, picking, transfer-order and
sales-order services read or write, and the store that holds their tables.
Quantities are signed because the columns are plain integers without a floor;
columns that no modelled function reads are left out.
-/

namespace SentryWms

open Relational

/-! ## Enumerations -/

inductive BinType where
  | pickable
  | pickableStaging
  | staging
deriving DecidableEq

/-- `sales_orders.status`, with the return lifecycle of RMA orders. -/
inductive SoStatus where
  | open
  | picked
  | packed
  | shipped
  | cancelled
  | refunded
  | fraudReview
  | waitingStock
  | partiallyReceived
  | received
  | closed
deriving DecidableEq

/-- `sales_orders.order_type`. -/
inductive OrderType where
  | sale
  | refund
  | backorder
  | replacement
  | exchange
  | return
deriving DecidableEq

/-- `sales_orders.order_source`. -/
inductive OrderSource where
  | web
  | pos
deriving DecidableEq

/-- `payment_summary.method`. -/
inductive PaymentMethod where
  | card
  | cash
  | split
deriving DecidableEq

/-- `purchase_orders.status`. -/
inductive PoStatus where
  | open
  | partiallyReceived
  | received
  | closed
  | archived
deriving DecidableEq

/-- `purchase_order_lines.status`. -/
inductive PoLineStatus where
  | pending
  | partiallyReceived
  | received
deriving DecidableEq

/-- `item_fulfillments.status`. -/
inductive FulfillmentStatus where
  | shipped
  | voided
deriving DecidableEq

/-- `pick_batches.status`. -/
inductive BatchStatus where
  | open
  | inProgress
  | completed
  | cancelled
deriving DecidableEq

/-- `pick_tasks.status`. -/
inductive TaskStatus where
  | pending
  | picked
  | short
  | skipped
  | released
deriving DecidableEq

/-- `transfer_orders.status`. -/
inductive ToStatus where
  | open
  | partiallyPicked
  | awaitingApproval
  | approved
  | closed
  | cancelled
deriving DecidableEq

/-- `transfer_order_lines.status`. -/
inductive ToLineStatus where
  | pending
  | partiallyPicked
  | picked
  | approved
  | shortClosed
deriving DecidableEq

/-- `transfer_order_approvals.status`. -/
inductive ToApprovalStatus where
  | pending
  | approved
  | rejected
deriving DecidableEq

/-! ## Rows -/

/-- A row of `warehouses`. -/
structure Warehouse where
  warehouseCode : String
  isActive : Bool
deriving DecidableEq

/-- A row of `items`. -/
structure Item where
  sku : String
  upc : Option String
  barcodeAliases : List String
  isActive : Bool := true
  mpn : Option String := none
deriving DecidableEq

/-- A row of `bins`. -/
structure Bin where
  warehouseId : ℕ
  binCode : String
  binType : BinType
  pickSequence : ℤ
  isActive : Bool := true
deriving DecidableEq

/-- A row of `inventory`: what one bin holds of one item under one lot. -/
structure Inventory where
  itemId : ℕ
  binId : ℕ
  warehouseId : ℕ
  quantityOnHand : ℤ
  quantityAllocated : ℤ
  lotNumber : Option String
  updatedAt : ℕ
deriving DecidableEq

/-- A row of `purchase_orders`. -/
structure PurchaseOrder where
  warehouseId : ℕ
  status : PoStatus
deriving DecidableEq

/-- A row of `purchase_order_lines`. -/
structure PurchaseOrderLine where
  poId : ℕ
  itemId : ℕ
  lineNumber : ℤ
  quantityOrdered : ℤ
  quantityReceived : ℤ
  status : PoLineStatus

/-- The line a receipt is booked against: one of a purchase order, or one of a return
order. -/
inductive ReceiptSource where
  | purchaseOrder (poId poLineId : ℕ)
  | salesOrder (soId soLineId : ℕ)

/-- A row of `item_receipts`. -/
structure ItemReceipt where
  source : ReceiptSource
  itemId : ℕ
  quantityReceived : ℤ
  binId : ℕ
  warehouseId : ℕ
  lotNumber : Option String
  externalId : String

/-- A row of `mobile_stock_entries`. -/
structure MobileStockEntry where
  idempotencyKey : String
  itemId : ℕ
  binId : ℕ
  warehouseId : ℕ
  quantity : ℤ

structure CachedRefund where
  refundSoId : String
  originalSoId : String
  fullyRefunded : Bool
deriving DecidableEq

/-- What a checkout or refund leaves on its order to answer retries:
`idempotency_key`, `idempotency_body_hash` and `cached_response_body`. Of the
response of a checkout the order number is all that varies. -/
structure Idempotency where
  key : String
  bodyHash : String
  cachedResponse : Option String
  cachedRefund : Option CachedRefund := none
deriving DecidableEq

/-- A row of `sales_orders`. -/
structure SalesOrder where
  soNumber : String
  soBarcode : Option String
  status : SoStatus
  warehouseId : ℕ
  orderType : OrderType
  parentSoId : Option ℕ
  cancellationReason : Option String
  idempotency : Option Idempotency := none
  shippedAt : Option ℕ := none
  createdAt : ℕ := 0
  orderSource : OrderSource := .web
  refundedAt : Option ℕ := none
  refundSoId : Option ℕ := none
  voidedAt : Option ℕ := none
deriving DecidableEq

/-- A row of `sales_order_lines`. -/
structure SalesOrderLine where
  soId : ℕ
  itemId : ℕ
  lineNumber : ℤ
  quantityOrdered : ℤ
  quantityAllocated : ℤ
  quantityPicked : ℤ
  quantityPacked : ℤ := 0
  quantityShipped : ℤ := 0
  quantityReceived : ℤ := 0

/-- A line of a sale as the audit log keeps it: by the codes of the request. -/
structure SaleLine where
  sku : String
  warehouseCode : String
  binCode : String
  quantity : ℤ
deriving DecidableEq

/-- A `POS_CHECKOUT` row of `audit_log`. -/
structure PosCheckout where
  soId : ℕ
  paymentMethod : PaymentMethod
  lines : List SaleLine
deriving DecidableEq

/-- A row of `item_fulfillments`. -/
structure ItemFulfillment where
  soId : ℕ
  status : FulfillmentStatus
  preShipStatus : Option SoStatus
  shippedAt : ℕ

/-- A row of `pick_batches`. -/
structure PickBatch where
  warehouseId : ℕ
  assignedTo : String
  status : BatchStatus
  totalOrders : ℕ
  totalItems : ℤ

/-- A row of `pick_batch_orders`. -/
structure PickBatchOrder where
  batchId : ℕ
  soId : ℕ
  toteNumber : String

/-- The line a pick task serves: the check `pick_tasks_target_xor` lets it name
a sales order or a transfer order, never both. The line pointer is set to null
when the line is deleted. -/
inductive PickTarget where
  | salesOrder (soId : ℕ) (soLineId : Option ℕ)
  | transferOrder (toId : ℕ) (toLineId : Option ℕ)
deriving DecidableEq

/-- A row of `pick_tasks`. -/
structure PickTask where
  batchId : ℕ
  target : PickTarget
  itemId : ℕ
  binId : ℕ
  quantityToPick : ℤ
  quantityPicked : ℤ
  pickSequence : ℤ
  toteNumber : Option String
  status : TaskStatus
deriving DecidableEq

/-- A row of `wave_pick_breakdown`: the part of a wave task that serves one
sales-order line. -/
structure WavePickBreakdown where
  pickTaskId : ℕ
  soId : ℕ
  soLineId : Option ℕ
  quantity : ℤ
  quantityPicked : ℤ
  shortQuantity : ℤ

/-- A row of `transfer_orders`, with the check that its two warehouses differ. -/
structure TransferOrder where
  toNumber : String
  sourceWarehouseId : ℕ
  destinationWarehouseId : ℕ
  status : ToStatus
  createdBy : String
  warehousesDistinct : sourceWarehouseId ≠ destinationWarehouseId

/-- A row of `transfer_order_lines`, with the checks of the table. -/
structure TransferOrderLine where
  toId : ℕ
  itemId : ℕ
  lineNumber : ℤ
  requestedQty : ℤ
  committedQty : ℤ
  pickedQty : ℤ
  approvedQty : ℤ
  status : ToLineStatus
  requestedPos : 0 < requestedQty
  approvedNonneg : 0 ≤ approvedQty
  approvedLePicked : approvedQty ≤ pickedQty
  pickedLeCommitted : pickedQty ≤ committedQty
  committedLeRequested : committedQty ≤ requestedQty
deriving DecidableEq

/-- One line of the `lines_snapshot` document of an approval. -/
structure SnapshotLine where
  toLineId : ℕ
  itemId : ℕ
  pickedInSnapshot : ℤ

/-- A row of `transfer_order_approvals`. -/
structure TransferOrderApproval where
  toId : ℕ
  submittedBy : String
  approvedBy : Option String
  rejectionReason : Option String
  linesSnapshot : List SnapshotLine
  status : ToApprovalStatus

/-- The `lines` entry of a `pick.confirmed` payload. -/
structure PickConfirmedLine where
  itemId : ℕ
  quantityPicked : ℤ
deriving DecidableEq

/-- A `pick.confirmed` row of `integration_events`. The pair of aggregate and
source transaction is the idempotency key of the outbox. -/
structure PickConfirmed where
  soId : ℕ
  sourceTxnId : ℕ
  warehouseId : ℕ
  lines : List PickConfirmedLine
  completedBy : String
  completedAt : ℕ
deriving DecidableEq

/-! ## The store -/

/-- The tables, the application settings, and the time of the current
transaction. -/
structure Store where
  warehouses : Table Warehouse := .empty
  items : Table Item := .empty
  bins : Table Bin := .empty
  inventory : Table Inventory := .empty
  purchaseOrders : Table PurchaseOrder := .empty
  purchaseOrderLines : Table PurchaseOrderLine := .empty
  itemReceipts : Table ItemReceipt := .empty
  mobileStockEntries : Table MobileStockEntry := .empty
  salesOrders : Table SalesOrder := .empty
  salesOrderLines : Table SalesOrderLine := .empty
  itemFulfillments : Table ItemFulfillment := .empty
  posCheckouts : Table PosCheckout := .empty
  pickBatches : Table PickBatch := .empty
  pickBatchOrders : Table PickBatchOrder := .empty
  pickTasks : Table PickTask := .empty
  wavePickBreakdown : Table WavePickBreakdown := .empty
  transferOrders : Table TransferOrder := .empty
  transferOrderLines : Table TransferOrderLine := .empty
  transferOrderApprovals : Table TransferOrderApproval := .empty
  pickConfirmed : Table PickConfirmed := .empty
  appSettings : List (String × String) := []
  now : ℕ := 0

end SentryWms
