import SentryWms.Picking.Complete

/-!
# Shipping a sales order

`shipping_service.py` with the routes that call it. A ship inserts one row into
`item_fulfillments`, stamps what was picked as shipped and sets the order to
SHIPPED; a void takes the three back. Stock left its bin at the pick.
-/

namespace SentryWms

open Relational

/-! ## Refusals -/

/-- What the shipping routes answer when nothing is shipped or voided. The last two
are exceptions of the database. -/
inductive ShipError where
  | orderNotFound
  | notPacked (currentStatus : SoStatus)
  | notReady (currentStatus : SoStatus)
  | alreadyShipped
  | notInShippableStatus (currentStatus : SoStatus) (allowedStatuses : List SoStatus)
  | onlyFromPickedOrPacked (currentStatus : SoStatus)
  | trackingRequired
  | underPicked (lines : List SilentlyShort)
  | adminNotFound (soId : ℕ)
  | notEligible (orderType : OrderType)
  | wrongStatus (currentStatus : SoStatus)
  | alreadyFulfilled
  | silentShortfall (lines : List SilentlyShort)
  | nothingToShip
  | noBin (warehouseId : ℕ)
  | notShipped (currentStatus : SoStatus)
  | noShippedFulfillment (currentStatus : SoStatus)
  | binMissing (binId : ℕ)
  | statusNull

/-! ## Recording a ship -/

def requirePackingBeforeShipping (store : Store) : Bool :=
  match store.appSettings.lookup "require_packing_before_shipping" with
  | none => true
  | some value => value != "false"

def detectSilentShortfall (store : Store) (soId : ℕ) : List SilentlyShort :=
  (store.salesOrderLines.entries.filter fun entry =>
      entry.2.soId == soId &&
        decide (entry.2.quantityPicked < entry.2.quantityOrdered) &&
        !store.shortMarked entry.1).map
    fun entry =>
      { soId, sku := ((store.items.get? entry.2.itemId).map Item.sku).getD "",
        ordered := entry.2.quantityOrdered, picked := entry.2.quantityPicked }

def Store.pickedFrom (store : Store) (soId itemId : ℕ) : Option ℕ :=
  (store.pickTasks.entries.find? fun entry =>
    (match entry.2.target with
      | .salesOrder soId' _ => soId' == soId
      | .transferOrder _ _ => false) &&
      entry.2.itemId == itemId &&
      (entry.2.status == .picked || entry.2.status == .short)).map
        fun entry => entry.2.binId

def SalesOrderLine.ship (line : SalesOrderLine) : SalesOrderLine :=
  { line with quantityShipped := line.quantityPicked }

/-- The rows that a ship writes: the fulfillment, the lines that satisfy a
condition, and the header. -/
def Store.writeShip (store : Store) (soId : ℕ) (preShipStatus : Option SoStatus)
    (shippedAt headerShippedAt : ℕ) (cond : SalesOrderLine → Bool) : Store :=
  { store with
    itemFulfillments := store.itemFulfillments.insert
      { soId, status := .shipped, preShipStatus, shippedAt }
    salesOrderLines := store.salesOrderLines.updateWhere
      (fun line => line.soId == soId && cond line) SalesOrderLine.ship
    salesOrders := store.salesOrders.modify soId fun order =>
      { order with status := .shipped, shippedAt := some headerShippedAt } }

/-- `record_ship`. A line whose item no task picked is booked on bin 1. -/
def recordShip (store : Store) (soId : ℕ) (preShipStatus : Option SoStatus)
    (shippedAtOverride : Option ℕ) : Except ShipError Store :=
  match detectSilentShortfall store soId with
  | first :: rest => .error (.underPicked (first :: rest))
  | [] =>
      let bins := (store.salesOrderLines.select fun line =>
          line.soId == soId && decide (0 < line.quantityPicked)).map
        fun entry => (store.pickedFrom soId entry.2.itemId).getD 1
      match bins.find? fun binId => (store.bins.get? binId).isNone with
      | some binId => .error (.binMissing binId)
      | none =>
          let shippedAt := shippedAtOverride.getD store.now
          .ok (store.writeShip soId preShipStatus shippedAt shippedAt
            fun line => decide (0 < line.quantityPicked))

/-! ## The ship routes -/

/-- `fulfill` of `shipping.py`, for a user whose warehouses are given. It does not
keep the status that the order had. -/
def fulfill (store : Store) (inScope : ℕ → Bool) (soId : ℕ) : Except ShipError Store :=
  match store.salesOrders.get? soId with
  | none => .error .orderNotFound
  | some order =>
      if ¬ inScope order.warehouseId then .error .orderNotFound
      else if requirePackingBeforeShipping store then
        if order.status ≠ .packed then .error (.notPacked order.status)
        else recordShip store soId none none
      else if order.status ≠ .picked ∧ order.status ≠ .packed then
        .error (.notReady order.status)
      else recordShip store soId none none

def Store.orderByNumber (store : Store) (tokenWarehouseIds : List ℕ)
    (soNumber : String) : Option (ℕ × SalesOrder) :=
  store.salesOrders.entries.find? fun entry =>
    entry.2.soNumber == soNumber && tokenWarehouseIds.contains entry.2.warehouseId

def allowedStatuses (store : Store) : List SoStatus :=
  if requirePackingBeforeShipping store then [.packed] else [.picked, .packed]

/-- `ship_order` of `dockd.py`. -/
def dockdShip (store : Store) (tokenWarehouseIds : List ℕ) (soNumber : String) :
    Except ShipError Store :=
  match store.orderByNumber tokenWarehouseIds soNumber with
  | none => .error .orderNotFound
  | some (soId, order) =>
      if order.status = .shipped then .error .alreadyShipped
      else if ¬ (allowedStatuses store).contains order.status then
        .error (.notInShippableStatus order.status (allowedStatuses store))
      else recordShip store soId (some order.status) none

def isLocalPickup (shipMethod : Option String) : Bool :=
  shipMethod.any fun shipMethod =>
    decide (1 < (shipMethod.toLower.splitOn "pickup").length)

/-- The ship transition of the order editor in `admin_orders.py`, with the tracking
number and ship method that the edit leaves. An order that is SHIPPED is not shipped
again. -/
def adminEditShip (store : Store) (soId : ℕ) (trackingNumber shipMethod : Option String)
    (shippedAtOverride : Option ℕ) : Except ShipError Store :=
  match store.salesOrders.get? soId with
  | none => .error .orderNotFound
  | some order =>
      if order.status = .shipped then .ok store
      else if order.status ≠ .picked ∧ order.status ≠ .packed then
        .error (.onlyFromPickedOrPacked order.status)
      else if ¬ (trackingNumber.any fun tracking => tracking.trimAscii.toString != "") ∧
          ¬ isLocalPickup shipMethod then
        .error .trackingRequired
      else recordShip store soId (some order.status) shippedAtOverride

/-! ## The corrective ship of an admin -/

def Store.hasFulfillment (store : Store) (soId : ℕ) : Bool :=
  store.itemFulfillments.entries.any fun entry =>
    entry.2.soId == soId && entry.2.status != .voided

def orderTypeAllowsFulfillmentOps (orderType : OrderType) : Bool :=
  orderType != .return

def recordAdminShip (store : Store) (soId : ℕ) (acknowledgeShortfall : Bool) :
    Except ShipError Store :=
  match store.salesOrders.get? soId with
  | none => .error (.adminNotFound soId)
  | some order =>
      if ¬ orderTypeAllowsFulfillmentOps order.orderType then
        .error (.notEligible order.orderType)
      else if order.status ≠ .picked ∧ order.status ≠ .packed ∧
          order.status ≠ .shipped then
        .error (.wrongStatus order.status)
      else if store.hasFulfillment soId then .error .alreadyFulfilled
      else
        match if acknowledgeShortfall then [] else detectSilentShortfall store soId with
        | first :: rest => .error (.silentShortfall (first :: rest))
        | [] =>
            let shippable := store.salesOrderLines.select fun line =>
              line.soId == soId && decide (line.quantityShipped < line.quantityPicked)
            let fallbackBin := store.bins.entries.find? fun entry =>
              entry.2.warehouseId == order.warehouseId && entry.2.isActive
            if shippable.isEmpty then .error .nothingToShip
            else if fallbackBin.isNone ∧ (shippable.any fun entry =>
                (store.pickedFrom soId entry.2.itemId).isNone) then
              .error (.noBin order.warehouseId)
            else
              let shippedAt := order.shippedAt.getD store.now
              .ok (store.writeShip soId (some order.status) shippedAt shippedAt
                fun line => decide (line.quantityShipped < line.quantityPicked))

/-! ## Voiding a ship -/

/-- `record_void_ship`. The status of an order cannot be null. -/
def recordVoidShip (store : Store) (soId fulfillmentId : ℕ)
    (preShipStatus : Option SoStatus) : Except ShipError Store :=
  match preShipStatus with
  | none => .error .statusNull
  | some status =>
      .ok { store with
        salesOrders := store.salesOrders.modify soId fun order =>
          { order with
            status
            shippedAt := if status = .shipped then order.shippedAt else none }
        itemFulfillments := store.itemFulfillments.modify fulfillmentId
          fun fulfillment => { fulfillment with status := .voided }
        salesOrderLines := store.salesOrderLines.updateWhere
          (fun line => line.soId == soId)
          fun line => { line with quantityShipped := 0 } }

def Store.lastShipped (store : Store) (soId : ℕ) : Option (ℕ × ItemFulfillment) :=
  (orderBy (fun entry => toLex (entry.2.shippedAt, entry.1))
    (store.itemFulfillments.select fun fulfillment =>
      fulfillment.soId == soId && fulfillment.status == .shipped)).getLast?

/-- `void_ship` of `dockd.py`. -/
def voidShip (store : Store) (tokenWarehouseIds : List ℕ) (soNumber : String) :
    Except ShipError Store :=
  match store.orderByNumber tokenWarehouseIds soNumber with
  | none => .error .orderNotFound
  | some (soId, order) =>
      if order.status ≠ .shipped then .error (.notShipped order.status)
      else
        match store.lastShipped soId with
        | none => .error (.noShippedFulfillment order.status)
        | some (fulfillmentId, fulfillment) =>
            recordVoidShip store soId fulfillmentId fulfillment.preShipStatus

end SentryWms
