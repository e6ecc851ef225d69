import SentryWms.Picking.Complete
import SentryWms.Shipping.Ship

/-!
# Picking an order from the admin screen

`record_admin_pick` of `sales_order_service.py`: an administrator says from which
bins the lines of an OPEN order were picked. The picks take available stock only, and
a batch that is complete from the start keeps a picked task for each of them.
-/

namespace SentryWms

open Relational

/-! ## Requests and refusals -/

/-- `AdminPickLineEntry`. -/
structure AdminPickEntry where
  soLineId : ℕ
  binId : ℕ
  quantity : ℤ
  quantityPos : 0 < quantity

inductive AdminPickError where
  | soNotFound (soId : ℕ)
  | notEligible (orderType : OrderType)
  | soNotOpen (currentStatus : SoStatus)
  | empty
  | lineNotOnSo (soId : ℕ) (missingLineIds : List ℕ)
  | overPick (soLineId : ℕ) (requested remaining : ℤ)
  | binNotFound (binId : ℕ)
  | binWrongWarehouse (binId binWarehouse soId soWarehouse : ℕ)
  | insufficientAvailable (soLineId binId : ℕ) (requested : ℤ)

/-! ## Checking the entries -/

/-- `by_line[so_line_id] = by_line.get(so_line_id, 0) + quantity`. -/
def addToLine (soLineId : ℕ) (quantity : ℤ) : List (ℕ × ℤ) → List (ℕ × ℤ)
  | [] => [(soLineId, quantity)]
  | (soLineId', total) :: rest =>
      if soLineId' = soLineId then (soLineId', total + quantity) :: rest
      else (soLineId', total) :: addToLine soLineId quantity rest

/-- `by_line`: what the entries ask of each line together. -/
def byLine (picks : List AdminPickEntry) : List (ℕ × ℤ) :=
  picks.foldl (fun totals pick => addToLine pick.soLineId pick.quantity totals) []

/-- `line_by_id`: the lines of the order that the entries name. -/
def Store.lineById (store : Store) (soId : ℕ) (picks : List AdminPickEntry) :
    List (ℕ × SalesOrderLine) :=
  store.salesOrderLines.entries.filter fun entry =>
    entry.2.soId == soId && picks.any fun pick => pick.soLineId == entry.1

def checkAdminLines (soId : ℕ) (lines : List (ℕ × SalesOrderLine))
    (totals : List (ℕ × ℤ)) : Except AdminPickError Unit :=
  let missing := (totals.map Prod.fst).filter fun soLineId =>
    (lines.lookup soLineId).isNone
  if ¬ missing.isEmpty then .error (.lineNotOnSo soId missing)
  else
    totals.forM fun (soLineId, requested) =>
      match lines.lookup soLineId with
      | none => .ok ()
      | some line =>
          let remaining := line.quantityOrdered - line.quantityPicked
          if remaining < requested then .error (.overPick soLineId requested remaining)
          else .ok ()

/-- Every bin exists and lies in the warehouse of the order. -/
def checkAdminBins (store : Store) (soId warehouseId : ℕ)
    (picks : List AdminPickEntry) : Except AdminPickError Unit :=
  ((picks.map AdminPickEntry.binId).dedup.insertionSort (· ≤ ·)).forM fun binId =>
    match store.bins.get? binId with
    | none => .error (.binNotFound binId)
    | some bin =>
        if bin.warehouseId ≠ warehouseId then
          .error (.binWrongWarehouse binId bin.warehouseId soId warehouseId)
        else .ok ()

/-! ## Recording the picks -/

def Inventory.offers (itemId binId : ℕ) (quantity : ℤ) (row : Inventory) : Bool :=
  row.inBin itemId binId && decide (quantity ≤ row.available)

def Store.takeAvailable (store : Store) (itemId binId : ℕ) (quantity : ℤ) : Store :=
  { store with
    inventory := store.inventory.updateWhere (Inventory.offers itemId binId quantity)
      fun row =>
        { row with
          quantityOnHand := row.quantityOnHand - quantity, updatedAt := store.now } }

/-- Count a pick on its line; what is allocated stays above what is picked. -/
def SalesOrderLine.adminPick (quantity : ℤ) (line : SalesOrderLine) : SalesOrderLine :=
  { line with
    quantityPicked := line.quantityPicked + quantity
    quantityAllocated := max line.quantityAllocated (line.quantityPicked + quantity) }

/-- One turn of the loop of `record_admin_pick`, with the number of the entry. -/
def adminPickEntry (soId batchId : ℕ) (lines : List (ℕ × SalesOrderLine))
    (state : Store × ℤ) (pick : AdminPickEntry) : Except AdminPickError (Store × ℤ) :=
  match lines.lookup pick.soLineId with
  | none => .error (.lineNotOnSo soId [pick.soLineId])
  | some line =>
      let (store, seq) := state
      if store.inventory.entries.any fun entry =>
          entry.2.offers line.itemId pick.binId pick.quantity then
        let taken := store.takeAvailable line.itemId pick.binId pick.quantity
        .ok
          ({ taken with
              salesOrderLines := taken.salesOrderLines.modify pick.soLineId
                (SalesOrderLine.adminPick pick.quantity)
              pickTasks := taken.pickTasks.insert
                { batchId, target := .salesOrder soId (some pick.soLineId),
                  itemId := line.itemId, binId := pick.binId,
                  quantityToPick := pick.quantity, quantityPicked := pick.quantity,
                  pickSequence := seq, toteNumber := none, status := .picked } },
            seq + 1)
      else .error (.insufficientAvailable pick.soLineId pick.binId pick.quantity)

/-- Insert the batch of an admin pick with its order. `tote_number` stays null. -/
def insertAdminBatch (store : Store) (soId warehouseId : ℕ) (username : String) : Store :=
  { store with
    pickBatches := store.pickBatches.insert
      { warehouseId, assignedTo := username, status := .completed, totalOrders := 0,
        totalItems := 0 }
    pickBatchOrders := store.pickBatchOrders.insert
      { batchId := store.pickBatches.next, soId, toteNumber := "" } }

def recordAdminPick (store : Store) (soId : ℕ) (picks : List AdminPickEntry)
    (username : String) : Except AdminPickError Store :=
  match store.salesOrders.get? soId with
  | none => .error (.soNotFound soId)
  | some order =>
      if ¬ orderTypeAllowsFulfillmentOps order.orderType then
        .error (.notEligible order.orderType)
      else if order.status ≠ .open then .error (.soNotOpen order.status)
      else if picks.isEmpty then .error .empty
      else do
        let lines := store.lineById soId picks
        checkAdminLines soId lines (byLine picks)
        checkAdminBins store soId order.warehouseId picks
        let picked ← picks.foldlM
          (adminPickEntry soId store.pickBatches.next lines)
          (insertAdminBatch store soId order.warehouseId username, 1)
        .ok picked.1

/-- `admin_pick_sales_order`: the picks, and the promotion of the order if they
complete it. -/
def adminPickSalesOrder (store : Store) (soId : ℕ) (picks : List AdminPickEntry)
    (username : String) (sourceTxnId : Option ℕ) :
    Except AdminPickError (Store × Bool) := do
  let picked ← recordAdminPick store soId picks username
  .ok (maybePromoteSoToPicked picked soId username sourceTxnId)

end SentryWms
