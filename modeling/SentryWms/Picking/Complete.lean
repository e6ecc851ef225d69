import SentryWms.Picking.Revert

/-!
# Completing a batch

`complete_batch` of `picking_service.py` and `maybe_promote_so_to_picked` of
`sales_order_service.py`: the two places where an order becomes PICKED. Each
emits `pick.confirmed` into the outbox, where a second event of the same order
and request collapses into the first.
-/

namespace SentryWms

open Relational

/-! ## The outbox -/

def Store.pickedLines (store : Store) (soId : ℕ) : List PickConfirmedLine :=
  (orderBy (fun entry => entry.2.lineNumber)
      (store.salesOrderLines.select fun line => line.soId == soId)).map
    fun entry => { itemId := entry.2.itemId, quantityPicked := entry.2.quantityPicked }

/-- The outbox has a `pick.confirmed` of this order and request. -/
def Store.confirmed (store : Store) (soId sourceTxnId : ℕ) : Bool :=
  store.pickConfirmed.entries.any fun entry =>
    entry.2.soId == soId && entry.2.sourceTxnId == sourceTxnId

/-- `emit_event` for `pick.confirmed`: `ON CONFLICT DO NOTHING`. -/
def emitPickConfirmed (store : Store) (soId warehouseId sourceTxnId : ℕ)
    (username : String) : Store :=
  if store.confirmed soId sourceTxnId then store
  else
    { store with
      pickConfirmed := store.pickConfirmed.insert
        { soId, sourceTxnId, warehouseId, lines := store.pickedLines soId,
          completedBy := username, completedAt := store.now } }

/-! ## The under-picked guard -/

def Store.shortMarked (store : Store) (soLineId : ℕ) : Bool :=
  (store.pickTasks.entries.any fun entry =>
      entry.2.target.soLineId == some soLineId && entry.2.status == .short) ||
    (store.wavePickBreakdown.entries.any fun entry =>
      entry.2.soLineId == some soLineId && decide (0 < entry.2.shortQuantity))

def Store.listsOrder (store : Store) (batchId soId : ℕ) : Bool :=
  store.pickBatchOrders.entries.any fun entry =>
    entry.2.batchId == batchId && entry.2.soId == soId

def Store.silentlyShort (store : Store) (batchId : ℕ) : List SilentlyShort :=
  (orderBy (fun entry => toLex (entry.2.soId, entry.1))
      (store.salesOrderLines.entries.filter fun entry =>
        store.listsOrder batchId entry.2.soId &&
          decide (entry.2.quantityPicked < entry.2.quantityOrdered) &&
          !store.shortMarked entry.1)).map
    fun entry =>
      { soId := entry.2.soId,
        sku := ((store.items.get? entry.2.itemId).map Item.sku).getD "",
        ordered := entry.2.quantityOrdered, picked := entry.2.quantityPicked }

/-! ## Completion -/

def Store.setOrderStatus (store : Store) (soId : ℕ) (status : SoStatus) : Store :=
  { store with
    salesOrders := store.salesOrders.modify soId fun order =>
      { order with status } }

/-- Flip one order of a batch to PICKED, whatever its status is, and announce it
when the call comes from a request. -/
def completeOrder (sourceTxnId : Option ℕ) (username : String) (store : Store)
    (entry : ℕ × SalesOrder) : Store :=
  let picked := store.setOrderStatus entry.1 .picked
  match sourceTxnId with
  | none => picked
  | some sourceTxnId =>
      emitPickConfirmed picked entry.1 entry.2.warehouseId sourceTxnId username

def Store.batchSalesOrders (store : Store) (batchId : ℕ) : List (ℕ × SalesOrder) :=
  (store.pickBatchOrders.select fun row => row.batchId == batchId).filterMap
    fun entry => (store.salesOrders.get? entry.2.soId).map fun order =>
      (entry.2.soId, order)

def Store.batchTransferOrders (store : Store) (batchId : ℕ) : List ℕ :=
  ((store.batchTasks batchId).filterMap fun entry =>
    match entry.2.target with
    | .salesOrder _ _ => none
    | .transferOrder toId _ => some toId).dedup

/-- Submit the picks of a transfer order; a refusal changes nothing. -/
def trySubmitPicks (username : String) (store : Store) (toId : ℕ) : Store :=
  match submitPicks store toId username with
  | .error _ => store
  | .ok (submitted, _) => submitted

/-- `complete_batch`. The status of the batch is not looked at. -/
def completeBatch (store : Store) (batchId : ℕ) (username : String)
    (sourceTxnId : Option ℕ) : Except PickError Store :=
  match store.pickBatches.get? batchId with
  | none => .error .batchNotFound
  | some _ =>
      let pending := (store.batchTasks batchId).filter fun entry =>
        entry.2.status == .pending
      if ¬ pending.isEmpty then .error (.tasksPending pending.length)
      else
        match store.silentlyShort batchId with
        | first :: rest => .error (.silentlyShort (first :: rest))
        | [] =>
            let completed := store.setBatchStatus batchId .completed
            let picked := (completed.batchSalesOrders batchId).foldl
              (completeOrder sourceTxnId username) completed
            .ok ((picked.batchTransferOrders batchId).foldl
              (trySubmitPicks username) picked)

/-! ## Promotion without a batch -/

/-- `maybe_promote_so_to_picked`, with whether the order was promoted. -/
def maybePromoteSoToPicked (store : Store) (soId : ℕ) (username : String)
    (sourceTxnId : Option ℕ) : Store × Bool :=
  let short := store.salesOrderLines.select fun line =>
    line.soId == soId && decide (line.quantityPicked < line.quantityOrdered)
  if ¬ short.isEmpty then (store, false)
  else
    match store.salesOrders.get? soId with
    | none => (store, false)
    | some order =>
        if order.status ≠ .open then (store, false)
        else (completeOrder sourceTxnId username store (soId, order), true)

end SentryWms
