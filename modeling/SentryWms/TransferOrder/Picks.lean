import SentryWms.Core.Transition
import SentryWms.Picking.Errors

/-!
# Picks of a transfer order

The part of `transfer_order_service.py` that the picking service calls: a pick
raises the picked quantity of a line up to what was committed, and a submit
takes a snapshot of the picked and not yet approved quantities for an admin.
-/

namespace SentryWms

open Relational

/-! ## Picking a line -/

/-- The line after a pick within the committed quantity. -/
def TransferOrderLine.pick (line : TransferOrderLine) (delta : ℤ)
    (hdelta : 0 < delta) (hcap : line.pickedQty + delta ≤ line.committedQty) :
    TransferOrderLine :=
  { line with
    pickedQty := line.pickedQty + delta
    status :=
      if line.pickedQty + delta = line.committedQty then .picked
      else .partiallyPicked
    approvedLePicked := by
      have hle := line.approvedLePicked
      omega
    pickedLeCommitted := hcap }

/-- The line can still be picked: `status IN ('PENDING', 'PARTIALLY_PICKED')`. -/
def TransferOrderLine.pickable (line : TransferOrderLine) : Bool :=
  line.status == .pending || line.status == .partiallyPicked

/-- `update_transfer_order_line_picked`, with the row it returns. -/
def updateTransferOrderLinePicked (store : Store) (toLineId : Option ℕ)
    (delta : ℤ) : Except PickError (Store × TransferOrderLine) :=
  if hdelta : delta ≤ 0 then .error (.pickDeltaNotPositive delta)
  else
    match toLineId with
    | none => .error (.overPickAttempt none delta)
    | some lineId =>
        match store.transferOrderLines.get? lineId with
        | none => .error (.overPickAttempt lineId delta)
        | some line =>
            if hcap : line.pickedQty + delta ≤ line.committedQty ∧
                line.pickable = true then
              let picked := line.pick delta (Int.lt_of_not_ge hdelta) hcap.1
              .ok ({ store with
                transferOrderLines :=
                  store.transferOrderLines.modify lineId fun _ => picked }, picked)
            else .error (.overPickAttempt lineId delta)

def maybePromoteHeaderToPartiallyPicked (store : Store) (toId : ℕ) : Store :=
  { store with
    transferOrders := store.transferOrders.modify toId fun header =>
      if header.status = .open then { header with status := .partiallyPicked }
      else header }

/-! ## Submitting picks -/

/-- Why a submit did nothing. -/
inductive SubmitRefusal where
  | notFound
  | invalidStatus (currentStatus : ToStatus)
  | nothingPicked

structure Submitted where
  toApprovalId : ℕ
  toStatus : ToStatus
  lineCount : ℕ

def Store.toLines (store : Store) (toId : ℕ) : List (ℕ × TransferOrderLine) :=
  orderBy (fun entry => entry.2.lineNumber)
    (store.transferOrderLines.select fun line => line.toId == toId)

/-- What a submit puts before an admin: `picked_qty - approved_qty` of every line
where that is positive. -/
def Store.submission (store : Store) (toId : ℕ) : List SnapshotLine :=
  ((store.toLines toId).filter fun entry =>
      decide (entry.2.approvedQty < entry.2.pickedQty)).map fun entry =>
    { toLineId := entry.1, itemId := entry.2.itemId,
      pickedInSnapshot := entry.2.pickedQty - entry.2.approvedQty }

/-- The order waits for approval once no line can be picked any more. -/
def Store.submittedStatus (store : Store) (toId : ℕ) : ToStatus :=
  if (store.transferOrderLines.select fun line =>
      line.toId == toId && line.pickable).isEmpty then .awaitingApproval
  else .partiallyPicked

def submitPicks (store : Store) (toId : ℕ) (username : String) :
    Except SubmitRefusal (Store × Submitted) :=
  match store.transferOrders.get? toId with
  | none => .error .notFound
  | some header =>
      if header.status ≠ .partiallyPicked ∧ header.status ≠ .awaitingApproval then
        .error (.invalidStatus header.status)
      else
        match store.submission toId with
        | [] => .error .nothingPicked
        | first :: rest =>
            let newStatus := store.submittedStatus toId
            .ok ({ store with
              transferOrderApprovals := store.transferOrderApprovals.insert
                { toId, submittedBy := username, approvedBy := none,
                  rejectionReason := none, linesSnapshot := first :: rest,
                  status := .pending }
              transferOrders := store.transferOrders.modify toId fun header =>
                { header with status := newStatus } },
              { toApprovalId := store.transferOrderApprovals.next,
                toStatus := newStatus, lineCount := rest.length + 1 })

/-! ## Closure -/

/-- The line needs nothing more before its order closes. -/
def TransferOrderLine.settled (line : TransferOrderLine) : Bool :=
  line.status == .shortClosed ||
    (line.status == .approved && decide (line.approvedQty = line.pickedQty))

def evaluateToClosure (store : Store) (toId : ℕ) : Bool :=
  let lines := store.transferOrderLines.select fun line => line.toId == toId
  !lines.isEmpty && lines.all (fun entry => entry.2.settled) &&
    (store.transferOrderApprovals.select fun approval =>
      approval.toId == toId && approval.status == .pending).isEmpty

end SentryWms
