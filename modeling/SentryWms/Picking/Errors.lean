import SentryWms.Store.Schema

/-!
# Errors of the picking service

Each exception carries the data its text is built from.
-/

namespace SentryWms

/-- A line of an order that the stock cannot cover. -/
structure UncoveredLine where
  sku : Option String
  ordered : ℤ
  available : ℤ

/-- An order that cannot be picked in full. -/
structure UnpickableOrder where
  soId : ℕ
  soNumber : String
  lines : List UncoveredLine

/-- An order line that was picked short without a mark. -/
structure SilentlyShort where
  soId : ℕ
  sku : String
  ordered : ℤ
  picked : ℤ

/-- What the picking service raises. -/
inductive PickError where
  | salesOrderNotFound (ident : String)
  | salesOrderNotOpen (ident : String) (status : SoStatus)
  | salesOrderInActiveBatch (ident : String) (batchId : ℕ)
  | noSalesOrders
  | duplicateSoIds
  | soNotFound (soId : ℕ)
  | soInDifferentWarehouse (soNumber : String)
  | soNotOpen (soNumber : String) (status : SoStatus)
  | alreadyInBatch (soNumber : String) (batchId : ℕ)
  | soHasNoItems (soNumber : String)
  | insufficientCoverage (unpickable : List UnpickableOrder)
  | duplicateBatchOrder (soId : ℕ)
  | taskNotFound
  | taskNotPending (status : TaskStatus)
  | overTask (quantity toPick : ℤ)
  | availableOverTask (quantity toPick : ℤ)
  | itemMissing (itemId : ℕ)
  | barcodeMismatch (sku : String)
  | pickDeltaNotPositive (delta : ℤ)
  | overPickAttempt (toLineId : Option ℕ) (delta : ℤ)
  | batchNotFound
  | noSuchBatch (batchId : ℕ)
  | tasksPending (count : ℕ)
  | silentlyShort (offenders : List SilentlyShort)

end SentryWms
