import SentryWms.Receiving.Receive

/-!
# Moving stock between bins

Two routes call `move_inventory`: `transfers.move` and `putaway.confirm`. Both file the
destination row under the warehouse of the source bin; only the first asks whether
the destination lies in it.
-/

namespace SentryWms

open Relational

/-- What the two routes answer when nothing is moved. -/
inductive MoveError where
  | itemNotFound
  | sourceBinNotFound
  | destinationBinNotFound
  | crossWarehouse
  | accessDenied
  | insufficient (error : InsufficientInventory)

/-- `ConfirmPutawayRequest`. -/
structure MoveRequest where
  itemId : ℕ
  fromBinId : ℕ
  toBinId : ℕ
  binsDiffer : fromBinId ≠ toBinId
  quantity : ℤ
  quantityPos : 0 < quantity
  lotNumber : Option String

def findMove (store : Store) (request : MoveRequest) : Except MoveError (Bin × Bin) :=
  match store.items.get? request.itemId with
  | none => .error .itemNotFound
  | some _ =>
      match store.bins.get? request.fromBinId with
      | none => .error .sourceBinNotFound
      | some fromBin =>
          match store.bins.get? request.toBinId with
          | none => .error .destinationBinNotFound
          | some toBin => .ok (fromBin, toBin)

/-- Move the stock in the warehouse of the source bin, with the new quantities. -/
def moveWithin (store : Store) (scope : WarehouseScope) (request : MoveRequest)
    (warehouseId : ℕ) : Except MoveError (Store × ℤ × ℤ) :=
  if ¬ scope.allows warehouseId then .error .accessDenied
  else
    match moveInventory store request.itemId request.fromBinId request.toBinId
        warehouseId request.quantity request.lotNumber with
    | .error error => .error (.insufficient error)
    | .ok moved => .ok moved

/-- `transfers.move`. -/
def move (store : Store) (scope : WarehouseScope) (request : MoveRequest) :
    Except MoveError (Store × ℤ × ℤ) := do
  let (fromBin, toBin) ← findMove store request
  if toBin.warehouseId ≠ fromBin.warehouseId then .error .crossWarehouse
  else moveWithin store scope request fromBin.warehouseId

/-- `putaway.confirm`. The warehouse of the destination is not read. -/
def confirmPutaway (store : Store) (scope : WarehouseScope) (request : MoveRequest) :
    Except MoveError Store := do
  let (fromBin, _) ← findMove store request
  let (moved, _) ← moveWithin store scope request fromBin.warehouseId
  .ok moved

end SentryWms
