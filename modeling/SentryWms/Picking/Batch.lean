import SentryWms.Picking.Revert

/-!
# Creating a pick batch

`create_pick_batch` and `wave_create` of `picking_service.py`. Both clear the
operator's abandoned batches, check the orders, release the standing
reservations of their lines, and check that the stock covers every line; then
they allocate. A standard batch allocates line by line, a wave item by item with
the takes of one bin distributed over the lines that need the item.
-/

namespace SentryWms

open Relational

/-! ## Reservations -/

def releaseUnits (now : ℕ) (quantity : ℤ) (row : Inventory) : Inventory :=
  { row with
    quantityAllocated := row.quantityAllocated - quantity, updatedAt := now }

def Store.reservedRows (store : Store) (itemId warehouseId : ℕ) : List (ℕ × ℤ) :=
  (store.inventory.select fun row =>
      row.inWarehouse itemId warehouseId && decide (0 < row.quantityAllocated)).map
    fun entry => (entry.1, entry.2.quantityAllocated)

def normalizeLine (warehouseId : ℕ) (store : Store) (entry : ℕ × SalesOrderLine) :
    Store :=
  let remaining := entry.2.quantityAllocated - entry.2.quantityPicked
  { store with
    inventory := store.inventory.applyTakes (releaseUnits store.now)
      (takes remaining (store.reservedRows entry.2.itemId warehouseId))
    salesOrderLines := store.salesOrderLines.modify entry.1 fun line =>
      { line with quantityAllocated := line.quantityPicked } }

def normalizeSoReservations (warehouseId : ℕ) (store : Store) (soId : ℕ) : Store :=
  (store.salesOrderLines.select fun line =>
      line.soId == soId && decide (line.quantityPicked < line.quantityAllocated)).foldl
    (normalizeLine warehouseId) store

/-! ## Coverage -/

/-- What one order line needs of an item. -/
structure Contribution where
  soId : ℕ
  soNumber : String
  soLineId : ℕ
  needed : ℤ

/-- A map from items to contributions, in the order the items were first seen. -/
abbrev CoverageMap := List (ℕ × List Contribution)

/-- `coverage_map.setdefault(item_id, []).append(contribution)`. -/
def CoverageMap.add (itemId : ℕ) (contribution : Contribution) :
    CoverageMap → CoverageMap
  | [] => [(itemId, [contribution])]
  | (itemId', contributions) :: rest =>
      if itemId' = itemId then (itemId', contributions ++ [contribution]) :: rest
      else (itemId', contributions) :: CoverageMap.add itemId contribution rest

/-- The lines of an order that still need stock. -/
def Store.openLines (store : Store) (soId : ℕ) : List (ℕ × SalesOrderLine) :=
  store.salesOrderLines.select fun line =>
    line.soId == soId && decide (line.quantityAllocated < line.quantityOrdered)

def coverageMap (store : Store) (salesOrders : List (ℕ × SalesOrder)) :
    CoverageMap :=
  salesOrders.foldl (fun map order =>
    (store.openLines order.1).foldl (fun map line =>
      map.add line.2.itemId
        { soId := order.1, soNumber := order.2.soNumber, soLineId := line.1,
          needed := line.2.quantityOrdered - line.2.quantityAllocated })
      map) []

/-- A row stock can be picked from, joined with its bin. -/
structure Candidate where
  binId : ℕ
  available : ℤ
  pickSequence : ℤ
  updatedAt : ℕ

def BinType.pickFrom : BinType → Bool
  | .pickable => true
  | .pickableStaging => true
  | .staging => false

/-- Join an inventory row with its bin, if stock can be picked from it. -/
def Store.candidate (store : Store) (itemId warehouseId : ℕ)
    (entry : ℕ × Inventory) : Option (ℕ × Candidate) :=
  match store.bins.get? entry.2.binId with
  | none => none
  | some bin =>
      if entry.2.inWarehouse itemId warehouseId && decide (0 < entry.2.available) &&
          bin.binType.pickFrom then
        some (entry.1,
          { binId := entry.2.binId, available := entry.2.available,
            pickSequence := bin.pickSequence, updatedAt := entry.2.updatedAt })
      else none

/-- The candidate rows of an item, along the pick path and then oldest first. -/
def Store.candidateRows (store : Store) (itemId warehouseId : ℕ) :
    List (ℕ × Candidate) :=
  orderBy (fun entry => toLex (entry.2.pickSequence, entry.2.updatedAt))
    (store.inventory.entries.filterMap (store.candidate itemId warehouseId))

def totalAvailable (rows : List (ℕ × Candidate)) : ℤ :=
  (rows.map fun entry => entry.2.available).sum

/-- `unpickable_by_so.setdefault(so_id, ...)["lines"].append(line)`. -/
def addUncovered (soId : ℕ) (soNumber : String) (line : UncoveredLine) :
    List UnpickableOrder → List UnpickableOrder
  | [] => [{ soId, soNumber, lines := [line] }]
  | entry :: rest =>
      if entry.soId = soId then { entry with lines := entry.lines ++ [line] } :: rest
      else entry :: addUncovered soId soNumber line rest

/-- Walk the contributors of one item and note those the stock does not cover. -/
def coverItem (sku : Option String) (available : ℤ) :
    ℤ → List Contribution → List UnpickableOrder → List UnpickableOrder
  | _, [], unpickable => unpickable
  | cumulative, contribution :: rest, unpickable =>
      if cumulative + contribution.needed ≤ available then
        coverItem sku available (cumulative + contribution.needed) rest unpickable
      else
        coverItem sku available cumulative rest
          (addUncovered contribution.soId contribution.soNumber
            { sku, ordered := contribution.needed,
              available := max 0 (available - cumulative) }
            unpickable)

abbrev LockedRows := List (ℕ × List (ℕ × Candidate))

/-- The contributors in the order of `so_id` and `so_line_id`. -/
def sortContributions (contributions : List Contribution) : List Contribution :=
  contributions.insertionSort fun left right =>
    toLex (left.soId, left.soLineId) ≤ toLex (right.soId, right.soLineId)

/-- `_plan_coverage`: the orders that cannot be covered, and the locked rows. -/
def planCoverage (store : Store) (map : CoverageMap) (warehouseId : ℕ) :
    List UnpickableOrder × LockedRows :=
  map.foldl (fun (unpickable, locked) (itemId, contributions) =>
    let rows := store.candidateRows itemId warehouseId
    let sku := (store.items.get? itemId).map Item.sku
    (coverItem sku (totalAvailable rows) 0 (sortContributions contributions)
      unpickable, locked ++ [(itemId, rows)])) ([], [])

/-! ## Checking the orders -/

/-- An active batch that lists the order: the join of `_active_batch_by_so`. -/
def Store.activeBatch (store : Store) (soId : ℕ) : Option ℕ :=
  (store.pickBatchOrders.entries.find? fun entry =>
      entry.2.soId == soId &&
        ((store.pickBatches.get? entry.2.batchId).any PickBatch.active)).map
    fun entry => entry.2.batchId

/-- Resolve one identifier of `create_pick_batch`; an excluded order resolves to
nothing. -/
def resolveOrder (store : Store) (warehouseId : ℕ) (excludeSoIds : List ℕ)
    (ident : String) : Except PickError (Option (ℕ × SalesOrder)) :=
  match store.salesOrders.entries.find? fun entry =>
      (entry.2.soNumber == ident || entry.2.soBarcode == some ident) &&
        entry.2.warehouseId == warehouseId with
  | none => .error (.salesOrderNotFound ident)
  | some order =>
      if excludeSoIds.contains order.1 then .ok none
      else if order.2.status ≠ .open then
        .error (.salesOrderNotOpen ident order.2.status)
      else
        match store.activeBatch order.1 with
        | some batchId => .error (.salesOrderInActiveBatch ident batchId)
        | none => .ok (some order)

/-- Check one order of `wave_create`. -/
def validateOrder (store : Store) (warehouseId soId : ℕ) :
    Except PickError (ℕ × SalesOrder) :=
  match store.salesOrders.get? soId with
  | none => .error (.soNotFound soId)
  | some order =>
      if order.warehouseId ≠ warehouseId then
        .error (.soInDifferentWarehouse order.soNumber)
      else if order.status ≠ .open then
        .error (.soNotOpen order.soNumber order.status)
      else
        match store.activeBatch soId with
        | some batchId => .error (.alreadyInBatch order.soNumber batchId)
        | none =>
            if (store.salesOrderLines.select fun line => line.soId == soId).isEmpty
            then .error (.soHasNoItems order.soNumber)
            else .ok (soId, order)

/-- A store ready for allocation: the orders are checked, their standing
reservations are released, and the stock covers their lines. -/
structure Prepared where
  store : Store
  salesOrders : List (ℕ × SalesOrder)
  coverage : CoverageMap
  locked : LockedRows

/-- Release the standing reservations of the orders and check the coverage. -/
def prepareCoverage (store : Store) (salesOrders : List (ℕ × SalesOrder))
    (warehouseId : ℕ) : Except PickError Prepared :=
  let store := (salesOrders.map Prod.fst).foldl
    (normalizeSoReservations warehouseId) store
  let coverage := coverageMap store salesOrders
  match planCoverage store coverage warehouseId with
  | ([], locked) => .ok { store, salesOrders, coverage, locked }
  | (first :: rest, _) => .error (.insufficientCoverage (first :: rest))

/-! ## Allocation -/

def reserveUnits (quantity : ℤ) (row : Inventory) : Inventory :=
  { row with quantityAllocated := row.quantityAllocated + quantity }

/-- Raise `quantity_allocated` of an order line. -/
def Store.bumpAllocated (store : Store) (soLineId : ℕ) (quantity : ℤ) : Store :=
  { store with
    salesOrderLines := store.salesOrderLines.modify soLineId fun line =>
      { line with quantityAllocated := line.quantityAllocated + quantity } }

/-- Reserve units of a row of the stock. -/
def Store.reserve (store : Store) (inventoryId : ℕ) (quantity : ℤ) : Store :=
  { store with
    inventory := store.inventory.modify inventoryId (reserveUnits quantity) }

def Store.insertTask (store : Store) (task : PickTask) : Store :=
  { store with pickTasks := store.pickTasks.insert task }

def Store.insertBatch (store : Store) (warehouseId : ℕ) (assignedTo : String) :
    Store :=
  { store with
    pickBatches := store.pickBatches.insert
      { warehouseId, assignedTo, status := .open, totalOrders := 0,
        totalItems := 0 } }

def insertBatchOrders (batchId : ℕ) :
    Store → ℕ → List (ℕ × SalesOrder) → Except PickError Store
  | store, _, [] => .ok store
  | store, index, order :: rest =>
      if store.pickBatchOrders.entries.any fun entry =>
          entry.2.batchId == batchId && entry.2.soId == order.1 then
        .error (.duplicateBatchOrder order.1)
      else
        insertBatchOrders batchId
          { store with
            pickBatchOrders := store.pickBatchOrders.insert
              { batchId, soId := order.1, toteNumber := s!"TOTE-{index}" } }
          (index + 1) rest

def Store.setTotals (store : Store) (batchId totalOrders : ℕ) (totalItems : ℤ) :
    Store :=
  { store with
    pickBatches := store.pickBatches.modify batchId fun batch =>
      { batch with totalOrders, totalItems } }

/-- One take of a standard batch: reserve the units, count them on the line and
create the task. -/
def allocateTake (batchId soId : ℕ) (toteNumber : String)
    (line : ℕ × SalesOrderLine) (store : Store)
    (draw : (ℕ × Candidate) × ℤ) : Store :=
  ((store.reserve draw.1.1 draw.2).bumpAllocated line.1 draw.2).insertTask
    { batchId, target := .salesOrder soId (some line.1), itemId := line.2.itemId,
      binId := draw.1.2.binId, quantityToPick := draw.2, quantityPicked := 0,
      pickSequence := draw.1.2.pickSequence, toteNumber := some toteNumber,
      status := .pending }

def rowTakes (demand : ℤ) (rows : List (ℕ × Candidate)) :
    List ((ℕ × Candidate) × ℤ) :=
  takes demand (rows.map fun row => (row, row.2.available))

def allocateLine (batchId soId : ℕ) (toteNumber : String) (warehouseId : ℕ)
    (store : Store) (line : ℕ × SalesOrderLine) : Store :=
  (rowTakes (line.2.quantityOrdered - line.2.quantityAllocated)
      (store.candidateRows line.2.itemId warehouseId)).foldl
    (allocateTake batchId soId toteNumber line) store

def allocateOrders (batchId warehouseId : ℕ) :
    Store → ℕ → List (ℕ × SalesOrder) → Store
  | store, _, [] => store
  | store, index, order :: rest =>
      allocateOrders batchId warehouseId
        ((store.openLines order.1).foldl
          (allocateLine batchId order.1 s!"TOTE-{index}" warehouseId) store)
        (index + 1) rest

def Store.batchUnits (store : Store) (batchId : ℕ) : ℤ :=
  ((store.batchTasks batchId).map fun entry => entry.2.quantityToPick).sum

def allocateBatch (prepared : Prepared) (warehouseId : ℕ) (username : String) :
    Except PickError (Store × ℕ) := do
  let batchId := prepared.store.pickBatches.next
  let store ← insertBatchOrders batchId
    (prepared.store.insertBatch warehouseId username) 1 prepared.salesOrders
  let store := allocateOrders batchId warehouseId store 1 prepared.salesOrders
  .ok (store.setTotals batchId prepared.salesOrders.length
    (store.batchUnits batchId), batchId)

/-- The checks of `create_pick_batch` before its allocation. -/
def preparePickBatch (store : Store) (soIdentifiers : List String)
    (warehouseId : ℕ) (username : String) (excludeSoIds : List ℕ) :
    Except PickError Prepared := do
  let (store, _) ← cancelPriorUserBatches store username warehouseId
  let resolved ← soIdentifiers.mapM
    (resolveOrder store warehouseId excludeSoIds)
  match resolved.reduceOption with
  | [] => .error .noSalesOrders
  | first :: rest => prepareCoverage store (first :: rest) warehouseId

/-- `create_pick_batch`, with the id of the new batch. -/
def createPickBatch (store : Store) (soIdentifiers : List String)
    (warehouseId : ℕ) (username : String) (excludeSoIds : List ℕ) :
    Except PickError (Store × ℕ) := do
  let prepared ← preparePickBatch store soIdentifiers warehouseId username
    excludeSoIds
  allocateBatch prepared warehouseId username

/-! ## Waves -/

/-- Distribute a take over the contributions in order; each contribution with its
part. -/
def distribute : ℤ → List Contribution → List (Contribution × ℤ)
  | _, [] => []
  | remaining, contribution :: rest =>
      let alloc := max 0 (min remaining contribution.needed)
      (contribution, alloc) :: distribute (remaining - alloc) rest

def stillNeeded (parts : List (Contribution × ℤ)) : List Contribution :=
  parts.map fun part => { part.1 with needed := part.1.needed - part.2 }

def allocatePart (pickTaskId : ℕ) (store : Store) (part : Contribution × ℤ) :
    Store :=
  if part.2 ≤ 0 then store
  else
    Store.bumpAllocated
      { store with
        wavePickBreakdown := store.wavePickBreakdown.insert
          { pickTaskId, soId := part.1.soId, soLineId := some part.1.soLineId,
            quantity := part.2, quantityPicked := 0, shortQuantity := 0 } }
      part.1.soLineId part.2

/-- One take of a wave: reserve the units, create the task under the first
contributor, and break it down over the contributions. -/
def allocateWaveTake (batchId itemId : ℕ) (first : Contribution)
    (state : Store × List Contribution) (draw : (ℕ × Candidate) × ℤ) :
    Store × List Contribution :=
  let parts := distribute draw.2 state.2
  let pickTaskId := state.1.pickTasks.next
  let store := (state.1.reserve draw.1.1 draw.2).insertTask
    { batchId, target := .salesOrder first.soId (some first.soLineId), itemId,
      binId := draw.1.2.binId, quantityToPick := draw.2, quantityPicked := 0,
      pickSequence := draw.1.2.pickSequence, toteNumber := some "WAVE",
      status := .pending }
  (parts.foldl (allocatePart pickTaskId) store, stillNeeded parts)

def LockedRows.of (locked : LockedRows) (itemId : ℕ) : List (ℕ × Candidate) :=
  match locked.find? fun entry => entry.1 == itemId with
  | none => []
  | some entry => entry.2

/-- What the contributions to an item need together. -/
def combinedNeeded (contributions : List Contribution) : ℤ :=
  (contributions.map Contribution.needed).sum

def allocateItem (batchId : ℕ) (locked : LockedRows) (store : Store)
    (entry : ℕ × List Contribution) : Store :=
  match entry.2 with
  | [] => store
  | first :: rest =>
      ((rowTakes (combinedNeeded (first :: rest)) (locked.of entry.1)).foldl
        (allocateWaveTake batchId entry.1 first) (store, first :: rest)).1

def waveUnits (prepared : Prepared) : ℤ :=
  (prepared.coverage.map fun entry =>
    supply (rowTakes (combinedNeeded entry.2) (prepared.locked.of entry.1))).sum

def allocateWave (prepared : Prepared) (warehouseId : ℕ) (username : String) :
    Except PickError (Store × ℕ) := do
  let batchId := prepared.store.pickBatches.next
  let store ← insertBatchOrders batchId
    (prepared.store.insertBatch warehouseId username) 1 prepared.salesOrders
  let store := prepared.coverage.foldl (allocateItem batchId prepared.locked) store
  .ok (store.setTotals batchId prepared.salesOrders.length
    (waveUnits prepared), batchId)

/-- The checks of `wave_create` before its allocation. The second look at the
active batches runs once the inventory rows are locked. -/
def prepareWave (store : Store) (soIds : List ℕ) (warehouseId : ℕ)
    (username : String) (excludeSoIds : List ℕ) : Except PickError Prepared := do
  if ¬ soIds.Nodup then .error .duplicateSoIds
  else
    match soIds.filter fun soId => !excludeSoIds.contains soId with
    | [] => .error .noSalesOrders
    | first :: rest => do
        let (store, _) ← cancelPriorUserBatches store username warehouseId
        let salesOrders ← (first :: rest).mapM (validateOrder store warehouseId)
        let prepared ← prepareCoverage store salesOrders warehouseId
        match salesOrders.findSome? fun order =>
            (prepared.store.activeBatch order.1).map fun batchId =>
              (order.2.soNumber, batchId) with
        | some (soNumber, batchId) => .error (.alreadyInBatch soNumber batchId)
        | none => .ok prepared

/-- `wave_create`, with the id of the new batch. -/
def waveCreate (store : Store) (soIds : List ℕ) (warehouseId : ℕ)
    (username : String) (excludeSoIds : List ℕ) : Except PickError (Store × ℕ) := do
  let prepared ← prepareWave store soIds warehouseId username excludeSoIds
  allocateWave prepared warehouseId username

end SentryWms
