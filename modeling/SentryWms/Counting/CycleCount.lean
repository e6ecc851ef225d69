import SentryWms.Core.Transition
import SentryWms.Receiving.Receive

/-!
# Cycle counts

`create_cycle_count` writes one line for each item a bin holds, `submit_cycle_count`
records what was counted and files an adjustment for every difference, and
`review_adjustments` moves the stock once an adjustment is approved. A bin may hold an
item in several lot rows; a count has one line for it, and an approval reads one of the
rows.
-/

namespace SentryWms.Counting

open Relational Transition

/-! ## Rows -/

/-- `cycle_counts.status`. -/
inductive CountStatus where
  | pending
  | inProgress
  | completed
  | variance
deriving DecidableEq

/-- `inventory_adjustments.status`. -/
inductive AdjustmentStatus where
  | pending
  | approved
  | rejected
deriving DecidableEq

/-- A row of `cycle_counts`. -/
structure CycleCount where
  warehouseId : ℕ
  binId : ℕ
  status : CountStatus
  assignedTo : String

/-- A row of `cycle_count_lines`. -/
structure CountLine where
  countId : ℕ
  itemId : ℕ
  expectedQuantity : ℤ
  countedQuantity : Option ℤ := none
  scanned : Bool := false
  unexpected : Bool := false
  countedBy : Option String := none

/-- A row of `inventory_adjustments`. -/
structure Adjustment where
  itemId : ℕ
  binId : ℕ
  warehouseId : ℕ
  quantityChange : ℤ
  reasonCode : String
  reasonDetail : String
  status : AdjustmentStatus
  adjustedBy : String
  cycleCountId : Option ℕ

/-- What an approval writes to the outbox, with the adjustment it is about. -/
inductive AdjustmentEvent where
  | cycleCountAdjusted (adjustmentId : ℕ) (countedQuantity : Option ℤ)
      (systemQuantity quantityDelta : ℤ)
  | inventoryAdjusted (adjustmentId : ℕ) (quantityDelta : ℤ) (reasonCode : String)

structure CountingStore extends Store where
  cycleCounts : Table CycleCount := .empty
  countLines : Table CountLine := .empty
  adjustments : Table Adjustment := .empty
  adjustmentEvents : List AdjustmentEvent := []

/-- The row condition `count_id = :cid AND item_id = :iid`. -/
def CountLine.counts (countId itemId : ℕ) (line : CountLine) : Bool :=
  line.countId == countId && line.itemId == itemId

/-! ## Refusals -/

/-- What the counting requests answer when nothing is written. -/
inductive CountError where
  | warehouseNotFound
  | binNotFound (binId warehouseId : ℕ)
  | countNotFound
  | accessDenied
  | cannotSubmit (status : CountStatus)
  | itemIdRequired
  | itemNotFound (itemId : ℕ)
  | lineNotFound (countLineId : Option ℕ)
  | selfApproval
  | varianceNotFound (adjustmentId : ℕ)

/-! ## Creating a count -/

structure CreateCycleCountRequest where
  warehouseId : ℕ
  binIds : List ℕ
  binIdsNonempty : binIds ≠ []

/-- The row condition `bin_id = :bid AND item_id = :iid AND quantity_on_hand > 0`. -/
def Inventory.stocked (itemId binId : ℕ) (row : Inventory) : Bool :=
  row.inBin itemId binId && decide (0 < row.quantityOnHand)

/-- `SELECT item_id, SUM(quantity_on_hand) ... WHERE quantity_on_hand > 0 GROUP BY
item_id`: the rows that are in stock, added up by item. -/
def binSnapshot (store : Store) (binId : ℕ) : List (ℕ × ℤ) :=
  let rows := store.inventory.select fun row =>
    row.binId == binId && decide (0 < row.quantityOnHand)
  (rows.map fun entry => entry.2.itemId).dedup.map fun itemId =>
    (itemId, store.stock (Inventory.stocked itemId binId) Inventory.quantityOnHand)

/-- What `create_cycle_count` returns of a count. -/
structure CreatedCount where
  countId : ℕ
  binId : ℕ
  lines : ℕ

def insertSnapshot (countId : ℕ) (snapshot : List (ℕ × ℤ)) (lines : Table CountLine) :
    Table CountLine :=
  snapshot.foldl (fun lines row => lines.insert
    { countId, itemId := row.1, expectedQuantity := row.2 }) lines

/-- One bin of `create_cycle_count`. -/
def openCount (username : String) (warehouseId : ℕ)
    (state : CountingStore × List CreatedCount) (binId : ℕ) :
    CountingStore × List CreatedCount :=
  let store := state.1
  let countId := store.cycleCounts.next
  let snapshot := binSnapshot store.toStore binId
  ({ store with
      cycleCounts := store.cycleCounts.insert
        { warehouseId, binId, status := .pending, assignedTo := username }
      countLines := insertSnapshot countId snapshot store.countLines },
    state.2 ++ [⟨countId, binId, snapshot.length⟩])

def createCycleCount (store : CountingStore) (username : String)
    (request : CreateCycleCountRequest) :
    Except CountError (CountingStore × List CreatedCount) :=
  if (store.warehouses.get? request.warehouseId).isNone then .error .warehouseNotFound
  else
    match request.binIds.find? fun binId =>
      !(store.bins.get? binId).any fun bin => bin.warehouseId == request.warehouseId with
    | some binId => .error (.binNotFound binId request.warehouseId)
    | none =>
        .ok (request.binIds.foldl (openCount username request.warehouseId) (store, []))

/-! ## Submitting a count -/

structure CycleCountLineEntry where
  countLineId : Option ℕ
  countedQuantity : ℕ
  unexpected : Bool
  itemId : Option ℕ

structure SubmitCycleCountRequest where
  countId : ℕ
  lines : List CycleCountLineEntry
  linesNonempty : lines ≠ []

def findCountLine (lines : Table CountLine) (countId : ℕ) (countLineId : Option ℕ) :
    Option (ℕ × CountLine) :=
  countLineId.bind fun lineId =>
    (lines.get? lineId).bind fun line =>
      if line.countId = countId then some (lineId, line) else none

def hasCountLine (lines : Table CountLine) (countId itemId : ℕ) : Bool :=
  lines.entries.any fun entry => entry.2.counts countId itemId

def countAdjustment (countId : ℕ) (count : CycleCount) (username : String)
    (itemId : ℕ) (quantityChange : ℤ) (reasonDetail : String) : Adjustment where
  itemId := itemId
  binId := count.binId
  warehouseId := count.warehouseId
  quantityChange := quantityChange
  reasonCode := "CYCLE_COUNT"
  reasonDetail := reasonDetail
  status := .pending
  adjustedBy := username
  cycleCountId := some countId

def insertUnexpected (countId : ℕ) (count : CycleCount) (username : String)
    (store : CountingStore) (itemId : ℕ) (countedQty : ℕ) : CountingStore :=
  { store with
    countLines := store.countLines.insert
      { countId, itemId, expectedQuantity := 0, countedQuantity := some countedQty,
        scanned := true, unexpected := true, countedBy := some username }
    adjustments := store.adjustments.insert
      (countAdjustment countId count username itemId countedQty
        s!"Cycle count unexpected item: counted {countedQty} (not in snapshot)") }

/-- `UPDATE cycle_count_lines SET counted_quantity = :qty, ...`. -/
def recordCount (username : String) (countedQty : ℕ) (line : CountLine) : CountLine :=
  { line with
    countedQuantity := some countedQty, countedBy := some username, scanned := true }

def recordLine (countId : ℕ) (count : CycleCount) (username : String)
    (store : CountingStore) (line : ℕ × CountLine) (countedQty : ℕ) : CountingStore :=
  let variance := countedQty - line.2.expectedQuantity
  let countLines := store.countLines.modify line.1 (recordCount username countedQty)
  if variance = 0 then { store with countLines }
  else
    { store with
      countLines
      adjustments := store.adjustments.insert
        (countAdjustment countId count username line.2.itemId variance
          s!"Cycle count variance: expected {line.2.expectedQuantity}, counted {countedQty}") }

/-- One entry of `submit_cycle_count`, with the number of lines that differ. An
unexpected item that has a line already is skipped. -/
def submitEntry (countId : ℕ) (count : CycleCount) (username : String)
    (state : CountingStore × ℕ) (entry : CycleCountLineEntry) :
    Except CountError (CountingStore × ℕ) :=
  let store := state.1
  if entry.unexpected then
    match entry.itemId with
    | none => .error .itemIdRequired
    | some itemId =>
        if hasCountLine store.countLines countId itemId then .ok state
        else if (store.items.get? itemId).isNone then .error (.itemNotFound itemId)
        else
          .ok (insertUnexpected countId count username store itemId entry.countedQuantity,
            state.2 + 1)
  else
    match findCountLine store.countLines countId entry.countLineId with
    | none => .error (.lineNotFound entry.countLineId)
    | some line =>
        .ok (recordLine countId count username store line entry.countedQuantity,
          if (entry.countedQuantity : ℤ) = line.2.expectedQuantity then state.2
          else state.2 + 1)

def finalStatus (linesWithVariance : ℕ) : CountStatus :=
  if 0 < linesWithVariance then .variance else .completed

def submitCycleCount (store : CountingStore) (scope : WarehouseScope) (username : String)
    (request : SubmitCycleCountRequest) : Except CountError CountingStore :=
  match store.cycleCounts.get? request.countId with
  | none => .error .countNotFound
  | some count =>
      if !scope.allows count.warehouseId then .error .accessDenied
      else if count.status ≠ .pending ∧ count.status ≠ .inProgress then
        .error (.cannotSubmit count.status)
      else do
        let submitted ← request.lines.foldlM
          (submitEntry request.countId count username) (store, 0)
        return { submitted.1 with
          cycleCounts := submitted.1.cycleCounts.modify request.countId fun count =>
            { count with status := finalStatus submitted.2 } }

/-! ## Reviewing adjustments -/

/-- What `fetchone` returns of the rows that a query without `ORDER BY` matches: one of
them, if there is any. Which one is up to the database. -/
structure FetchOne (ρ : Type*) where
  fetch : List (ℕ × ρ) → Option (ℕ × ρ)
  mem : ∀ {rows row}, fetch rows = some row → row ∈ rows
  isSome : ∀ {rows}, rows ≠ [] → (fetch rows).isSome

/-- The row that comes first. -/
def FetchOne.first (ρ : Type*) : FetchOne ρ where
  fetch := List.head?
  mem := List.mem_of_mem_head?
  isSome := fun hrows => List.isSome_head?.mpr hrows

structure AdjustmentDecision where
  adjustmentId : ℕ
  approve : Bool

/-- What an approval writes to the inventory. -/
def applyAdjustment (fetchOne : FetchOne Inventory) (store : CountingStore)
    (row : Adjustment) : CountingStore :=
  match fetchOne.fetch (store.inventory.select (Inventory.inBin row.itemId row.binId)) with
  | some (inventoryId, existing) =>
      { store with
        inventory := store.inventory.modify inventoryId fun stock =>
          { stock with
            quantityOnHand := max 0 (existing.quantityOnHand + row.quantityChange)
            updatedAt := store.now } }
  | none =>
      if 0 < row.quantityChange then
        { store with
          inventory := store.inventory.insert
            { itemId := row.itemId, binId := row.binId, warehouseId := row.warehouseId,
              quantityOnHand := row.quantityChange, quantityAllocated := 0,
              lotNumber := none, updatedAt := store.now } }
      else store

def approvalEvents (store : CountingStore) (adjustmentId : ℕ) (row : Adjustment) :
    Except CountError (List AdjustmentEvent) :=
  match row.cycleCountId with
  | none => .ok [.inventoryAdjusted adjustmentId row.quantityChange row.reasonCode]
  | some countId =>
      match store.countLines.entries.find? fun line => line.2.counts countId row.itemId with
      | none => .error (.varianceNotFound adjustmentId)
      | some (_, line) =>
          .ok [.cycleCountAdjusted adjustmentId line.countedQuantity line.expectedQuantity
              row.quantityChange,
            .inventoryAdjusted adjustmentId row.quantityChange "CYCLE_COUNT"]

/-- `UPDATE inventory_adjustments SET status = :status`. -/
def setAdjustmentStatus (store : CountingStore) (adjustmentId : ℕ)
    (status : AdjustmentStatus) : CountingStore :=
  { store with
    adjustments := store.adjustments.modify adjustmentId fun row => { row with status } }

def forbidsApproval (store : CountingStore) (reviewer : String) (row : Adjustment) : Bool :=
  row.cycleCountId.isSome && row.adjustedBy == reviewer &&
    store.appSettings.lookup "require_count_approval_separation" == some "true"

/-- One decision, with the items whose stock was increased. -/
def reviewDecision (fetchOne : FetchOne Inventory) (reviewer : String)
    (state : CountingStore × List (ℕ × ℕ)) (decision : AdjustmentDecision) :
    Except CountError (CountingStore × List (ℕ × ℕ)) :=
  let store := state.1
  match store.adjustments.get? decision.adjustmentId with
  | none => .ok state
  | some row =>
      if row.status ≠ .pending then .ok state
      else if !decision.approve then
        .ok (setAdjustmentStatus store decision.adjustmentId .rejected, state.2)
      else if forbidsApproval store reviewer row then .error .selfApproval
      else do
        let approved := setAdjustmentStatus (applyAdjustment fetchOne store row)
          decision.adjustmentId .approved
        let events ← approvalEvents store decision.adjustmentId row
        return ({ approved with adjustmentEvents := approved.adjustmentEvents ++ events },
          if 0 < row.quantityChange then state.2 ++ [(row.warehouseId, row.itemId)]
          else state.2)

/-- `review_adjustments`. A refusal in the middle rolls the whole request back. The
matcher runs after the decisions; a second run for one item finds nothing to release. -/
def reviewAdjustments (fetchOne : FetchOne Inventory) (store : CountingStore)
    (reviewer : String) (decisions : List AdjustmentDecision) :
    Except CountError CountingStore := do
  let reviewed ← decisions.foldlM (reviewDecision fetchOne reviewer) (store, [])
  return { reviewed.1 with
    toStore := reviewed.2.foldl (fun store pair =>
      releaseSatisfiableBackorders store pair.1 pair.2) reviewed.1.toStore }

end SentryWms.Counting
