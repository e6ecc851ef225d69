import SentryWms.Core.Transition
import SentryWms.Store.Schema

/-!
# What a channel is told it can sell

`recompute_channel`, `publish_channel` and the scope edit of a channel, with the sink that
the publisher posts to. The number of an item is in three places: the inventory, the row
of the channel, and the sink. A row whose number has changed gets a new version, and it is
dirty until a version that the sink has accepted is written back.
-/

namespace SentryWms.Channel

open Relational Transition

/-! ## The state -/

/-- `sku_scope`. A dimension that is absent or empty restricts nothing. -/
structure SkuScope where
  skus : Option (List String) := none
  categories : Option (List String) := none
  warehouseIds : Option (List ℕ) := none
deriving DecidableEq

/-- One dimension of `_coerce_scope`. -/
def coerce {Value : Type} (values : Option (List Value)) : Option (List Value) :=
  values.filter fun values => !values.isEmpty

/-- The columns of `channel_availability` for one channel, but for the item. -/
structure AvailabilityRow where
  availableQty : ℤ
  currentVersion : ℕ
  lastVersion : ℕ
  attemptCount : ℕ
  nextAttemptAt : Option ℕ
  dlq : Bool

/-- A row as the publisher has read it. -/
structure ClaimedRow where
  itemId : ℕ
  currentVersion : ℕ
  availableQty : ℤ
  attemptCount : ℕ

/-- Where the publisher is: between cycles, before the POST, or before it writes down how
the POST went. -/
inductive Publisher where
  | idle
  | claimed (rows : List ClaimedRow)
  | answered (rows : List ClaimedRow) (published : Bool)

/-- The rows of the cycle that is in progress. -/
def Publisher.rows : Publisher → List ClaimedRow
  | .idle => []
  | .claimed rows => rows
  | .answered rows _ => rows

/-- The database, the publisher, and the quantities the sink has accepted, the last one
first. `category` is the column of `items`. -/
structure ChannelState where
  items : Table Item
  category : List (ℕ × String)
  bins : Table Bin
  inventory : Table Inventory
  skuScope : SkuScope
  batchSize : ℕ
  pauseReason : Option String
  rows : List (ℕ × AvailabilityRow)
  nextVersion : ℕ
  now : ℕ
  publisher : Publisher
  sink : List (ℕ × ℤ)

/-! ## Recompute -/

/-- The item is in the scope: one of the dimensions that are set names it. -/
def ChannelState.inScope (state : ChannelState) (scope : SkuScope) (itemId : ℕ)
    (item : Item) : Bool :=
  match coerce scope.skus, coerce scope.categories with
  | none, none => true
  | skus, categories =>
      skus.any (fun skus => skus.contains item.sku) ||
        categories.any fun categories =>
          (state.category.lookup itemId).any fun category => categories.contains category

def ChannelState.sellsFrom (state : ChannelState) (binId : ℕ) : Bool :=
  (state.bins.get? binId).any fun bin =>
    bin.binType == .pickable || bin.binType == .pickableStaging

/-- `available`: what the warehouses of the scope hold of an item and have not promised,
row by row. -/
def ChannelState.sellable (state : ChannelState) (scope : SkuScope) (itemId : ℕ) : ℤ :=
  state.inventory.total fun _ row =>
    if row.itemId = itemId ∧ state.sellsFrom row.binId = true ∧
        (coerce scope.warehouseIds).all (fun warehouseIds =>
          warehouseIds.contains row.warehouseId) = true then
      max (row.quantityOnHand - row.quantityAllocated) 0
    else 0

/-- `computed`: the active items of the scope with their quantities. -/
def ChannelState.computed (state : ChannelState) (scope : SkuScope)
    (itemIds : Option (List ℕ)) : List (ℕ × ℤ) :=
  (state.items.entries.filter fun entry =>
    entry.2.isActive && state.inScope scope entry.1 entry.2 &&
      itemIds.all fun itemIds => itemIds.contains entry.1).map
    fun entry => (entry.1, state.sellable scope entry.1)

/-- `changed`: the ones without a row, or with another quantity in it. -/
def ChannelState.changed (state : ChannelState) (scope : SkuScope)
    (itemIds : Option (List ℕ)) : List (ℕ × ℤ) :=
  (state.computed scope itemIds).filter fun change =>
    (state.rows.lookup change.1).all fun row => row.availableQty != change.2

/-- A row whose quantity has changed. -/
def AvailabilityRow.bump (availableQty : ℤ) (currentVersion : ℕ) (row : AvailabilityRow) :
    AvailabilityRow :=
  { row with availableQty, currentVersion, attemptCount := 0, nextAttemptAt := none, dlq := false }

def setRow (rows : List (ℕ × AvailabilityRow)) (itemId : ℕ)
    (change : AvailabilityRow → AvailabilityRow) : List (ℕ × AvailabilityRow) :=
  rows.map fun entry => if entry.1 = itemId then (entry.1, change entry.2) else entry

/-- `INSERT ... ON CONFLICT DO UPDATE`. A conflict takes a second version. -/
def ChannelState.upsert (state : ChannelState) (change : ℕ × ℤ) : ChannelState :=
  match state.rows.lookup change.1 with
  | none =>
      { state with
        rows := state.rows ++ [(change.1, ⟨change.2, state.nextVersion, 0, 0, none, false⟩)]
        nextVersion := state.nextVersion + 1 }
  | some _ =>
      { state with
        rows := setRow state.rows change.1
          (AvailabilityRow.bump change.2 (state.nextVersion + 1))
        nextVersion := state.nextVersion + 2 }

/-- `recompute_channel`, with the number of rows whose version was bumped. -/
def ChannelState.recomputeChannel (state : ChannelState) (scope : SkuScope)
    (itemIds : Option (List ℕ)) : ChannelState × ℕ :=
  ((state.changed scope itemIds).foldl ChannelState.upsert state,
    (state.changed scope itemIds).length)

/-- The scope edit of `update_channel`: the rows are dropped and seeded again, so that an
item that has left the scope stops tracking. -/
def ChannelState.editScope (state : ChannelState) (scope : SkuScope) : ChannelState :=
  if scope = state.skuScope then state
  else ({ state with skuScope := scope, rows := [] }.recomputeChannel scope none).1

/-! ## Publish -/

/-- The row has a version that the sink has not accepted. -/
def AvailabilityRow.isDirty (row : AvailabilityRow) : Bool :=
  decide (row.lastVersion < row.currentVersion)

def ChannelState.claimDirty (state : ChannelState) : List ClaimedRow :=
  ((orderBy (fun entry => entry.2.currentVersion) (state.rows.filter fun entry =>
      (state.items.get? entry.1).isSome && entry.2.isDirty && !entry.2.dlq &&
        entry.2.nextAttemptAt.all fun nextAttemptAt =>
          decide (nextAttemptAt ≤ state.now))).take state.batchSize).map
    fun entry =>
      ⟨entry.1, entry.2.currentVersion, entry.2.availableQty, entry.2.attemptCount⟩

/-- `RETRY_BACKOFF_S`. -/
def retryBackoffs : List ℕ :=
  [30, 120, 600, 3600]

def maxAttempts : ℕ :=
  retryBackoffs.length + 1

def AvailabilityRow.publish (lastVersion : ℕ) (row : AvailabilityRow) : AvailabilityRow :=
  { row with lastVersion, attemptCount := 0, nextAttemptAt := none, dlq := false }

/-- A row whose version the sink has not accepted: the next attempt, or the DLQ. -/
def AvailabilityRow.fail (attemptCount now : ℕ) (row : AvailabilityRow) : AvailabilityRow :=
  if maxAttempts ≤ attemptCount then
    { row with
      attemptCount
      nextAttemptAt := some (now + retryBackoffs.getLastD 0)
      dlq := true }
  else
    { row with
      attemptCount
      nextAttemptAt := some (now + retryBackoffs.getD (attemptCount - 1) 0)
      dlq := false }

def ChannelState.markPublished (state : ChannelState) (rows : List ClaimedRow) :
    ChannelState :=
  rows.foldl (fun state claimed =>
    { state with
      rows := setRow state.rows claimed.itemId
        (AvailabilityRow.publish claimed.currentVersion) }) state

def ChannelState.markFailed (state : ChannelState) (rows : List ClaimedRow) : ChannelState :=
  rows.foldl (fun state claimed =>
    { state with
      rows := setRow state.rows claimed.itemId
        (AvailabilityRow.fail (claimed.attemptCount + 1) state.now) }) state

/-- How a POST ends: with a 2xx, or with another status or an error. A sink that fails may
have accepted some of the items all the same. -/
inductive SinkAnswer where
  | accepts
  | fails (accepted : List ℕ)

/-- The status of the answer is a 2xx. -/
def SinkAnswer.published : SinkAnswer → Bool
  | .accepts => true
  | .fails _ => false

def SinkAnswer.takes (answer : SinkAnswer) (itemId : ℕ) : Bool :=
  match answer with
  | .accepts => true
  | .fails accepted => accepted.contains itemId

/-- What the sink holds after a POST. -/
def receive (sink : List (ℕ × ℤ)) (rows : List ClaimedRow) (answer : SinkAnswer) :
    List (ℕ × ℤ) :=
  rows.foldl (fun sink claimed =>
    if answer.takes claimed.itemId then (claimed.itemId, claimed.availableQty) :: sink
    else sink) sink

/-! ## Runs -/

/-- What happens: the stock changes, an item is activated or deactivated, the scope is
edited, a sweep recomputes the channel, and the publisher claims, posts and writes down
how the POST went, or crashes before that. Time passes, and other channels take versions
from the sequence. -/
inductive ChannelAct where
  | changeStock (inventory : Table Inventory) (bins : Table Bin)
  | setActive (itemId : ℕ) (active : Bool)
  | editScope (scope : SkuScope)
  | recompute (scope : SkuScope) (itemIds : Option (List ℕ))
  | claim (urlSafe : Bool)
  | post (answer : SinkAnswer)
  | settle
  | crash
  | wait (seconds : ℕ)
  | otherChannel

/-- One step. The claim ends the cycle where nothing is dirty, or pauses the channel where
the URL of the sink fails the guard. -/
def channelStep (state : ChannelState) : ChannelAct → Option ChannelState
  | .changeStock inventory bins => some { state with inventory, bins }
  | .setActive itemId active =>
      some { state with
        items := state.items.modify itemId fun item => { item with isActive := active } }
  | .editScope scope => some (state.editScope scope)
  | .recompute scope itemIds => some (state.recomputeChannel scope itemIds).1
  | .claim urlSafe =>
      match state.publisher with
      | .idle =>
          if state.claimDirty.isEmpty then some state
          else if urlSafe then some { state with publisher := .claimed state.claimDirty }
          else some { state with pauseReason := some "malformed_config" }
      | _ => none
  | .post answer =>
      match state.publisher with
      | .claimed rows =>
          some { state with
            publisher := .answered rows answer.published
            sink := receive state.sink rows answer }
      | _ => none
  | .settle =>
      match state.publisher with
      | .answered rows published =>
          let settled := if published then state.markPublished rows else state.markFailed rows
          some { settled with publisher := .idle }
      | _ => none
  | .crash => some { state with publisher := .idle }
  | .wait seconds => some { state with now := state.now + seconds }
  | .otherChannel => some { state with nextVersion := state.nextVersion + 1 }

end SentryWms.Channel
