import SentryWms.Core.Ranking
import SentryWms.Core.Transition
import SentryWms.Receiving.Receive

/-!
# Preferred bins

The preferred bins of an item carry priorities. Creating and updating one renumbers all
bins of the item; deleting one and putting one first at put-away write priorities without
renumbering. The database checks at the commit that no two bins of an item share a
priority.
-/

namespace SentryWms.PreferredBins

open Relational Ranking

/-! ## Rows -/

/-- A row of `preferred_bins`. -/
structure PreferredBin where
  itemId : ℕ
  binId : ℕ
  priority : ℕ
deriving DecidableEq

/-- The tables that the routes read and write. -/
structure Store where
  items : Table Item := .empty
  bins : Table Bin := .empty
  preferredBins : Table PreferredBin := .empty

def ofItem (table : Table PreferredBin) (itemId : ℕ) : List (ℕ × PreferredBin) :=
  table.select fun row => row.itemId == itemId

def rowOf (table : Table PreferredBin) (itemId binId : ℕ) : Option (ℕ × PreferredBin) :=
  table.entries.find? fun entry => entry.2.itemId == itemId && entry.2.binId == binId

/-- The column an update sets. -/
def PreferredBin.withPriority (row : PreferredBin) (priority : ℕ) : PreferredBin :=
  { row with priority := priority }

/-! ## Renumbering -/

/-- The sort key of the renumbering: the priority, then the changed row first, then the
key. -/
def sortKey (targetId : ℕ) (entry : ℕ × PreferredBin) : ℕ ×ₗ Bool ×ₗ ℕ :=
  toLex (entry.2.priority, toLex (decide (entry.1 ≠ targetId), entry.1))

def resequenceItemPreferredBins (table : Table PreferredBin) (itemId targetId : ℕ) :
    Table PreferredBin :=
  ((orderBy (sortKey targetId) (ofItem table itemId)).zipIdx 1).foldl
    (fun table numbered =>
      table.modify numbered.1.1 fun row => row.withPriority numbered.2) table

/-! ## Requests -/

structure CreatePreferredBinRequest where
  itemId : ℕ
  binId : ℕ
  priority : ℕ
  itemIdPos : 0 < itemId
  binIdPos : 0 < binId
  priorityMin : 1 ≤ priority
  priorityMax : priority ≤ 100

structure UpdatePreferredBinRequest where
  priority : ℕ
  priorityMin : 1 ≤ priority
  priorityMax : priority ≤ 100

structure UpdatePreferredRequest where
  itemId : ℕ
  binId : ℕ
  setAsPrimary : Bool
  itemIdPos : 0 < itemId
  binIdPos : 0 < binId

/-- What the routes answer when nothing is changed. The last two are exceptions of the
database. -/
inductive PreferredBinError where
  | itemNotFound
  | binNotFound
  | preferredBinNotFound
  | notPickable (binCode : String) (binType : BinType)
  | accessDenied
  | itemForeignKey
  | priorityKey

/-- Commit: the deferred constraint `UNIQUE (item_id, priority)` is checked. -/
def commit (store : Store) (preferredBins : Table PreferredBin) :
    Except PreferredBinError Store :=
  if (preferredBins.entries.map fun entry => (entry.2.itemId, entry.2.priority)).Nodup then
    .ok { store with preferredBins := preferredBins }
  else .error .priorityKey

/-! ## Routes -/

/-- The rows after `INSERT … ON CONFLICT (item_id, bin_id) DO UPDATE SET priority`, and
the key of the row of the item and the bin. -/
def upsert (table : Table PreferredBin) (itemId binId priority : ℕ) :
    Table PreferredBin × ℕ :=
  match rowOf table itemId binId with
  | some (key, _) => (table.modify key fun row => row.withPriority priority, key)
  | none => (table.insert ⟨itemId, binId, priority⟩, table.next)

def createPreferredBin (store : Store) (request : CreatePreferredBinRequest) :
    Except PreferredBinError Store :=
  match store.bins.get? request.binId with
  | none => .error .binNotFound
  | some bin =>
      if bin.binType ≠ .pickable then .error (.notPickable bin.binCode bin.binType)
      else if store.items.get? request.itemId = none then .error .itemForeignKey
      else
        let (table, targetId) :=
          upsert store.preferredBins request.itemId request.binId request.priority
        commit store (resequenceItemPreferredBins table request.itemId targetId)

def updatePreferredBin (store : Store) (preferredBinId : ℕ)
    (request : UpdatePreferredBinRequest) : Except PreferredBinError Store :=
  match store.preferredBins.get? preferredBinId with
  | none => .error .preferredBinNotFound
  | some row =>
      let table := store.preferredBins.modify preferredBinId fun row =>
        row.withPriority request.priority
      commit store (resequenceItemPreferredBins table row.itemId preferredBinId)

def deletePreferredBin (store : Store) (preferredBinId : ℕ) :
    Except PreferredBinError Store :=
  commit store (store.preferredBins.delete preferredBinId)

/-- The rows after the statements of `set_as_primary`: all rows of the item go down by
one, then the row of the bin becomes the first. -/
def setAsPrimary (table : Table PreferredBin) (itemId binId : ℕ) : Table PreferredBin :=
  let bumped := table.updateWhere (fun row => row.itemId == itemId) fun row =>
    row.withPriority (row.priority + 1)
  match rowOf bumped itemId binId with
  | some (key, _) => bumped.modify key fun row => row.withPriority 1
  | none => bumped.insert ⟨itemId, binId, 1⟩

/-- `putaway.update_preferred`. -/
def updatePreferred (store : Store) (scope : WarehouseScope)
    (request : UpdatePreferredRequest) : Except PreferredBinError Store :=
  match store.items.get? request.itemId with
  | none => .error .itemNotFound
  | some _ =>
      match store.bins.get? request.binId with
      | none => .error .binNotFound
      | some bin =>
          if bin.binType ≠ .pickable then .error (.notPickable bin.binCode bin.binType)
          else if ¬ scope.allows bin.warehouseId then .error .accessDenied
          else if request.setAsPrimary then
            commit store (setAsPrimary store.preferredBins request.itemId request.binId)
          else .ok store

/-! ## Runs -/

/-- The requests that write preferred bins. -/
inductive Request where
  | create (request : CreatePreferredBinRequest)
  | update (preferredBinId : ℕ) (request : UpdatePreferredBinRequest)
  | delete (preferredBinId : ℕ)
  | putaway (scope : WarehouseScope) (request : UpdatePreferredRequest)

def respond (store : Store) : Request → Except PreferredBinError Store
  | .create request => createPreferredBin store request
  | .update preferredBinId request => updatePreferredBin store preferredBinId request
  | .delete preferredBinId => deletePreferredBin store preferredBinId
  | .putaway scope request => updatePreferred store scope request

/-- The store after a request: a refused one is rolled back. -/
def step (store : Store) (request : Request) : Option Store :=
  match respond store request with
  | .ok next => some next
  | .error _ => some store

/-! ## Hierarchies -/

def priorities (table : Table PreferredBin) (itemId : ℕ) : List ℕ :=
  (ofItem table itemId).map fun entry => entry.2.priority

/-- The priorities of every item are exactly those from one on. -/
def Hierarchy (table : Table PreferredBin) : Prop :=
  ∀ itemId, Ranked (priorities table itemId)

end SentryWms.PreferredBins
