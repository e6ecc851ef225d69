import SentryWms.Store.Schema

/-!
# Upstream identities

`cross_system_mappings` translates between the ids of upstream systems and the external
ids of the rows here. An upstream id stands for one row; a row may go by several ids.
-/

namespace SentryWms

open Relational

/-- A row of `cross_system_mappings`. -/
structure CrossSystemMapping where
  sourceSystem : String
  sourceType : String
  sourceId : String
  canonicalId : String

/-- The mappings, and the external ids of the items. -/
structure Upstream where
  mappings : Table CrossSystemMapping
  itemExternalId : ℕ → String

def Upstream.itemMappings (upstream : Upstream) (itemId : ℕ) : List CrossSystemMapping :=
  (upstream.mappings.select fun row =>
    row.canonicalId == upstream.itemExternalId itemId && row.sourceType == "item").map
      Prod.snd

def Upstream.itemOf (upstream : Upstream) (store : Store)
    (sourceSystem sourceId : String) : Option ℕ := do
  let mapping ← upstream.mappings.entries.find? fun entry =>
    entry.2.sourceSystem == sourceSystem && entry.2.sourceType == "item" &&
      entry.2.sourceId == sourceId
  let item ← store.items.entries.find? fun entry =>
    upstream.itemExternalId entry.1 == mapping.2.canonicalId
  some item.1

end SentryWms
