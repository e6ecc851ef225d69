import SentryWms.Catalog.Requests

/-!
# What the catalogue requests write

For each request, what it has found and what it leaves when it is served.
-/

namespace SentryWms.Catalog

open Python Relational Transition

variable {library : Library} {db after : Database}

/-! ## Fallible parts -/

variable {itemId : ℕ}

@[simp]
theorem fileDiscovery_pricing (itemId : ℕ) (discovery : Discovery) :
    (db.fileDiscovery library itemId discovery).pricing = db.pricing := rfl

@[simp]
theorem fileDiscovery_clock (itemId : ℕ) (discovery : Discovery) :
    (db.fileDiscovery library itemId discovery).clock = db.clock := rfl

variable {body : Dict}

variable {store : Store} {request : StockEntryRequest} {result : StockEntryResult}

variable {lookup : Lookup}

/-- A condition on each product of a batch, in the state in which it is written. -/
def EachMeets (apply : Database → ℕ → Discovery → Dict → Option Database)
    (cond : Database → ℕ → Discovery → Dict → Prop) : Database → List (ℕ × Dict) → Prop
  | _, [] => True
  | db, (itemId, found) :: rest =>
      match db.pendingDiscovery itemId with
      | none => EachMeets apply cond db rest
      | some discovery => cond db itemId discovery found ∧
          ∀ applied, apply db itemId discovery found = some applied →
            EachMeets apply cond applied rest

theorem EachMeets.of_all {apply : Database → ℕ → Discovery → Dict → Option Database}
    {cond : Database → ℕ → Discovery → Dict → Prop}
    (hcond : ∀ db itemId discovery found, cond db itemId discovery found)
    (db : Database) (resolved : List (ℕ × Dict)) : EachMeets apply cond db resolved := by
  induction resolved generalizing db with
  | nil => trivial
  | cons product resolved ih =>
      rw [EachMeets]
      split
      · exact ih db
      · exact ⟨hcond _ _ _ _, fun applied _ => ih applied⟩

end SentryWms.Catalog
