import SentryWms.Catalog.Effects

/-!
# A quote is for the product it prices

A save of the local catalogue that changes code or brand drops the supplier's quote. The
two kinds of match change code and brand as well and leave the quote; as long as they
meet no stored quote, or keep the product it was fetched for, a price of the supplier is
one that was fetched for the product as it is now.
-/

namespace SentryWms.Catalog

open Python Relational Transition

/-! ## The property -/

variable (library : Library)

/-- Every stored quote is for the present product. -/
structure QuotesStand (db : Database) : Prop where
  consistent : ∀ itemId, (db.pricing itemId).Consistent
  current : ∀ itemId quote, (db.pricing itemId).connex = some quote →
    db.identityChangedAt itemId < quote.fetchedAt
  past : ∀ itemId, db.identityChangedAt itemId ≤ db.clock

variable {library} {db after : Database}

variable {itemId : ℕ}

theorem QuotesStand.setPricing (hstand : QuotesStand db) {pricing : Pricing}
    (hconsistent : pricing.Consistent)
    (hcurrent : ∀ quote, pricing.connex = some quote → db.identityChangedAt itemId < quote.fetchedAt) :
    QuotesStand (db.setPricing itemId pricing) where
  consistent := by
    intro other
    by_cases hother : other = itemId
    · simpa [Database.setPricing, hother] using hconsistent
    · simpa [Database.setPricing, hother] using hstand.consistent other
  current := by
    intro other quote hquote
    by_cases hother : other = itemId
    · subst hother
      exact hcurrent quote (by simpa [Database.setPricing] using hquote)
    · exact hstand.current other quote (by simpa [Database.setPricing, hother] using hquote)
  past := hstand.past

variable {discovery : Discovery}

theorem QuotesStand.fileDiscovery (hstand : QuotesStand db)
    (hkeep : (db.pricing itemId).connex = none ∨ discovery.payload.map (identityOf library) = db.identity library itemId) :
    QuotesStand (db.fileDiscovery library itemId discovery) where
  consistent := hstand.consistent
  current := by
    intro other quote hquote
    rw [fileDiscovery_pricing] at hquote
    have hbefore := hstand.current other quote hquote
    rw [Database.fileDiscovery]
    dsimp only
    split
    · exact hbefore
    · rename_i hchanged
      by_cases hother : other = itemId
      · subst hother
        rw [hkeep.resolve_right hchanged] at hquote
        cases hquote
      · rwa [Function.update_of_ne hother]
  past := by
    intro other
    rw [Database.fileDiscovery]
    dsimp only
    split
    · exact hstand.past other
    · by_cases hother : other = itemId
      · rw [hother, Function.update_self]
      · rw [Function.update_of_ne hother]
        exact hstand.past other

theorem QuotesStand.insertItem (hstand : QuotesStand db) (item : Item) :
    QuotesStand (db.insertItem item) := by
  have hpriced : QuotesStand (db.setPricing db.store.items.next {}) :=
    hstand.setPricing consistent_empty fun quote hquote => nomatch hquote
  exact ⟨hpriced.consistent, hpriced.current, hpriced.past⟩

/-! ## Identities -/

variable {found : Dict}

end SentryWms.Catalog
