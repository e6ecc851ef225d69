import SentryWms.Catalog.Products
import SentryWms.Core.Transition

/-!
# Local prices

The price transitions of `services/local_catalog.py`. A price is kept in cents, which is
what rounding leaves of it. The quote of the supplier carries the moment of its lookup
beside what the code stores.
-/

namespace SentryWms.Catalog

open Python

variable (library : Library)

/-! ## Prices -/

/-- `round(price, 2)` of a positive decimal, halves upwards, in cents. -/
def roundedCents (price : ℚ) : ℕ :=
  ⌊price * 100 + 1 / 2⌋.toNat

def positivePrice (value : Option Value) : Except String ℕ :=
  let content := str library (value.getD .null)
  match Decimal.parse (String.ofList (content.toList.map fun char =>
      if char = ',' then '.' else char)) with
  | none => .error "Prețul nu este valid."
  | some (.finite negative coefficient exponent) =>
      let price := Decimal.signed negative coefficient exponent
      if price ≤ 0 ∨ 100000000 < price then
        .error "Introdu un preț între 0 și 100.000.000 RON, mai mare decât zero."
      else if roundedCents price = 0 then .error "Prețul minim este 0,01 RON."
      else .ok (roundedCents price)
  | some _ => .error "Introdu un preț între 0 și 100.000.000 RON, mai mare decât zero."

inductive PriceSource where
  | manual
  | connex
deriving DecidableEq

/-- A supplier's quote: the row of its answer, the price in cents and when it was
fetched. -/
structure Quote where
  fields : Dict
  price : ℕ
  fetchedAt : ℕ

/-- `items.local_pricing`; the empty value is the empty dictionary. -/
structure Pricing where
  manualPrice : Option ℕ := none
  connex : Option Quote := none
  reference : Option String := none
  price : Option ℕ := none
  source : Option PriceSource := none

/-- The end of `update_pricing`: which price counts and where it comes from. -/
def Pricing.settled (pricing : Pricing) : Pricing :=
  { pricing with
    price := pricing.manualPrice.or (pricing.connex.map Quote.price)
    source := if pricing.manualPrice.isSome then some .manual else some .connex }

/-- `update_pricing(pricing, "manual", price=price)` of a price that has been checked
before, which the check gives back as it is. -/
def Pricing.withManualPrice (pricing : Pricing) (price : ℕ) : Pricing :=
  Pricing.settled { pricing with manualPrice := some price }

/-- What `update_pricing` is asked to do, with what it is handed for it. -/
inductive PriceAction where
  | manual (price : Option Value)
  | refresh (quote : Dict) (reference : String) (fetchedAt : ℕ)
  | useConnex
  | other

def updatePricing (pricing : Pricing) : PriceAction → Except String Pricing
  | .manual price => do
      .ok (pricing.withManualPrice (← positivePrice library price))
  | .refresh quote reference fetchedAt =>
      if quote = [] ∨ ¬ isCurrency quote then
        .error "Alege un preț Connex disponibil în RON."
      else do
        let price ← positivePrice library (quote.get? "price")
        .ok (Pricing.settled
          { pricing with
            connex := some { fields := quote, price, fetchedAt }
            reference := some reference })
  | .useConnex =>
      if pricing.connex.isNone then .error "Echivalează mai întâi prețul cu Connex."
      else .ok (Pricing.settled { pricing with manualPrice := none })
  | .other => .error "Acțiune de preț invalidă."
where
  isCurrency (quote : Dict) : Bool :=
    match quote.get? "currency" with
    | some value => value.isText "RON"
    | none => false

/-- The price of a product under a new identity: its manual price alone. -/
def Pricing.ownPart (pricing : Pricing) : Pricing :=
  match pricing.manualPrice with
  | some price => Pricing.withManualPrice {} price
  | none => {}

/-! ## What the stored price is -/

/-- The price is the manual one where there is one, and the quote's otherwise; it comes
from the supplier only where a quote is stored. -/
structure Pricing.Consistent (pricing : Pricing) : Prop where
  price : pricing.price = pricing.manualPrice.or (pricing.connex.map Quote.price)
  source : pricing.source = some .connex → pricing.connex.isSome = true

theorem consistent_empty : Pricing.Consistent {} where
  price := rfl
  source hsource := nomatch hsource

end SentryWms.Catalog
