import SentryWms.Catalog.Effects

/-!
# Every barcode names one item

Two of the routes that write codes look for the item that carries them already: the entry
by hand among UPCs and aliases, and the stock entry, which books the item it finds. The
item master compares UPCs alone, a save and a Connex match compare nothing. What they
write keeps every barcode on one item as long as no other item carries it.
-/

namespace SentryWms.Catalog

open Python Relational Transition

/-! ## The property -/

/-- No text is the UPC or an alias of two items. -/
def OneItemPerBarcode (items : Table Item) : Prop :=
  ∀ ⦃code : String⦄ ⦃entry other : ℕ × Item⦄, entry ∈ items.entries →
    other ∈ items.entries → barcodeMatches code entry.2 = true →
    barcodeMatches code other.2 = true → entry.1 = other.1

/-- No item but this one carries any of the codes. -/
def FreeFor (items : Table Item) (itemId : ℕ) (codes : List String) : Prop :=
  ∀ entry ∈ items.entries, ∀ code ∈ codes, barcodeMatches code entry.2 = true →
    entry.1 = itemId

instance (items : Table Item) (itemId : ℕ) (codes : List String) :
    Decidable (FreeFor items itemId codes) :=
  inferInstanceAs (Decidable (∀ entry ∈ items.entries, ∀ code ∈ codes,
    barcodeMatches code entry.2 = true → entry.1 = itemId))

/-! ## The condition -/

/-- `create_item` refuses the item as a duplicate. -/
def isDuplicate (db : Database) (request : ItemRequest) : Bool :=
  db.store.skuTaken request.sku ||
    request.upc.getD "" != "" && db.upcTaken (request.upc.getD "")

variable (library : Library)

variable {items : Table Item}

theorem OneItemPerBarcode.insert (hone : OneItemPerBarcode items) {item : Item}
    (hfree : ∀ code, barcodeMatches code item = true → ∀ entry ∈ items.entries, barcodeMatches code entry.2 = false) :
    OneItemPerBarcode (items.insert item) := by
  intro code entry other hentry hother hmatch hmatch'
  rw [Table.mem_insert] at hentry hother
  cases hentry with
  | inl hentry =>
      cases hother with
      | inl hother => exact hone hentry hother hmatch hmatch'
      | inr hother =>
          subst hother
          simp [hfree code hmatch' entry hentry] at hmatch
  | inr hentry =>
      subst hentry
      cases hother with
      | inl hother => simp [hfree code hmatch other hother] at hmatch'
      | inr hother => rw [hother]

variable {itemId : ℕ}

theorem OneItemPerBarcode.modify (hone : OneItemPerBarcode items) {change : Item → Item}
    (hfree : ∀ item code, barcodeMatches code (change item) = true → barcodeMatches code item = true ∨ FreeFor items itemId [code]) :
    OneItemPerBarcode (items.modify itemId change) := by
  -- Of two items that carry a code one is the changed one, or both carried it before.
  have hchanged : ∀ {code : String} {item : Item} {other : ℕ × Item},
      (itemId, item) ∈ items.entries → other ∈ items.entries →
      barcodeMatches code (change item) = true →
      barcodeMatches code other.2 = true → other.1 = itemId := by
    intro code item other hitem hother hmatch hmatch'
    cases hfree item code hmatch with
    | inl hbefore => exact (hone hitem hother hbefore hmatch').symm
    | inr hcode => exact hcode other hother code List.mem_cons_self hmatch'
  intro code ⟨key, row⟩ ⟨key', row'⟩ hentry hother hmatch hmatch'
  rw [Table.mem_modify] at hentry hother
  obtain ⟨before, hbefore, hrow⟩ := hentry
  obtain ⟨before', hbefore', hrow'⟩ := hother
  dsimp only at hmatch hmatch' ⊢
  by_cases hkey : key = itemId
  · subst hkey
    by_cases hkey' : key' = key
    · exact hkey'.symm
    · rw [if_pos rfl] at hrow
      rw [if_neg hkey'] at hrow'
      subst hrow hrow'
      exact (hchanged hbefore hbefore' hmatch hmatch').symm
  · rw [if_neg hkey] at hrow
    subst hrow
    by_cases hkey' : key' = itemId
    · subst hkey'
      rw [if_pos rfl] at hrow'
      subst hrow'
      exact hchanged hbefore' hbefore hmatch' hmatch
    · rw [if_neg hkey'] at hrow'
      subst hrow'
      exact hone hbefore hbefore' hmatch hmatch'

variable {library} {db after : Database}

/-! ## Requests -/

end SentryWms.Catalog
