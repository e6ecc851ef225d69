import SentryWms.Catalog.Effects

/-!
# A scanned code keeps booking to one item

Which item a scan books follows from the codes the items carry: the first item, by its
identifier, that carries the scanned code as a barcode or the manufacturer code. A match
replaces these codes by those of the upstream answer, and a stock entry replaces the
manufacturer code. Where no write takes a code from an item, nor gives it one of another
item, two scans of the same codes book the same item.
-/

namespace SentryWms.Catalog

open Python Relational Transition

/-! ## Bookings -/

/-- The codes of an accepted stock entry and the item it booked. -/
structure Booking where
  ean : String
  productCode : String
  itemId : ℕ
deriving DecidableEq

variable (library : Library)

def MpnFree (items : Table Item) (itemId : ℕ) (code : String) : Prop :=
  ∀ entry ∈ items.entries, entry.2.mpn = some code → entry.1 = itemId

def BarcodeFree (items : Table Item) (itemId : ℕ) (code : String) : Prop :=
  ∀ entry ∈ items.entries, barcodeMatches code entry.2 = true → entry.1 = itemId

/-- An item may get this manufacturer code: it is its own, or it had none and no other
item has it. -/
def MayGetMpn (items : Table Item) (itemId : ℕ) (item : Item) (mpn : Option String) : Prop :=
  item.mpn = mpn ∨
    item.mpn = none ∧ ∀ code, mpn = some code → MpnFree items itemId code

def Booking.Labels (booking : Booking) (item : Item) : Prop :=
  (booking.ean ≠ "" → barcodeMatches booking.ean item = true) ∧
    (booking.productCode ≠ "" → item.mpn = some booking.productCode)

def Booking.lookupCode (booking : Booking) : String :=
  if booking.ean = "" then booking.productCode else booking.ean

def Booking.Finds (booking : Booking) (item : Item) : Prop :=
  barcodeMatches booking.lookupCode item = true ∨
    booking.productCode ≠ "" ∧ item.mpn = some booking.productCode

/-- The booked item carries the codes, and it is the first that a lookup of them finds. -/
structure Booking.Kept (booking : Booking) (items : Table Item) : Prop where
  given : booking.lookupCode ≠ ""
  labelled : ∃ item : Item, (booking.itemId, item) ∈ items.entries ∧ booking.Labels item
  first : ∀ entry ∈ items.entries, booking.Finds entry.2 → booking.itemId ≤ entry.1

variable {booking : Booking} {items : Table Item}

theorem Booking.Labels.finds {item : Item} (hlabelled : booking.Labels item)
    (hgiven : booking.lookupCode ≠ "") : booking.Finds item := by
  rw [Booking.Finds]
  by_cases hean : booking.ean = ""
  · have hcode : booking.productCode ≠ "" := by
      rwa [Booking.lookupCode, if_pos hean] at hgiven
    exact Or.inr ⟨hcode, hlabelled.2 hcode⟩
  · rw [Booking.lookupCode, if_neg hean]
    exact Or.inl (hlabelled.1 hean)

theorem Booking.Kept.insert (hkept : booking.Kept items) (item : Item) :
    booking.Kept (items.insert item) where
  given := hkept.given
  labelled := by
    obtain ⟨booked, hbooked, hlabelled⟩ := hkept.labelled
    exact ⟨booked, (Table.mem_insert items).mpr (Or.inl hbooked), hlabelled⟩
  first := by
    intro entry hentry hfinds
    obtain ⟨booked, hbooked, -⟩ := hkept.labelled
    rcases (Table.mem_insert items).mp hentry with hold | hnew
    · exact hkept.first entry hold hfinds
    · rw [hnew]
      exact Nat.le_of_lt (Table.lt_next_of_mem items hbooked)

/-- A change that takes no code from its item and gives it none of another item. -/
structure Careful (items : Table Item) (itemId : ℕ) (change : Item → Item) : Prop where
  mpn : ∀ item, (itemId, item) ∈ items.entries →
    MayGetMpn items itemId item (change item).mpn
  keeps : ∀ item code, (itemId, item) ∈ items.entries →
    barcodeMatches code item = true → barcodeMatches code (change item) = true
  adds : ∀ item code, (itemId, item) ∈ items.entries →
    barcodeMatches code (change item) = true → barcodeMatches code item = true ∨
      BarcodeFree items itemId code ∧ MpnFree items itemId code

variable {itemId : ℕ}

theorem Booking.Kept.modify (hkept : booking.Kept items) {change : Item → Item}
    (hcareful : Careful items itemId change) :
    booking.Kept (items.modify itemId change) where
  given := hkept.given
  labelled := by
    obtain ⟨booked, hbooked, hlabelled⟩ := hkept.labelled
    refine ⟨_, (Table.mem_modify items).mpr ⟨booked, hbooked, rfl⟩, ?_⟩
    split
    · rename_i hkey
      rw [hkey] at hbooked
      refine ⟨fun hean => hcareful.keeps booked _ hbooked (hlabelled.1 hean), fun hcode => ?_⟩
      have hmpn := hlabelled.2 hcode
      rcases hcareful.mpn booked hbooked with hsame | ⟨hnone, -⟩
      · rw [← hsame, hmpn]
      · rw [hmpn] at hnone
        cases hnone
    · exact hlabelled
  first := by
    intro ⟨key, row⟩ hentry hfinds
    obtain ⟨booked, hbooked, hlabelled⟩ := hkept.labelled
    obtain ⟨before, hbefore, hrow⟩ := (Table.mem_modify items).mp hentry
    dsimp only at hfinds ⊢
    by_cases hkey : key = itemId
    · rw [if_pos hkey] at hrow
      subst hkey hrow
      -- A code that the change adds is none of the booked item, unless it is this one.
      rcases hfinds with hbarcode | ⟨hcode, hmpn⟩
      · rcases hcareful.adds before _ hbefore hbarcode with hhad | ⟨hfree, hmpnFree⟩
        · exact hkept.first (key, before) hbefore (Or.inl hhad)
        · have hfound := hlabelled.finds hkept.given
          rcases hfound with hbarcode' | ⟨hcode, hmpn⟩
          · exact (hfree _ hbooked hbarcode').le
          · by_cases hean : booking.ean = ""
            · rw [Booking.lookupCode, if_pos hean] at hmpnFree
              exact (hmpnFree _ hbooked hmpn).le
            · have hbarcode' := hlabelled.1 hean
              rw [Booking.lookupCode, if_neg hean] at hfree
              exact (hfree _ hbooked hbarcode').le
      · rcases hcareful.mpn before hbefore with hsame | ⟨-, hfree⟩
        · exact hkept.first (key, before) hbefore (Or.inr ⟨hcode, hsame.trans hmpn⟩)
        · exact (hfree _ hmpn _ hbooked (hlabelled.2 hcode)).le
    · rw [if_neg hkey] at hrow
      subst hrow
      exact hkept.first (key, before) hbefore hfinds

/-! ## Scans -/

variable {library} {db after : Database}

variable {request : Request}

end SentryWms.Catalog
