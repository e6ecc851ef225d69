import SentryWms.Inbound.StorageBins

/-!
# What a mirrored structure keeps

After a replacement the active bins are those of the request, a second post of the same
request finds nothing to do, a dry run foretells the counts, and a bin with stock stays
active. The first three rest on every code and the zone of the request standing for one row
each, and on what an update does not write.
-/

namespace SentryWms.StorageBins

open Relational

section Laws

variable {casefold : String → String} (lower : String → String)

/-- A bin holds what a row of the request says. -/
structure Carries (payload : StorageBinsPayload casefold) (after : Tables)
    (row : BinImportRow) (bin : Bin) : Prop where
  attributes : bin.attributes = row.desired
  description : bin.description = row.description
  zone : ∃ zone ∈ after.zones.entries,
    zone.1 = bin.zoneId ∧ lower zone.2.zoneCode = lower payload.zoneCode

/-- The active bins are those of the request, each once, with its attributes. -/
structure Faithful (payload : StorageBinsPayload casefold) (after : Tables) : Prop where
  listed : ∀ entry ∈ after.bins.entries, entry.2.isActive = true →
    ∃ row ∈ payload.bins, casefold row.binCode = casefold entry.2.binCode
  once : ∀ row ∈ payload.bins, ∃ bin,
    (after.bins.entries.map Prod.snd).filter
        (fun bin => bin.isActive && casefold bin.binCode == casefold row.binCode) = [bin] ∧
      Carries lower payload after row bin

/-- The laws of a mirrored structure, whatever order the database returns rows in. -/
structure Lawful (payload : StorageBinsPayload casefold) (tables : Tables) : Prop where
  faithful : payload.replace = true → ∀ zoneRows existingRows after report,
    zoneRows.Perm tables.zones.entries → existingRows.Perm tables.bins.entries →
    storageBinsPost lower payload false zoneRows existingRows tables = .ok (after, report) →
    Faithful lower payload after
  idempotent : ∀ zoneRows existingRows after report,
    zoneRows.Perm tables.zones.entries → existingRows.Perm tables.bins.entries →
    storageBinsPost lower payload false zoneRows existingRows tables = .ok (after, report) →
    ∀ zoneRows' existingRows',
      zoneRows'.Perm after.zones.entries → existingRows'.Perm after.bins.entries →
      ∃ report', storageBinsPost lower payload false zoneRows' existingRows' after =
          .ok (after, report') ∧
        report'.created = 0 ∧ report'.updated = 0
  honest : ∀ zoneRows existingRows,
    zoneRows.Perm tables.zones.entries → existingRows.Perm tables.bins.entries →
    ∃ report, storageBinsPost lower payload true zoneRows existingRows tables =
        .ok (tables, report) ∧
      ∀ zoneRows' existingRows' after report',
        zoneRows'.Perm tables.zones.entries → existingRows'.Perm tables.bins.entries →
        storageBinsPost lower payload false zoneRows' existingRows' tables =
          .ok (after, report') →
        report'.created = report.created ∧ report'.updated = report.updated ∧
          report'.unchanged = report.unchanged
  stocked : ∀ dryRun zoneRows existingRows after report,
    zoneRows.Perm tables.zones.entries → existingRows.Perm tables.bins.entries →
    storageBinsPost lower payload dryRun zoneRows existingRows tables = .ok (after, report) →
    ∀ row ∈ tables.inventory, row.occupied = true →
    ∀ bin, (row.binId, bin) ∈ tables.bins.entries → bin.isActive = true →
    ∃ bin', (row.binId, bin') ∈ after.bins.entries ∧ bin'.isActive = true

/-- The zone that a lookup gives, if there is one. -/
def zoneIdFor (payload : StorageBinsPayload casefold) (tables : Tables) : Option ℕ :=
  (zoneFor lower payload.zoneCode tables.zones.entries).map Prod.fst

/-- The tables hold one row at most for the zone and for each code of the request, apart
from rows of one code that no post would change, and no bin that a replacement finds has
another description or is taken for equal without being equal. -/
structure Clear (payload : StorageBinsPayload casefold) (tables : Tables) : Prop where
  zone : payload.bins ≠ [] → ∀ zone ∈ tables.zones.entries, ∀ other ∈ tables.zones.entries,
    lower zone.2.zoneCode = lower payload.zoneCode →
    lower other.2.zoneCode = lower payload.zoneCode → zone = other
  codes : ∀ row ∈ payload.bins, ∀ entry ∈ withCode casefold row.binCode tables.bins.entries,
    ∀ other ∈ withCode casefold row.binCode tables.bins.entries, entry ≠ other →
    payload.replace = false ∧
      differs false (zoneIdFor lower payload tables) entry.2 row.desired = false
  written : payload.replace = true → ∀ row ∈ payload.bins,
    ∀ entry ∈ withCode casefold row.binCode tables.bins.entries,
    entry.2.description = row.description ∧
      (differs true (zoneIdFor lower payload tables) entry.2 row.desired = false →
        entry.2.attributes = row.desired)

variable {lower} {payload : StorageBinsPayload casefold}

/-! ## Bins that are found again -/

theorem differs_update (replace : Bool) (zoneId : ℕ) (desired : Attributes) (bin : Bin) :
    differs replace (some zoneId) (bin.update replace zoneId desired) desired = false := by
  cases replace <;> simp [differs, Bin.update]

theorem differs_create (replace : Bool) (zoneId : ℕ) (row : BinImportRow) :
    differs replace (some zoneId) (row.create zoneId) row.desired = false := by
  simp [differs, BinImportRow.create]

theorem differs_touched (replace : Bool) (zoneId : ℕ) (row : BinImportRow) (bin : Bin) :
    differs replace (some zoneId) (touched replace zoneId row bin) row.desired = false := by
  rw [touched]
  split
  · exact differs_update _ _ _ _
  · next hsame => exact Bool.not_eq_true _ ▸ hsame

variable {bin : Bin}

theorem of_not_differs {replace : Bool} {zoneId : Option ℕ} {desired : Attributes}
    (hsame : differs replace zoneId bin desired = false) :
    zoneId = some bin.zoneId ∧ (replace = true → bin.isActive = true) := by
  simp only [differs, Bool.or_eq_false_iff, Bool.and_eq_false_iff, bne_eq_false_iff_eq,
    Bool.not_eq_false'] at hsame
  obtain ⟨⟨⟨⟨⟨⟨⟨⟨⟨hactive, hzone⟩, -⟩, -⟩, -⟩, -⟩, -⟩, -⟩, -⟩, -⟩ := hsame
  refine ⟨hzone.symm, fun hreplace => ?_⟩
  rcases hactive with hkept | hactive
  · rw [hreplace] at hkept
    cases hkept
  · exact hactive

theorem touched_zoneId (replace : Bool) (zoneId : ℕ) (row : BinImportRow) (bin : Bin) :
    (touched replace zoneId row bin).zoneId = zoneId := by
  rw [touched]
  split
  · rfl
  · next hsame =>
      have hzone := (of_not_differs (Bool.not_eq_true _ ▸ hsame)).1
      exact (Option.some.inj hzone).symm

theorem create_attributes (zoneId : ℕ) (row : BinImportRow) :
    (row.create zoneId).attributes = row.desired :=
  rfl

theorem update_attributes (replace : Bool) (zoneId : ℕ) (desired : Attributes) (bin : Bin) :
    (bin.update replace zoneId desired).attributes = desired :=
  rfl

/-! ## Lookups -/

variable {zoneCode : String} {zoneRows : List (ℕ × Zone)}

theorem zoneFor_some {zone : ℕ × Zone} (hzone : zoneFor lower zoneCode zoneRows = some zone) :
    zone ∈ zoneRows ∧ lower zone.2.zoneCode = lower zoneCode := by
  rw [zoneFor] at hzone
  have hcode := List.find?_some hzone
  exact ⟨List.mem_of_find?_eq_some hzone, beq_iff_eq.mp hcode⟩

theorem zoneFor_none :
    zoneFor lower zoneCode zoneRows = none ↔
      ∀ zone ∈ zoneRows, lower zone.2.zoneCode ≠ lower zoneCode := by
  simp [zoneFor, List.find?_eq_none]

variable {zones : Table Zone}

theorem zoneFor_perm (hrows : zoneRows.Perm zones.entries)
    (hunique : ∀ zone ∈ zones.entries, ∀ other ∈ zones.entries, lower zone.2.zoneCode = lower zoneCode → lower other.2.zoneCode = lower zoneCode → zone = other) :
    zoneFor lower zoneCode zoneRows = zoneFor lower zoneCode zones.entries := by
  cases hzone : zoneFor lower zoneCode zoneRows with
  | none =>
      symm
      rw [zoneFor_none] at hzone ⊢
      exact fun zone hmem => hzone zone (hrows.mem_iff.mpr hmem)
  | some zone =>
      obtain ⟨hmem, hcode⟩ := zoneFor_some hzone
      have hentry := hrows.mem_iff.mp hmem
      cases hfound : zoneFor lower zoneCode zones.entries with
      | none => exact absurd hcode (zoneFor_none.mp hfound zone hentry)
      | some found =>
          obtain ⟨hmem', hcode'⟩ := zoneFor_some hfound
          rw [hunique zone hentry found hmem' hcode hcode']

theorem realZone_mem (lower : String → String) (zoneCode : String)
    (hrows : zoneRows.Perm zones.entries) :
    ∃ zone ∈ (realZone lower zoneCode zoneRows zones).1.entries,
      zone.1 = (realZone lower zoneCode zoneRows zones).2 ∧
        lower zone.2.zoneCode = lower zoneCode := by
  rw [realZone]
  cases hzone : zoneFor lower zoneCode zoneRows with
  | none => exact ⟨(zones.next, ⟨zoneCode⟩), (zones.mem_insert).mpr (.inr rfl), rfl, rfl⟩
  | some zone =>
      obtain ⟨hmem, hcode⟩ := zoneFor_some hzone
      exact ⟨zone, hrows.mem_iff.mp hmem, rfl, hcode⟩

variable {zoneId : ℕ} {existingRows : List (ℕ × Bin)} {bins : Table Bin} {row : BinImportRow}

theorem mem_mirrored (hrows : existingRows.Perm bins.entries) (hrow : row ∈ payload.bins) :
    bin ∈ (mirrored payload zoneId existingRows bins).entries.map Prod.snd ∧
        casefold bin.binCode = casefold row.binCode ↔
      (∃ entry ∈ withCode casefold row.binCode bins.entries,
        bin = if existingByCode casefold existingRows row.binCode = some entry then
          touched payload.replace zoneId row entry.2 else entry.2) ∨
      isNew casefold existingRows row = true ∧ bin = row.create zoneId := by
  calc
    _ ↔ bin ∈ ((mirrored payload zoneId existingRows bins).entries.map Prod.snd).filter
        fun bin => casefold bin.binCode == casefold row.binCode := by
      rw [List.mem_filter, beq_iff_eq]
    _ ↔ _ := by
      rw [withCode_mirrored hrows hrow, List.mem_append, List.mem_map]
      apply or_congr
      · simp only [eq_comm]
      · cases isNew casefold existingRows row <;> simp

theorem existing_or_new (casefold : String → String) (hrows : existingRows.Perm bins.entries)
    (code : String) :
    (existingByCode casefold existingRows code = none ∧
        withCode casefold code bins.entries = []) ∨
      ∃ entry ∈ withCode casefold code bins.entries,
        existingByCode casefold existingRows code = some entry := by
  cases hexisting : existingByCode casefold existingRows code with
  | none =>
      left
      refine ⟨rfl, ?_⟩
      rw [withCode, List.filter_eq_nil_iff]
      intro entry hentry hcode
      exact existingByCode_none.mp hexisting entry (hrows.mem_iff.mpr hentry)
        (beq_iff_eq.mp hcode)
  | some entry =>
      right
      obtain ⟨hmem, hcode⟩ := existingByCode_some hexisting
      exact ⟨entry, List.mem_filter.mpr ⟨hrows.mem_iff.mp hmem, beq_iff_eq.mpr hcode⟩, rfl⟩

/-- The zone of a request that may write differs from that of a bin where the zone of a dry
run does: a zone that is yet to be created holds no bins. -/
theorem differs_realZone (hbin : bin.zoneId < zones.next) (replace : Bool)
    (desired : Attributes) :
    differs replace (some (realZone lower zoneCode zoneRows zones).2) bin desired =
      differs replace ((zoneFor lower zoneCode zoneRows).map Prod.fst) bin desired := by
  rw [realZone]
  cases zoneFor lower zoneCode zoneRows with
  | some zone => rfl
  | none =>
      have hne : (some bin.zoneId != some zones.next) = true := by
        rw [bne_iff_ne]
        intro heq
        exact hbin.ne (Option.some.inj heq)
      have hnone : (some bin.zoneId != none) = true := rfl
      simp only [differs, Option.map_none, hne, hnone]

variable {zoneRows' : List (ℕ × Zone)}

/-- A zone that a post has found or created is found by the next one. -/
theorem realZone_again (hrows : zoneRows.Perm zones.entries)
    (hrows' : zoneRows'.Perm (realZone lower zoneCode zoneRows zones).1.entries) :
    (realZone lower zoneCode zoneRows' (realZone lower zoneCode zoneRows zones).1).1 =
      (realZone lower zoneCode zoneRows zones).1 := by
  obtain ⟨zone, hmem, -, hcode⟩ := realZone_mem lower zoneCode hrows
  generalize (realZone lower zoneCode zoneRows zones).1 = after at hmem hrows' ⊢
  rw [realZone]
  cases hzone : zoneFor lower zoneCode zoneRows' with
  | none => exact absurd hcode (zoneFor_none.mp hzone zone (hrows'.mem_iff.mpr hmem))
  | some found => rfl

theorem realZone_again_id (hrows : zoneRows.Perm zones.entries)
    (hrows' : zoneRows'.Perm (realZone lower zoneCode zoneRows zones).1.entries)
    (hunique : ∀ zone ∈ zones.entries, ∀ other ∈ zones.entries, lower zone.2.zoneCode = lower zoneCode → lower other.2.zoneCode = lower zoneCode → zone = other) :
    (realZone lower zoneCode zoneRows' (realZone lower zoneCode zoneRows zones).1).2 =
      (realZone lower zoneCode zoneRows zones).2 := by
  rw [realZone] at hrows'
  cases hzone : zoneFor lower zoneCode zoneRows with
  | some zone =>
      rw [hzone] at hrows'
      have hagain : zoneFor lower zoneCode zoneRows' = some zone := by
        rw [zoneFor_perm hrows' hunique, ← zoneFor_perm hrows hunique, hzone]
      simp only [realZone, hzone, hagain]
  | none =>
      rw [hzone] at hrows'
      cases hagain : zoneFor lower zoneCode zoneRows' with
      | none =>
          have hnew : (zones.next, Zone.mk zoneCode) ∈ zoneRows' :=
            hrows'.mem_iff.mpr ((zones.mem_insert).mpr (.inr rfl))
          exact absurd rfl (zoneFor_none.mp hagain _ hnew)
      | some found =>
          obtain ⟨hmem, hcode⟩ := zoneFor_some hagain
          rcases (zones.mem_insert).mp (hrows'.mem_iff.mp hmem) with hold | hnew
          · exact absurd hcode (zoneFor_none.mp hzone found (hrows.mem_iff.mpr hold))
          · simp only [realZone, hzone, hagain, hnew]

/-! ## The laws where the structure is clear -/

variable {warehouse : Warehouse} {zoneRows : List (ℕ × Zone)}
  {existingRows : List (ℕ × Bin)}

variable {entry : ℕ × Bin}

theorem Clear.differs_eq (hclear : Clear lower payload warehouse.toTables)
    (hzones : zoneRows.Perm warehouse.zones.entries) (hrow : row ∈ payload.bins)
    (hentry : entry ∈ warehouse.bins.entries) (replace : Bool) :
    differs replace (some (realZone lower payload.zoneCode zoneRows warehouse.zones).2)
        entry.2 row.desired =
      differs replace (zoneIdFor lower payload warehouse.toTables) entry.2 row.desired := by
  rw [differs_realZone (warehouse.references entry hentry), zoneIdFor,
    zoneFor_perm hzones (hclear.zone (List.ne_nil_of_mem hrow))]

theorem Clear.settled (hclear : Clear lower payload warehouse.toTables)
    (hzones : zoneRows.Perm warehouse.zones.entries)
    (hbins : existingRows.Perm warehouse.bins.entries) (hrow : row ∈ payload.bins)
    (hbin : bin ∈ (mirrored payload (realZone lower payload.zoneCode zoneRows warehouse.zones).2 existingRows warehouse.bins).entries.map Prod.snd)
    (hcode : casefold bin.binCode = casefold row.binCode) :
    differs payload.replace
      (some (realZone lower payload.zoneCode zoneRows warehouse.zones).2) bin row.desired =
      false := by
  rcases (mem_mirrored hbins hrow).mp ⟨hbin, hcode⟩ with ⟨entry, hentry, rfl⟩ | ⟨-, rfl⟩
  · by_cases hfound : existingByCode casefold existingRows row.binCode = some entry
    · rw [if_pos hfound]
      exact differs_touched _ _ _ _
    · rw [if_neg hfound]
      rcases existing_or_new casefold hbins row.binCode with ⟨-, hempty⟩ | ⟨other, hother, hsome⟩
      · rw [hempty] at hentry
        cases hentry
      · have hne : entry ≠ other := by
          rintro rfl
          exact hfound hsome
        obtain ⟨hreplace, hsame⟩ := hclear.codes row hrow entry hentry other hother hne
        rw [hclear.differs_eq hzones hrow (List.mem_of_mem_filter hentry), hreplace]
        exact hsame
  · exact differs_create _ _ _

variable {existingRows' : List (ℕ × Bin)}

theorem mirrored_eq_self (hrows : existingRows.Perm bins.entries)
    (hfound : ∀ row ∈ payload.bins, isNew casefold existingRows row = false)
    (hsame : ∀ row ∈ payload.bins, isChanged casefold payload.replace (some zoneId) existingRows row = false)
    (hlisted : payload.replace = true → ∀ entry ∈ bins.entries, entry.2.isActive = true → payload.lists entry.2 = true) :
    mirrored payload zoneId existingRows bins = bins := by
  have hnone : payload.bins.filter (isNew casefold existingRows) = [] := by
    rw [List.filter_eq_nil_iff]
    intro row hrow
    rw [hfound row hrow]
    exact Bool.false_ne_true
  have hstart : (if payload.replace then
      retire ((retired payload existingRows).map Prod.fst) bins else bins) = bins := by
    cases hreplace : payload.replace with
    | false => rfl
    | true =>
        have hretired : retired payload existingRows = [] := by
          rw [retired, List.filter_eq_nil_iff]
          intro entry hentry hretired
          rw [Bool.and_eq_true, Bool.not_eq_true'] at hretired
          have hlists := hlisted hreplace entry (hrows.mem_iff.mp hentry) hretired.2
          rw [hretired.1] at hlists
          cases hlists
        rw [hretired]
        exact (Table.mapRows_congr _ fun _ _ _ => rfl).trans (Table.mapRows_id _)
  rw [mirrored, hnone, hstart]
  refine (Table.mapRows_congr _ fun binId bin hbin => ?_).trans (Table.mapRows_id _)
  apply settle_of_none
  intro row hrow
  have hrest := hsame row hrow
  rw [isChanged] at hrest
  rw [updates]
  cases hexisting : existingByCode casefold existingRows row.binCode with
  | none => rfl
  | some entry =>
      rw [hexisting, Option.any_some] at hrest
      rw [Option.any_some, hrest, Bool.and_false]

def afterPost (lower : String → String) (payload : StorageBinsPayload casefold)
    (zoneRows : List (ℕ × Zone)) (existingRows : List (ℕ × Bin)) (tables : Tables) : Tables where
  zones := (realZone lower payload.zoneCode zoneRows tables.zones).1
  bins := mirrored payload (realZone lower payload.zoneCode zoneRows tables.zones).2
    existingRows tables.bins
  inventory := tables.inventory

variable {report : Report}

theorem of_post {tables after : Tables} (hbins : existingRows.Perm tables.bins.entries)
    (hpost : storageBinsPost lower payload false zoneRows existingRows tables = .ok (after, report)) :
    (payload.replace && tables.inventory.any InventoryRow.occupied) = false ∧
      after = afterPost lower payload zoneRows existingRows tables ∧
      report.Counts payload
        (some (realZone lower payload.zoneCode zoneRows tables.zones).2) existingRows := by
  cases haccepted : payload.replace && tables.inventory.any InventoryRow.occupied with
  | true =>
      rw [post_refused payload zoneRows existingRows haccepted] at hpost
      cases hpost
  | false =>
      obtain ⟨report', hpost', hcounts⟩ := post_real payload zoneRows hbins haccepted
      rw [hpost'] at hpost
      cases hpost
      exact ⟨rfl, rfl, hcounts⟩

theorem listed_of_active (hreplace : payload.replace = true)
    (hbins : existingRows.Perm bins.entries)
    (hbin : bin ∈ (mirrored payload zoneId existingRows bins).entries.map Prod.snd)
    (hactive : bin.isActive = true) : payload.lists bin = true := by
  rw [mirrored_values hbins, List.mem_append] at hbin
  rcases hbin with hold | hnew
  · obtain ⟨entry, hentry, rfl⟩ := List.mem_map.mp hold
    cases hlists : payload.lists entry.2 with
    | true =>
        rw [StorageBinsPayload.lists, settle_binCode, retiredRow_binCode]
        exact hlists
    | false =>
        rw [settle_unlisted hbins hentry hlists, retiredRow, hreplace, hlists] at hactive
        cases hactive
  · obtain ⟨row, hrow, rfl⟩ := List.mem_map.mp hnew
    rw [StorageBinsPayload.lists, List.any_eq_true]
    exact ⟨row, List.mem_of_mem_filter hrow, beq_self_eq_true _⟩

theorem Clear.one (hclear : Clear lower payload warehouse.toTables)
    (hreplace : payload.replace = true) (hrow : row ∈ payload.bins)
    (hentry : entry ∈ withCode casefold row.binCode warehouse.bins.entries) :
    withCode casefold row.binCode warehouse.bins.entries = [entry] := by
  have hall : ∀ other ∈ withCode casefold row.binCode warehouse.bins.entries,
      other = entry := by
    intro other hother
    by_contra hne
    have hplain := (hclear.codes row hrow other hother entry hentry hne).1
    rw [hreplace] at hplain
    cases hplain
  have hnodup : (withCode casefold row.binCode warehouse.bins.entries).Nodup :=
    warehouse.bins.nodup_entries.filter _
  exact List.perm_singleton.mp ((List.perm_ext_iff_of_nodup hnodup
    (List.nodup_singleton entry)).mpr fun other => by
      rw [List.mem_singleton]
      exact ⟨hall other, fun heq => heq ▸ hentry⟩)

theorem touched_active {replace : Bool} (hreplace : replace = true) (zoneId : ℕ)
    (row : BinImportRow) (bin : Bin) : (touched replace zoneId row bin).isActive = true := by
  rw [touched]
  split
  · rw [hreplace]
    rfl
  · next hsame => exact (of_not_differs (Bool.not_eq_true _ ▸ hsame)).2 hreplace

theorem Clear.faithful (hclear : Clear lower payload warehouse.toTables)
    (hreplace : payload.replace = true)
    (hzones : zoneRows.Perm warehouse.zones.entries)
    (hbins : existingRows.Perm warehouse.bins.entries) :
    Faithful lower payload
      (afterPost lower payload zoneRows existingRows warehouse.toTables) := by
  obtain ⟨zone, hzone, hzoneId, hzoneCode⟩ := realZone_mem lower payload.zoneCode hzones
  constructor
  · intro entry hentry hactive
    have hlists := listed_of_active hreplace hbins (List.mem_map_of_mem hentry) hactive
    rw [StorageBinsPayload.lists, List.any_eq_true] at hlists
    obtain ⟨row, hrow, hcode⟩ := hlists
    exact ⟨row, hrow, beq_iff_eq.mp hcode⟩
  · intro row hrow
    rw [← List.filter_filter, afterPost, withCode_mirrored hbins hrow]
    rcases existing_or_new casefold hbins row.binCode with ⟨hnone, hempty⟩ | ⟨entry, hentry, hsome⟩
    · have hnew : isNew casefold existingRows row = true := by rw [isNew, hnone]; rfl
      rw [hempty, hnew]
      exact ⟨_, rfl, create_attributes _ _, rfl, zone, hzone, hzoneId, hzoneCode⟩
    · have hold : isNew casefold existingRows row = false := by rw [isNew, hsome]; rfl
      rw [hclear.one hreplace hrow hentry, hold, List.map_singleton, hsome, if_pos rfl,
        if_neg Bool.false_ne_true, List.append_nil]
      have hactive := touched_active hreplace
        (realZone lower payload.zoneCode zoneRows warehouse.zones).2 row entry.2
      obtain ⟨hdescription, hequal⟩ := hclear.written hreplace row hrow entry hentry
      refine ⟨_, List.filter_cons_of_pos hactive, ?_, ?_, zone, hzone, ?_, hzoneCode⟩
      · rw [touched]
        split
        · exact update_attributes _ _ _ _
        · next hsame =>
            apply hequal
            rw [← hclear.differs_eq hzones hrow (List.mem_of_mem_filter hentry), ← hreplace]
            exact Bool.not_eq_true _ ▸ hsame
      · rw [touched]
        split <;> exact hdescription
      · rw [touched_zoneId]
        exact hzoneId

theorem exists_mirrored (hbins : existingRows.Perm bins.entries) (hrow : row ∈ payload.bins) :
    ∃ entry ∈ (mirrored payload zoneId existingRows bins).entries,
      casefold entry.2.binCode = casefold row.binCode ∧ entry.2.zoneId = zoneId := by
  have hbin : ∃ bin, (bin ∈ (mirrored payload zoneId existingRows bins).entries.map Prod.snd ∧
      casefold bin.binCode = casefold row.binCode) ∧ bin.zoneId = zoneId := by
    rcases existing_or_new casefold hbins row.binCode with ⟨hnone, -⟩ | ⟨entry, hentry, hsome⟩
    · have hnew : isNew casefold existingRows row = true := by rw [isNew, hnone]; rfl
      exact ⟨row.create zoneId, (mem_mirrored hbins hrow).mpr (.inr ⟨hnew, rfl⟩), rfl⟩
    · refine ⟨_, (mem_mirrored hbins hrow).mpr (.inl ⟨entry, hentry, rfl⟩), ?_⟩
      rw [if_pos hsome]
      exact touched_zoneId _ _ _ _
  obtain ⟨bin, ⟨hmem, hcode⟩, hzone⟩ := hbin
  obtain ⟨entry, hentry, rfl⟩ := List.mem_map.mp hmem
  exact ⟨entry, hentry, hcode, hzone⟩

theorem Clear.idempotent (hclear : Clear lower payload warehouse.toTables)
    (haccepted : (payload.replace && warehouse.inventory.any InventoryRow.occupied) = false)
    (hzones : zoneRows.Perm warehouse.zones.entries)
    (hbins : existingRows.Perm warehouse.bins.entries)
    (hzones' : zoneRows'.Perm (afterPost lower payload zoneRows existingRows warehouse.toTables).zones.entries)
    (hbins' : existingRows'.Perm (afterPost lower payload zoneRows existingRows warehouse.toTables).bins.entries) :
    ∃ report, storageBinsPost lower payload false zoneRows' existingRows'
        (afterPost lower payload zoneRows existingRows warehouse.toTables) =
          .ok (afterPost lower payload zoneRows existingRows warehouse.toTables, report) ∧
      report.created = 0 ∧ report.updated = 0 := by
  have hfound : ∀ row ∈ payload.bins, isNew casefold existingRows' row = false := by
    intro row hrow
    obtain ⟨entry, hentry, hcode, -⟩ := exists_mirrored hbins hrow
    rw [← Bool.not_eq_true, isNew, Option.isNone_iff_eq_none, existingByCode_none]
    exact fun hnone => hnone entry (hbins'.mem_iff.mpr hentry) hcode
  have hsame : ∀ row ∈ payload.bins, isChanged casefold payload.replace
      (some (realZone lower payload.zoneCode zoneRows'
        (afterPost lower payload zoneRows existingRows warehouse.toTables).zones).2)
      existingRows' row = false := by
    intro row hrow
    have hagain : (realZone lower payload.zoneCode zoneRows'
        (afterPost lower payload zoneRows existingRows warehouse.toTables).zones).2 =
        (realZone lower payload.zoneCode zoneRows warehouse.zones).2 :=
      realZone_again_id hzones hzones' (hclear.zone (List.ne_nil_of_mem hrow))
    rw [hagain, isChanged]
    cases hexisting : existingByCode casefold existingRows' row.binCode with
    | none => rfl
    | some entry =>
        obtain ⟨hentry, hcode⟩ := existingByCode_some hexisting
        exact hclear.settled hzones hbins hrow
          (List.mem_map_of_mem (hbins'.mem_iff.mp hentry)) hcode
  have hlisted : payload.replace = true →
      ∀ entry ∈ (afterPost lower payload zoneRows existingRows
        warehouse.toTables).bins.entries, entry.2.isActive = true →
        payload.lists entry.2 = true :=
    fun hreplace entry hentry hactive =>
      listed_of_active hreplace hbins (List.mem_map_of_mem hentry) hactive
  obtain ⟨report, hpost, hcounts⟩ := post_real payload zoneRows' hbins' haccepted
  refine ⟨report, ?_, ?_, ?_⟩
  · have hzonesKept : (realZone lower payload.zoneCode zoneRows'
        (afterPost lower payload zoneRows existingRows warehouse.toTables).zones).1 =
        (afterPost lower payload zoneRows existingRows warehouse.toTables).zones :=
      realZone_again hzones hzones'
    rw [hpost, hzonesKept, mirrored_eq_self hbins' hfound hsame hlisted]
  · rw [hcounts.created, List.countP_eq_zero]
    intro row hrow
    rw [hfound row hrow]
    exact Bool.false_ne_true
  · rw [hcounts.updated, List.countP_eq_zero]
    intro row hrow
    rw [hsame row hrow]
    exact Bool.false_ne_true

/-- The rows of a table with one of them last. -/
def putLast (entries : List (ℕ × Bin)) (entry : ℕ × Bin) : List (ℕ × Bin) :=
  entries.erase entry ++ [entry]

theorem perm_last {entries : List (ℕ × Bin)} (hmem : entry ∈ entries) :
    (putLast entries entry).Perm entries :=
  List.perm_append_comm.trans (List.perm_cons_erase hmem).symm

theorem Lawful.not_differs (hlawful : Lawful lower payload warehouse.toTables)
    (haccepted : (payload.replace && warehouse.inventory.any InventoryRow.occupied) = false)
    (hzones : zoneRows.Perm warehouse.zones.entries)
    (hbins : existingRows.Perm warehouse.bins.entries)
    (hzones' : zoneRows'.Perm (afterPost lower payload zoneRows existingRows warehouse.toTables).zones.entries)
    (hrow : row ∈ payload.bins)
    (hentry : entry ∈ (afterPost lower payload zoneRows existingRows warehouse.toTables).bins.entries)
    (hcode : casefold entry.2.binCode = casefold row.binCode) :
    differs payload.replace (some (realZone lower payload.zoneCode zoneRows'
      (afterPost lower payload zoneRows existingRows warehouse.toTables).zones).2) entry.2
      row.desired = false := by
  obtain ⟨report, hpost, -⟩ := post_real payload zoneRows hbins haccepted
  obtain ⟨report', hpost', -, hupdated⟩ := hlawful.idempotent zoneRows existingRows _ report
    hzones hbins hpost zoneRows' _ hzones' (perm_last hentry)
  have hcounts := (of_post (perm_last hentry) hpost').2.2
  rw [hcounts.updated, List.countP_eq_zero] at hupdated
  have hrest := hupdated row hrow
  rw [isChanged, putLast, existingByCode_append hcode, Option.any_some,
    Bool.not_eq_true] at hrest
  exact hrest

theorem Lawful.zone (hlawful : Lawful lower payload warehouse.toTables)
    (haccepted :
      (payload.replace && warehouse.inventory.any InventoryRow.occupied) = false)
    (hrows : payload.bins ≠ []) {zone other : ℕ × Zone}
    (hzone : zone ∈ warehouse.zones.entries) (hother : other ∈ warehouse.zones.entries)
    (hcode : lower zone.2.zoneCode = lower payload.zoneCode)
    (hcode' : lower other.2.zoneCode = lower payload.zoneCode) : zone = other := by
  obtain ⟨row, hrow⟩ := List.exists_mem_of_ne_nil _ hrows
  have hfirst : ∀ found : ℕ × Zone, lower found.2.zoneCode = lower payload.zoneCode →
      ∀ rest, realZone lower payload.zoneCode (found :: rest) warehouse.zones =
        (warehouse.zones, found.1) := by
    intro found hfound rest
    have hfind : zoneFor lower payload.zoneCode (found :: rest) = some found := by
      rw [zoneFor, List.find?_cons, beq_iff_eq.mpr hfound]
    simp only [realZone, hfind]
  have hzones := (List.perm_cons_erase hzone).symm
  let after := afterPost lower payload (zone :: warehouse.zones.entries.erase zone)
    warehouse.bins.entries warehouse.toTables
  have hafter : after.zones = warehouse.zones := congrArg Prod.fst (hfirst zone hcode _)
  have hzones' : (other :: warehouse.zones.entries.erase other).Perm after.zones.entries := by
    rw [hafter]
    exact (List.perm_cons_erase hother).symm
  obtain ⟨entry, hentry, hentryCode, hentryZone⟩ : ∃ entry ∈ after.bins.entries,
      casefold entry.2.binCode = casefold row.binCode ∧ entry.2.zoneId = _ :=
    exists_mirrored (List.Perm.refl warehouse.bins.entries) hrow
  have hsame := hlawful.not_differs haccepted hzones (List.Perm.refl _) hzones' hrow hentry
    hentryCode
  rw [show (afterPost lower payload (zone :: warehouse.zones.entries.erase zone)
      warehouse.bins.entries warehouse.toTables).zones = warehouse.zones from hafter,
    hfirst other hcode'] at hsame
  rw [hfirst zone hcode] at hentryZone
  have hid : other.1 = zone.1 :=
    (Option.some.inj (of_not_differs hsame).1).trans hentryZone
  exact Prod.ext hid.symm (warehouse.zones.row_unique hzone (hid ▸ hother))

theorem Lawful.same (hlawful : Lawful lower payload warehouse.toTables)
    (haccepted : (payload.replace && warehouse.inventory.any InventoryRow.occupied) = false)
    (hrow : row ∈ payload.bins) {other : ℕ × Bin}
    (hentry : entry ∈ withCode casefold row.binCode warehouse.bins.entries)
    (hother : other ∈ withCode casefold row.binCode warehouse.bins.entries)
    (hne : entry ≠ other) :
    differs payload.replace (zoneIdFor lower payload warehouse.toTables) entry.2 row.desired =
      false := by
  obtain ⟨hmem, hcode⟩ := List.mem_filter.mp hentry
  obtain ⟨hmem', hcode'⟩ := List.mem_filter.mp hother
  rw [beq_iff_eq] at hcode hcode'
  have hbins := perm_last hmem'
  let after := afterPost lower payload warehouse.zones.entries
    (putLast warehouse.bins.entries other) warehouse.toTables
  have hkept : entry.2 ∈ after.bins.entries.map Prod.snd := by
    refine ((mem_mirrored hbins hrow).mpr (.inl ⟨entry, hentry, ?_⟩)).1
    rw [putLast, existingByCode_append hcode',
      if_neg fun heq => hne (Option.some.inj heq).symm]
  obtain ⟨kept, hkeptMem, hkeptRow⟩ := List.mem_map.mp hkept
  have hsame : differs payload.replace (some (realZone lower payload.zoneCode
      after.zones.entries after.zones).2) kept.2 row.desired = false :=
    hlawful.not_differs haccepted (List.Perm.refl _) hbins (List.Perm.refl _) hrow hkeptMem
      (by rw [hkeptRow]; exact hcode)
  have hagain : (realZone lower payload.zoneCode after.zones.entries after.zones).2 =
      (realZone lower payload.zoneCode warehouse.zones.entries warehouse.zones).2 :=
    realZone_again_id (List.Perm.refl _) (List.Perm.refl _) fun zone hzone other hother =>
      hlawful.zone haccepted (List.ne_nil_of_mem hrow) hzone hother
  rw [hagain, hkeptRow, differs_realZone (warehouse.references entry hmem)] at hsame
  exact hsame

theorem Lawful.written (hlawful : Lawful lower payload warehouse.toTables)
    (haccepted : (payload.replace && warehouse.inventory.any InventoryRow.occupied) = false)
    (hreplace : payload.replace = true) (hrow : row ∈ payload.bins)
    (hentry : entry ∈ withCode casefold row.binCode warehouse.bins.entries) :
    entry.2.description = row.description ∧
      (differs true (zoneIdFor lower payload warehouse.toTables) entry.2 row.desired = false →
        entry.2.attributes = row.desired) := by
  obtain ⟨hmem, hcode⟩ := List.mem_filter.mp hentry
  rw [beq_iff_eq] at hcode
  have hbins := perm_last hmem
  obtain ⟨report, hpost, -⟩ := post_real payload warehouse.zones.entries hbins haccepted
  obtain ⟨bin, hfilter, hcarries⟩ := (hlawful.faithful hreplace _ _ _ report
    (List.Perm.refl _) hbins hpost).once row hrow
  let zoneId := (realZone lower payload.zoneCode warehouse.zones.entries warehouse.zones).2
  have hfound : touched payload.replace zoneId row entry.2 = bin := by
    rw [← List.mem_singleton, ← hfilter, ← List.filter_filter,
      withCode_mirrored hbins hrow, List.mem_filter, List.mem_append]
    refine ⟨.inl (List.mem_map.mpr ⟨entry, hentry, ?_⟩), touched_active hreplace _ _ _⟩
    rw [putLast, existingByCode_append hcode, if_pos rfl]
  rw [← hfound] at hcarries
  constructor
  · rw [← hcarries.description, touched]
    split <;> rfl
  · intro hsame
    have hkept : differs payload.replace (some zoneId) entry.2 row.desired = false := by
      rw [hreplace, differs_realZone (warehouse.references entry hmem)]
      exact hsame
    have hattributes := hcarries.attributes
    rw [touched, hkept, if_neg Bool.false_ne_true] at hattributes
    exact hattributes

end Laws

/-! ## Two bins whose codes differ in case -/

end SentryWms.StorageBins
