import SentryWms.Core.Numeral
import SentryWms.Core.Table
import SentryWms.Core.Transition

/-!
# Mirroring a bin structure

A request lists the bins that a warehouse should have. A bin is created where no existing
one has its code, apart from case, and updated where the one that is found differs; with
`replace` the active bins that are not listed are retired. A dry run only counts.
-/

namespace SentryWms.StorageBins

open Relational

/-! ## Tables -/

/-- A row of `zones`. -/
structure Zone where
  zoneCode : String
deriving DecidableEq

/-- A row of `bins`. A null `is_active` counts as false. -/
structure Bin where
  zoneId : ℕ
  binCode : String
  binBarcode : String
  binType : String
  aisle : Option String
  rowNum : Option String
  levelNum : Option String
  positionNum : Option String
  pickSequence : ℤ
  putawaySequence : ℤ
  description : Option String
  isActive : Bool
deriving DecidableEq

structure InventoryRow where
  binId : ℕ
  quantityOnHand : ℤ
  quantityAllocated : ℤ

/-- The zones, bins and inventory of one warehouse. -/
structure Tables where
  zones : Table Zone
  bins : Table Bin
  inventory : List InventoryRow

/-- Tables that keep the foreign key of the bins. -/
structure Warehouse extends Tables where
  references : ∀ entry ∈ bins.entries, entry.2.zoneId < zones.next

/-- The row holds stock or a reservation. -/
def InventoryRow.occupied (row : InventoryRow) : Bool :=
  row.quantityOnHand != 0 || row.quantityAllocated != 0

/-! ## Requests -/

structure BinImportRow where
  binCode : String
  binBarcode : Option String
  binType : Option String
  aisle : Option String
  rowNum : Option String
  levelNum : Option String
  positionNum : Option String
  pickSequence : Option ℕ
  putawaySequence : Option ℕ
  description : Option String

/-- An accepted `source_payload`: no two of its rows have one code, apart from case. -/
structure StorageBinsPayload (casefold : String → String) where
  zoneCode : String
  replace : Bool
  bins : List BinImportRow
  distinct : (bins.map fun row => casefold row.binCode).Nodup

/-- The fields that are compared and written. -/
structure Attributes where
  barcode : String
  type : String
  aisle : Option String
  rowNum : Option String
  levelNum : Option String
  positionNum : Option String
  pickSequence : ℤ
  putawaySequence : ℤ

def Bin.attributes (bin : Bin) : Attributes where
  barcode := bin.binBarcode
  type := bin.binType
  aisle := bin.aisle
  rowNum := bin.rowNum
  levelNum := bin.levelNum
  positionNum := bin.positionNum
  pickSequence := bin.pickSequence
  putawaySequence := bin.putawaySequence

def orText (value : Option String) (default : String) : String :=
  if value.getD "" = "" then default else value.getD ""

def BinImportRow.desired (row : BinImportRow) : Attributes where
  barcode := orText row.binBarcode row.binCode
  type := orText row.binType "Pickable"
  aisle := row.aisle
  rowNum := row.rowNum
  levelNum := row.levelNum
  positionNum := row.positionNum
  pickSequence := row.pickSequence.getD 0
  putawaySequence := row.putawaySequence.getD 0

def textValue (value : Option String) : List Char :=
  PyText.strip (value.getD "").toList

def differs (replace : Bool) (zoneId : Option ℕ) (bin : Bin) (desired : Attributes) : Bool :=
  (replace && !bin.isActive) ||
  some bin.zoneId != zoneId ||
  textValue (some bin.binBarcode) != textValue (some desired.barcode) ||
  textValue (some bin.binType) != textValue (some desired.type) ||
  textValue bin.aisle != textValue desired.aisle ||
  textValue bin.rowNum != textValue desired.rowNum ||
  textValue bin.levelNum != textValue desired.levelNum ||
  textValue bin.positionNum != textValue desired.positionNum ||
  bin.pickSequence != desired.pickSequence ||
  bin.putawaySequence != desired.putawaySequence

def Bin.update (replace : Bool) (zoneId : ℕ) (desired : Attributes) (bin : Bin) : Bin where
  zoneId := zoneId
  binCode := bin.binCode
  binBarcode := desired.barcode
  binType := desired.type
  aisle := desired.aisle
  rowNum := desired.rowNum
  levelNum := desired.levelNum
  positionNum := desired.positionNum
  pickSequence := desired.pickSequence
  putawaySequence := desired.putawaySequence
  description := bin.description
  isActive := replace || bin.isActive

/-- The `INSERT` of a bin. -/
def BinImportRow.create (zoneId : ℕ) (row : BinImportRow) : Bin where
  zoneId := zoneId
  binCode := row.binCode
  binBarcode := row.desired.barcode
  binType := row.desired.type
  aisle := row.desired.aisle
  rowNum := row.desired.rowNum
  levelNum := row.desired.levelNum
  positionNum := row.desired.positionNum
  pickSequence := row.desired.pickSequence
  putawaySequence := row.desired.putawaySequence
  description := row.description
  isActive := true

/-! ## The request -/

/-- `desired_zone_id`, and whether the request may write. Only a dry run can be without a
zone. -/
inductive Target where
  | dry (zoneId : Option ℕ)
  | real (zoneId : ℕ)

def Target.zoneId : Target → Option ℕ
  | dry zoneId => zoneId
  | real zoneId => some zoneId

/-- The bins so far, and the counts. -/
structure Progress where
  bins : Table Bin
  created : ℕ
  updated : ℕ
  unchanged : ℕ

/-- The counts of the response. -/
structure Report where
  zoneCreated : Bool
  retired : ℕ
  created : ℕ
  updated : ℕ
  unchanged : ℕ

/-- The counts of the response, after the last row. -/
def Progress.report (done : Progress) (zoneCreated : Bool) (retired : ℕ) : Report where
  zoneCreated := zoneCreated
  retired := retired
  created := done.created
  updated := done.updated
  unchanged := done.unchanged

/-- The request is answered 409. -/
inductive StorageBinsError where
  | inventoryNotEmpty

section Post

variable (casefold lower : String → String)

/-- `existing_by_code[code]`: of several rows the last one stays. -/
def existingByCode (existingRows : List (ℕ × Bin)) (code : String) : Option (ℕ × Bin) :=
  existingRows.reverse.find? fun entry => casefold entry.2.binCode == casefold code

def mirrorRow (replace : Bool) (target : Target) (existingRows : List (ℕ × Bin))
    (progress : Progress) (row : BinImportRow) : Progress :=
  match existingByCode casefold existingRows row.binCode with
  | none =>
      { progress with
        created := progress.created + 1
        bins :=
          match target with
          | .dry _ => progress.bins
          | .real zoneId => progress.bins.insert (row.create zoneId) }
  | some (binId, existing) =>
      if differs replace target.zoneId existing row.desired then
        { progress with
          updated := progress.updated + 1
          bins :=
            match target with
            | .dry _ => progress.bins
            | .real zoneId =>
                progress.bins.modify binId (Bin.update replace zoneId row.desired) }
      else { progress with unchanged := progress.unchanged + 1 }

/-- The zone of the request, as a query with `LIMIT 1` finds it. -/
def zoneFor (zoneCode : String) (zoneRows : List (ℕ × Zone)) : Option (ℕ × Zone) :=
  zoneRows.find? fun entry => lower entry.2.zoneCode == lower zoneCode

variable {casefold}

/-- The code, apart from case, is one of the request. -/
def StorageBinsPayload.lists (payload : StorageBinsPayload casefold) (bin : Bin) : Bool :=
  payload.bins.any fun row => casefold row.binCode == casefold bin.binCode

def retired (payload : StorageBinsPayload casefold) (existingRows : List (ℕ × Bin)) :
    List (ℕ × Bin) :=
  existingRows.filter fun entry => !payload.lists entry.2 && entry.2.isActive

/-- `UPDATE bins SET is_active = FALSE WHERE bin_id = ANY(:ids)`. -/
def retire (ids : List ℕ) (bins : Table Bin) : Table Bin :=
  bins.mapRows fun binId bin => if binId ∈ ids then { bin with isActive := false } else bin

def chooseZone (dryRun : Bool) (zoneCode : String) (zoneRows : List (ℕ × Zone))
    (zones : Table Zone) : Table Zone × Target :=
  match zoneFor lower zoneCode zoneRows, dryRun with
  | some zone, true => (zones, .dry (some zone.1))
  | some zone, false => (zones, .real zone.1)
  | none, true => (zones, .dry none)
  | none, false => (zones.insert ⟨zoneCode⟩, .real zones.next)

/-- `_storage_bins_post`, from the lookup of the zone on. The rows of the two queries come
in the order that the database chooses. -/
def storageBinsPost (payload : StorageBinsPayload casefold) (dryRun : Bool)
    (zoneRows : List (ℕ × Zone)) (existingRows : List (ℕ × Bin)) (tables : Tables) :
    Except StorageBinsError (Tables × Report) :=
  let (zones, target) := chooseZone lower dryRun payload.zoneCode zoneRows tables.zones
  let retiredRows := retired payload existingRows
  if payload.replace && !dryRun && tables.inventory.any InventoryRow.occupied then
    .error .inventoryNotEmpty
  else
    let bins :=
      if payload.replace && !dryRun then retire (retiredRows.map Prod.fst) tables.bins
      else tables.bins
    let done := payload.bins.foldl
      (mirrorRow casefold payload.replace target existingRows) ⟨bins, 0, 0, 0⟩
    .ok ({ tables with zones := zones, bins := done.bins },
      done.report (zoneFor lower payload.zoneCode zoneRows).isNone
        (if payload.replace then retiredRows.length else 0))

end Post

/-! ## The existing bin of a code -/

section Loop

variable {casefold lower : String → String} {existingRows : List (ℕ × Bin)}

variable {code : String} {entry : ℕ × Bin}

theorem existingByCode_some
    (hexisting : existingByCode casefold existingRows code = some entry) :
    entry ∈ existingRows ∧ casefold entry.2.binCode = casefold code := by
  rw [existingByCode] at hexisting
  have hcode := List.find?_some hexisting
  exact ⟨List.mem_reverse.mp (List.mem_of_find?_eq_some hexisting), beq_iff_eq.mp hcode⟩

theorem existingByCode_none :
    existingByCode casefold existingRows code = none ↔
      ∀ entry ∈ existingRows, casefold entry.2.binCode ≠ casefold code := by
  simp [existingByCode, List.find?_eq_none]

theorem existingByCode_append (hcode : casefold entry.2.binCode = casefold code) :
    existingByCode casefold (existingRows ++ [entry]) code = some entry := by
  rw [existingByCode, List.reverse_append, List.reverse_singleton, List.singleton_append,
    List.find?_cons, beq_iff_eq.mpr hcode]

/-! ## The counts -/

/-- The row is not in the tables yet. -/
def isNew (casefold : String → String) (existingRows : List (ℕ × Bin))
    (row : BinImportRow) : Bool :=
  (existingByCode casefold existingRows row.binCode).isNone

def isChanged (casefold : String → String) (replace : Bool) (zoneId : Option ℕ)
    (existingRows : List (ℕ × Bin)) (row : BinImportRow) : Bool :=
  (existingByCode casefold existingRows row.binCode).any fun entry =>
    differs replace zoneId entry.2 row.desired

/-- The number of rows that have been counted. -/
def Progress.counted (progress : Progress) : ℕ :=
  progress.created + progress.updated + progress.unchanged

theorem mirrorRow_counts (replace : Bool) (target : Target) (progress : Progress)
    (row : BinImportRow) :
    (mirrorRow casefold replace target existingRows progress row).created =
        progress.created + (if isNew casefold existingRows row then 1 else 0) ∧
      (mirrorRow casefold replace target existingRows progress row).updated =
        progress.updated +
          (if isChanged casefold replace target.zoneId existingRows row then 1 else 0) ∧
      (mirrorRow casefold replace target existingRows progress row).counted =
        progress.counted + 1 := by
  cases hexisting : existingByCode casefold existingRows row.binCode with
  | none =>
      simp only [mirrorRow, isNew, isChanged, hexisting, Progress.counted,
        Option.isNone_none, Option.any_none, if_true]
      simp
      omega
  | some entry =>
      by_cases hdiffers : differs replace target.zoneId entry.2 row.desired = true
      · simp only [mirrorRow, isNew, isChanged, hexisting, hdiffers, Progress.counted,
          Option.isNone_some, Option.any_some, if_true]
        simp
        omega
      · simp only [mirrorRow, isNew, isChanged, hexisting, hdiffers, Progress.counted,
          Option.isNone_some, Option.any_some]
        simp
        omega

theorem foldl_mirrorRow_counts (casefold : String → String)
    (existingRows : List (ℕ × Bin)) (replace : Bool) (target : Target)
    (rows : List BinImportRow) (progress : Progress) :
    (rows.foldl (mirrorRow casefold replace target existingRows) progress).created =
        progress.created + rows.countP (isNew casefold existingRows) ∧
      (rows.foldl (mirrorRow casefold replace target existingRows) progress).updated =
        progress.updated +
          rows.countP (isChanged casefold replace target.zoneId existingRows) ∧
      (rows.foldl (mirrorRow casefold replace target existingRows) progress).counted =
        progress.counted + rows.length := by
  induction rows generalizing progress with
  | nil => simp
  | cons row rows ih =>
      have hrest := ih (mirrorRow casefold replace target existingRows progress row)
      obtain ⟨hcreated, hupdated, hcounted⟩ := mirrorRow_counts _ _ progress row
      rw [hcreated, hupdated, hcounted] at hrest
      rw [List.foldl_cons, List.countP_cons, List.countP_cons, List.length_cons]
      exact ⟨by rw [hrest.1]; omega, by rw [hrest.2.1]; omega, by rw [hrest.2.2]; omega⟩

/-! ## The bins -/

def updates (casefold : String → String) (replace : Bool) (zoneId : ℕ)
    (existingRows : List (ℕ × Bin)) (binId : ℕ) (row : BinImportRow) : Bool :=
  (existingByCode casefold existingRows row.binCode).any fun entry =>
    entry.1 == binId && differs replace (some zoneId) entry.2 row.desired

def settle (casefold : String → String) (replace : Bool) (zoneId : ℕ)
    (existingRows : List (ℕ × Bin)) (rows : List BinImportRow) (binId : ℕ) (bin : Bin) : Bin :=
  rows.foldl (fun bin row =>
    if updates casefold replace zoneId existingRows binId row then
      bin.update replace zoneId row.desired
    else bin) bin

def insertNew (zoneId : ℕ) (rows : List BinImportRow) (bins : Table Bin) : Table Bin :=
  rows.foldl (fun bins row => bins.insert (row.create zoneId)) bins

theorem settle_cons (replace : Bool) (zoneId : ℕ) (row : BinImportRow)
    (rows : List BinImportRow) (binId : ℕ) (bin : Bin) :
    settle casefold replace zoneId existingRows (row :: rows) binId bin =
      settle casefold replace zoneId existingRows rows binId
        (if updates casefold replace zoneId existingRows binId row then
          bin.update replace zoneId row.desired
        else bin) :=
  rfl

variable {replace : Bool} {zoneId binId : ℕ} {rows : List BinImportRow}

theorem settle_fresh (hfresh : ∀ entry ∈ existingRows, entry.1 ≠ binId) (bin : Bin) :
    settle casefold replace zoneId existingRows rows binId bin = bin := by
  induction rows with
  | nil => rfl
  | cons row rows ih =>
      have hrow : updates casefold replace zoneId existingRows binId row = false := by
        rw [updates]
        cases hexisting : existingByCode casefold existingRows row.binCode with
        | none => rfl
        | some entry =>
            have hne := hfresh entry (existingByCode_some hexisting).1
            simp [hne]
      rw [settle_cons, hrow, if_neg Bool.false_ne_true, ih]

theorem foldl_mirrorRow_bins (replace : Bool) (zoneId : ℕ) (rows : List BinImportRow)
    (progress : Progress) (hids : ∀ entry ∈ existingRows, entry.1 < progress.bins.next) :
    (rows.foldl (mirrorRow casefold replace (.real zoneId) existingRows) progress).bins =
      insertNew zoneId (rows.filter (isNew casefold existingRows))
        (progress.bins.mapRows (settle casefold replace zoneId existingRows rows)) := by
  induction rows generalizing progress with
  | nil => exact (Table.mapRows_id _).symm
  | cons row rows ih =>
      rw [List.foldl_cons]
      cases hexisting : existingByCode casefold existingRows row.binCode with
      | none =>
          have hnew : isNew casefold existingRows row = true := by rw [isNew, hexisting]; rfl
          have hsettle : settle casefold replace zoneId existingRows (row :: rows) =
              settle casefold replace zoneId existingRows rows := by
            funext binId bin
            rw [settle_cons, updates, hexisting, Option.any_none, if_neg Bool.false_ne_true]
          have hfresh : settle casefold replace zoneId existingRows rows progress.bins.next
              (row.create zoneId) = row.create zoneId :=
            settle_fresh (fun entry hentry => (hids entry hentry).ne) _
          have hbins : (mirrorRow casefold replace (.real zoneId) existingRows progress row).bins =
              progress.bins.insert (row.create zoneId) := by
            simp only [mirrorRow, hexisting]
          rw [ih _ (by
            rw [hbins, Table.insert_next]
            exact fun entry hentry => (hids entry hentry).trans (Nat.lt_succ_self _)), hbins,
            Table.mapRows_insert _ _ _ hfresh, hsettle, List.filter_cons_of_pos hnew]
          rfl
      | some entry =>
          have hold : ¬ isNew casefold existingRows row = true := by
            rw [isNew, hexisting]
            exact Bool.false_ne_true
          rw [List.filter_cons_of_neg hold]
          by_cases hdiffers : differs replace (some zoneId) entry.2 row.desired = true
          · have hbins : (mirrorRow casefold replace (.real zoneId) existingRows progress
                row).bins =
                progress.bins.modify entry.1 (Bin.update replace zoneId row.desired) := by
              rw [mirrorRow, hexisting]
              exact congrArg Progress.bins (if_pos hdiffers)
            rw [ih _ (by rw [hbins]; exact hids), hbins, Table.modify, Table.mapRows_mapRows]
            congr 2
            funext binId bin
            have hupdates : updates casefold replace zoneId existingRows binId row =
                (entry.1 == binId) := by
              rw [updates, hexisting, Option.any_some, hdiffers, Bool.and_true]
            rw [settle_cons, hupdates]
            by_cases hid : binId = entry.1
            · rw [if_pos hid, if_pos (beq_iff_eq.mpr hid.symm)]
            · rw [if_neg hid, if_neg fun heq => hid (beq_iff_eq.mp heq).symm]
          · have hbins : (mirrorRow casefold replace (.real zoneId) existingRows progress
                row).bins = progress.bins := by
              rw [mirrorRow, hexisting]
              calc
                _ = ({ progress with unchanged := progress.unchanged + 1 } : Progress).bins :=
                  congrArg Progress.bins (if_neg hdiffers)
                _ = progress.bins := rfl
            have hsettle : settle casefold replace zoneId existingRows (row :: rows) =
                settle casefold replace zoneId existingRows rows := by
              funext binId bin
              rw [Bool.not_eq_true] at hdiffers
              rw [settle_cons, updates, hexisting, Option.any_some, hdiffers, Bool.and_false,
                if_neg Bool.false_ne_true]
            rw [ih _ (by rw [hbins]; exact hids), hbins, hsettle]

theorem settle_of_none
    (hnone : ∀ row ∈ rows, updates casefold replace zoneId existingRows binId row = false)
    (bin : Bin) : settle casefold replace zoneId existingRows rows binId bin = bin := by
  induction rows with
  | nil => rfl
  | cons row rows ih =>
      rw [settle_cons, hnone row List.mem_cons_self, if_neg Bool.false_ne_true]
      exact ih fun row hmem => hnone row (List.mem_cons_of_mem _ hmem)

variable {row : BinImportRow}

theorem settle_of_mem (hmem : row ∈ rows)
    (hdistinct : (rows.map fun row => casefold row.binCode).Nodup)
    (hothers : ∀ other ∈ rows, casefold other.binCode ≠ casefold row.binCode → updates casefold replace zoneId existingRows binId other = false)
    (bin : Bin) :
    settle casefold replace zoneId existingRows rows binId bin =
      if updates casefold replace zoneId existingRows binId row then
        bin.update replace zoneId row.desired
      else bin := by
  induction rows generalizing bin with
  | nil => cases hmem
  | cons first rows ih =>
      rw [List.map_cons, List.nodup_cons] at hdistinct
      rw [settle_cons]
      rcases List.mem_cons.mp hmem with heq | hrest
      · rw [heq]
        apply settle_of_none
        intro other hother
        apply hothers other (List.mem_cons_of_mem _ hother)
        intro hcode
        apply hdistinct.1
        rw [← heq, ← hcode]
        exact List.mem_map_of_mem hother
      · have hne : casefold first.binCode ≠ casefold row.binCode := by
          intro hcode
          apply hdistinct.1
          rw [hcode]
          exact List.mem_map_of_mem hrest
        rw [hothers first List.mem_cons_self hne, if_neg Bool.false_ne_true]
        exact ih hrest hdistinct.2
          (fun other hother => hothers other (List.mem_cons_of_mem _ hother)) bin

theorem settle_binCode (replace : Bool) (zoneId : ℕ) (rows : List BinImportRow) (binId : ℕ)
    (bin : Bin) :
    (settle casefold replace zoneId existingRows rows binId bin).binCode = bin.binCode := by
  induction rows generalizing bin with
  | nil => rfl
  | cons row rows ih =>
      rw [settle_cons, ih]
      split <;> rfl

theorem insertNew_values (zoneId : ℕ) (rows : List BinImportRow) (bins : Table Bin) :
    (insertNew zoneId rows bins).entries.map Prod.snd =
      bins.entries.map Prod.snd ++ rows.map (BinImportRow.create zoneId) := by
  induction rows generalizing bins with
  | nil => exact (List.append_nil _).symm
  | cons row rows ih =>
      rw [insertNew, List.foldl_cons]
      refine (ih _).trans ?_
      simp [Table.insert]

theorem filter_code (hmem : row ∈ rows)
    (hdistinct : (rows.map fun row => casefold row.binCode).Nodup) :
    rows.filter (fun other => casefold other.binCode == casefold row.binCode) = [row] := by
  induction rows with
  | nil => cases hmem
  | cons first rows ih =>
      rw [List.map_cons, List.nodup_cons] at hdistinct
      rcases List.mem_cons.mp hmem with heq | hrest
      · have hnone : rows.filter
            (fun other => casefold other.binCode == casefold row.binCode) = [] := by
          rw [List.filter_eq_nil_iff]
          intro other hother hcode
          apply hdistinct.1
          rw [← heq, ← beq_iff_eq.mp hcode]
          exact List.mem_map_of_mem hother
        rw [← heq, List.filter_cons, hnone, if_pos (beq_self_eq_true _)]
      · have hne : ¬ (casefold first.binCode == casefold row.binCode) = true := by
          intro hcode
          apply hdistinct.1
          rw [beq_iff_eq.mp hcode]
          exact List.mem_map_of_mem hrest
        rw [List.filter_cons, if_neg hne]
        exact ih hrest hdistinct.2

/-! ## The bins of one code -/

/-- The rows with a code, apart from case. -/
def withCode (casefold : String → String) (code : String) (entries : List (ℕ × Bin)) :
    List (ℕ × Bin) :=
  entries.filter fun entry => casefold entry.2.binCode == casefold code

/-- What the request makes of the row that it finds. -/
def touched (replace : Bool) (zoneId : ℕ) (row : BinImportRow) (bin : Bin) : Bin :=
  if differs replace (some zoneId) bin row.desired then
    bin.update replace zoneId row.desired
  else bin

/-- The bins after a request that may write. -/
def mirrored (payload : StorageBinsPayload casefold) (zoneId : ℕ)
    (existingRows : List (ℕ × Bin)) (bins : Table Bin) : Table Bin :=
  insertNew zoneId (payload.bins.filter (isNew casefold existingRows))
    ((if payload.replace then retire ((retired payload existingRows).map Prod.fst) bins
      else bins).mapRows
        (settle casefold payload.replace zoneId existingRows payload.bins))

def retiredRow (payload : StorageBinsPayload casefold) (bin : Bin) : Bin :=
  if payload.replace && !payload.lists bin then { bin with isActive := false } else bin

variable {payload : StorageBinsPayload casefold} {zoneId : ℕ} {bins : Table Bin}

theorem retire_retired (hreplace : payload.replace = true)
    (hrows : existingRows.Perm bins.entries) :
    retire ((retired payload existingRows).map Prod.fst) bins =
      bins.mapRows fun _ bin => retiredRow payload bin := by
  apply Table.mapRows_congr
  intro binId bin hbin
  have hretired : binId ∈ (retired payload existingRows).map Prod.fst ↔
      payload.lists bin = false ∧ bin.isActive = true := by
    rw [List.mem_map]
    constructor
    · rintro ⟨⟨id, other⟩, hother, rfl⟩
      rw [retired, List.mem_filter] at hother
      rw [bins.row_unique hbin (hrows.mem_iff.mp hother.1)]
      simpa using hother.2
    · rintro ⟨hlists, hactive⟩
      refine ⟨(binId, bin), ?_, rfl⟩
      rw [retired, List.mem_filter]
      exact ⟨hrows.mem_iff.mpr hbin, by simp [hlists, hactive]⟩
  rw [retiredRow, hreplace, Bool.true_and]
  by_cases hmem : binId ∈ (retired payload existingRows).map Prod.fst
  · rw [if_pos hmem, (hretired.mp hmem).1, Bool.not_false, if_pos rfl]
  · rw [if_neg hmem]
    cases hlists : payload.lists bin with
    | true => rfl
    | false =>
        have hactive : bin.isActive = false := by
          rw [← Bool.not_eq_true]
          exact fun hactive => hmem (hretired.mpr ⟨hlists, hactive⟩)
        rw [Bool.not_false, if_pos rfl, ← hactive]

theorem mirrored_values (hrows : existingRows.Perm bins.entries) :
    (mirrored payload zoneId existingRows bins).entries.map Prod.snd =
      bins.entries.map (fun entry =>
        settle casefold payload.replace zoneId existingRows payload.bins entry.1
          (retiredRow payload entry.2)) ++
      (payload.bins.filter (isNew casefold existingRows)).map
        (BinImportRow.create zoneId) := by
  have hretire : (if payload.replace then
      retire ((retired payload existingRows).map Prod.fst) bins else bins) =
      bins.mapRows fun _ bin => retiredRow payload bin := by
    cases hreplace : payload.replace with
    | false =>
        simp only [retiredRow, hreplace, Bool.false_and, Bool.false_eq_true, if_false]
        exact (Table.mapRows_id _).symm
    | true => exact retire_retired hreplace hrows
  rw [mirrored, insertNew_values, hretire, Table.mapRows_mapRows]
  simp [Table.mapRows]

theorem retiredRow_binCode (bin : Bin) : (retiredRow payload bin).binCode = bin.binCode := by
  rw [retiredRow]
  split <;> rfl

theorem retiredRow_listed {bin : Bin} (hmem : row ∈ payload.bins)
    (hcode : casefold bin.binCode = casefold row.binCode) : retiredRow payload bin = bin := by
  have hlists : payload.lists bin = true := by
    rw [StorageBinsPayload.lists, List.any_eq_true]
    exact ⟨row, hmem, beq_iff_eq.mpr hcode.symm⟩
  rw [retiredRow, hlists, Bool.not_true, Bool.and_false, if_neg Bool.false_ne_true]

theorem settle_listed (hrows : existingRows.Perm bins.entries) (hmem : row ∈ payload.bins)
    (hentry : entry ∈ bins.entries) (hcode : casefold entry.2.binCode = casefold row.binCode) :
    settle casefold payload.replace zoneId existingRows payload.bins entry.1 entry.2 =
      if existingByCode casefold existingRows row.binCode = some entry then
        touched payload.replace zoneId row entry.2
      else entry.2 := by
  have hsame : ∀ {other : BinImportRow} {found : ℕ × Bin},
      existingByCode casefold existingRows other.binCode = some found →
        found.1 = entry.1 → found = entry := by
    intro other found hfound hid
    have hfound' := hrows.mem_iff.mp (existingByCode_some hfound).1
    exact Prod.ext hid (bins.row_unique (hid ▸ hfound') hentry)
  have hothers : ∀ other ∈ payload.bins, casefold other.binCode ≠ casefold row.binCode →
      updates casefold payload.replace zoneId existingRows entry.1 other = false := by
    intro other hother hne
    rw [updates]
    cases hfound : existingByCode casefold existingRows other.binCode with
    | none => rfl
    | some found =>
        have hid : ¬ found.1 = entry.1 := by
          intro hid
          apply hne
          rw [← (existingByCode_some hfound).2, hsame hfound hid, hcode]
        simp [hid]
  rw [settle_of_mem hmem payload.distinct hothers, updates]
  cases hfound : existingByCode casefold existingRows row.binCode with
  | none => simp
  | some found =>
      by_cases hid : found.1 = entry.1
      · rw [hsame hfound hid]
        simp [touched]
      · have hne : ¬ found = entry := fun heq => hid (congrArg Prod.fst heq)
        simp [hid, hne]

theorem withCode_mirrored (hrows : existingRows.Perm bins.entries)
    (hmem : row ∈ payload.bins) :
    ((mirrored payload zoneId existingRows bins).entries.map Prod.snd).filter
        (fun bin => casefold bin.binCode == casefold row.binCode) =
      (withCode casefold row.binCode bins.entries).map (fun entry =>
        if existingByCode casefold existingRows row.binCode = some entry then
          touched payload.replace zoneId row entry.2
        else entry.2) ++
      if isNew casefold existingRows row then [row.create zoneId] else [] := by
  have hnew : ((payload.bins.filter (isNew casefold existingRows)).map
        (BinImportRow.create zoneId)).filter
          (fun bin => casefold bin.binCode == casefold row.binCode) =
      if isNew casefold existingRows row then [row.create zoneId] else [] := by
    rw [List.filter_map, List.filter_filter]
    have hswap : payload.bins.filter (fun other =>
          (casefold other.binCode == casefold row.binCode) && isNew casefold existingRows other) =
        [row].filter (isNew casefold existingRows) := by
      rw [← filter_code hmem payload.distinct, List.filter_filter]
      congr 1
      funext other
      exact Bool.and_comm _ _
    refine (congrArg (List.map (BinImportRow.create zoneId)) hswap).trans ?_
    cases hisNew : isNew casefold existingRows row <;> simp [hisNew]
  rw [mirrored_values hrows, List.filter_append, hnew]
  congr 1
  have hcodes : ∀ entry : ℕ × Bin,
      (settle casefold payload.replace zoneId existingRows payload.bins entry.1
        (retiredRow payload entry.2)).binCode = entry.2.binCode :=
    fun entry => (settle_binCode _ _ _ _ _).trans (retiredRow_binCode _)
  rw [List.filter_map]
  have hfilter : ((fun bin : Bin => casefold bin.binCode == casefold row.binCode) ∘
      fun entry : ℕ × Bin => settle casefold payload.replace zoneId existingRows payload.bins
        entry.1 (retiredRow payload entry.2)) =
      fun entry => casefold entry.2.binCode == casefold row.binCode := by
    funext entry
    exact congrArg (fun code => casefold code == casefold row.binCode) (hcodes entry)
  rw [hfilter, withCode]
  apply List.map_congr_left
  intro entry hentry
  rw [List.mem_filter, beq_iff_eq] at hentry
  rw [retiredRow_listed hmem hentry.2]
  exact settle_listed hrows hmem hentry.1 hentry.2

theorem settle_unlisted (hrows : existingRows.Perm bins.entries)
    (hentry : entry ∈ bins.entries) (hlists : payload.lists entry.2 = false) (bin : Bin) :
    settle casefold payload.replace zoneId existingRows payload.bins entry.1 bin = bin := by
  apply settle_of_none
  intro row hrow
  rw [updates]
  cases hfound : existingByCode casefold existingRows row.binCode with
  | none => rfl
  | some found =>
      have hid : ¬ found.1 = entry.1 := by
        intro hid
        have hfound' := hrows.mem_iff.mp (existingByCode_some hfound).1
        have hsame : found = entry := Prod.ext hid (bins.row_unique (hid ▸ hfound') hentry)
        rw [StorageBinsPayload.lists, List.any_eq_false] at hlists
        apply hlists row hrow
        rw [← hsame, (existingByCode_some hfound).2]
        exact beq_self_eq_true _
      simp [hid]

/-! ## The two ways of a request -/

def realZone (lower : String → String) (zoneCode : String) (zoneRows : List (ℕ × Zone))
    (zones : Table Zone) : Table Zone × ℕ :=
  match zoneFor lower zoneCode zoneRows with
  | some zone => (zones, zone.1)
  | none => (zones.insert ⟨zoneCode⟩, zones.next)

theorem chooseZone_false (zoneCode : String) (zoneRows : List (ℕ × Zone))
    (zones : Table Zone) :
    chooseZone lower false zoneCode zoneRows zones =
      ((realZone lower zoneCode zoneRows zones).1,
        .real (realZone lower zoneCode zoneRows zones).2) := by
  cases hzone : zoneFor lower zoneCode zoneRows <;> simp [chooseZone, realZone, hzone]

/-- The counts of a report, of rows that are looked up in this order for this zone. -/
structure Report.Counts (report : Report) (payload : StorageBinsPayload casefold)
    (zoneId : Option ℕ) (existingRows : List (ℕ × Bin)) : Prop where
  created : report.created = payload.bins.countP (isNew casefold existingRows)
  updated : report.updated =
    payload.bins.countP (isChanged casefold payload.replace zoneId existingRows)
  total : report.created + report.updated + report.unchanged = payload.bins.length

variable {zoneRows : List (ℕ × Zone)} {tables : Tables}

theorem report_counts (payload : StorageBinsPayload casefold) (target : Target)
    (existingRows : List (ℕ × Bin)) (bins : Table Bin) (zoneCreated : Bool) (retired : ℕ) :
    ((payload.bins.foldl (mirrorRow casefold payload.replace target existingRows)
      ⟨bins, 0, 0, 0⟩).report zoneCreated retired).Counts payload target.zoneId
        existingRows := by
  obtain ⟨hcreated, hupdated, htotal⟩ := foldl_mirrorRow_counts casefold existingRows
    payload.replace target payload.bins ⟨bins, 0, 0, 0⟩
  exact ⟨hcreated.trans (Nat.zero_add _), hupdated.trans (Nat.zero_add _),
    htotal.trans (Nat.zero_add _)⟩

theorem post_refused (payload : StorageBinsPayload casefold) (zoneRows : List (ℕ × Zone))
    (existingRows : List (ℕ × Bin))
    (hrefused : (payload.replace && tables.inventory.any InventoryRow.occupied) = true) :
    storageBinsPost lower payload false zoneRows existingRows tables =
      .error .inventoryNotEmpty := by
  rw [storageBinsPost, chooseZone_false]
  simp only [Bool.not_false, Bool.and_true]
  rw [if_pos hrefused]

theorem post_real (payload : StorageBinsPayload casefold) (zoneRows : List (ℕ × Zone))
    (hrows : existingRows.Perm tables.bins.entries)
    (haccepted : (payload.replace && tables.inventory.any InventoryRow.occupied) = false) :
    ∃ report, storageBinsPost lower payload false zoneRows existingRows tables =
        .ok ({
          zones := (realZone lower payload.zoneCode zoneRows tables.zones).1
          bins := mirrored payload (realZone lower payload.zoneCode zoneRows tables.zones).2
            existingRows tables.bins
          inventory := tables.inventory }, report) ∧
      report.Counts payload
        (some (realZone lower payload.zoneCode zoneRows tables.zones).2) existingRows := by
  let start := if payload.replace then
    retire ((retired payload existingRows).map Prod.fst) tables.bins else tables.bins
  have hids : ∀ entry ∈ existingRows, entry.1 < start.next := by
    intro entry hentry
    have hnext : start.next = tables.bins.next := by
      simp only [start]
      split <;> rfl
    rw [hnext]
    exact tables.bins.lt_next_of_mem (hrows.mem_iff.mp hentry)
  refine ⟨_, ?_, report_counts payload
    (.real (realZone lower payload.zoneCode zoneRows tables.zones).2) existingRows start
    (zoneFor lower payload.zoneCode zoneRows).isNone
    (if payload.replace then (retired payload existingRows).length else 0)⟩
  rw [storageBinsPost, chooseZone_false]
  simp only [Bool.not_false, Bool.and_true]
  rw [if_neg (by rw [haccepted]; exact Bool.false_ne_true),
    foldl_mirrorRow_bins _ _ _ ⟨start, 0, 0, 0⟩ hids]
  rfl

end Loop

end SentryWms.StorageBins
