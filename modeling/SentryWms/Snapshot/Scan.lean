import SentryWms.Core.Keyset
import SentryWms.Store.Schema

/-!
# Snapshot scans

A client reads the inventory of a warehouse page by page from a snapshot that the keeper
holds for it. The first request opens a scan; every page that is full comes with a cursor
that names its last item and bin, and the next page starts behind them.
-/

namespace SentryWms.Snapshot

open Relational

/-! ## Scans -/

/-- `snapshot_scans.status`. -/
inductive ScanStatus where
  | pending
  | active
  | done
  | expired
  | aborted
deriving DecidableEq

/-- A row of `snapshot_scans`. -/
structure SnapshotScan where
  warehouseId : ℕ
  status : ScanStatus
  pgSnapshotId : Option ℕ
  snapshotEventId : Option ℕ
  createdByTokenId : ℕ

/-- The inventory as one snapshot shows it. Serial keys of items start at one. -/
structure InventorySnapshot where
  rows : Table Inventory
  serial : ∀ entry ∈ rows.entries, 0 < entry.2.itemId

structure ScanCursor where
  scanId : ℕ
  warehouseId : ℕ
  itemId : ℕ
  binId : ℕ

/-- The `cursor` of a request, decoded. -/
inductive CursorParam where
  | absent
  | malformed
  | decoded (cursor : ScanCursor)

structure SnapshotQuery where
  warehouseId : ℕ
  cursor : CursorParam
  limit : ℕ

structure SnapshotToken where
  tokenId : ℕ
  warehouseIds : List ℕ

/-- The answer to a request. -/
structure SnapshotPage where
  snapshotEventId : Option ℕ
  rows : List (ℕ × Inventory)
  nextCursor : Option ScanCursor

inductive SnapshotError where
  | scopeViolation
  | invalidCursor
  | cursorScopeViolation
  | snapshotExpired
  | snapshotInFlight
  | snapshotKeeperUnavailable

def maxConcurrentScansPerToken : ℕ := 1

/-! ## Pages -/

/-- The columns of `ORDER BY`, and of the row comparison with the cursor. -/
def keysetKey (entry : ℕ × Inventory) : ℕ ×ₗ ℕ ×ₗ ℕ :=
  toLex (entry.2.warehouseId, toLex (entry.2.itemId, entry.2.binId))

/-- The key a cursor names. -/
def ScanCursor.last (cursor : ScanCursor) : ℕ ×ₗ ℕ ×ₗ ℕ :=
  toLex (cursor.warehouseId, toLex (cursor.itemId, cursor.binId))

/-- The key the first page starts behind. -/
def firstKey (warehouseId : ℕ) : ℕ ×ₗ ℕ ×ₗ ℕ :=
  toLex (warehouseId, toLex (0, 0))

def InventorySnapshot.warehouseRows (snapshot : InventorySnapshot) (warehouseId : ℕ) :
    List (ℕ × Inventory) :=
  snapshot.rows.select fun row => row.warehouseId == warehouseId

/-- `_run_keyset_query`. The joins add columns to a row and neither drop nor repeat
one: they follow foreign keys, or go to tables with at most one row for an item. -/
def runKeysetQuery (arrangement : Arrangement keysetKey) (snapshot : InventorySnapshot)
    (warehouseId : ℕ) (last : ℕ ×ₗ ℕ ×ₗ ℕ) (limit : ℕ) : List (ℕ × Inventory) :=
  page arrangement (snapshot.warehouseRows warehouseId) limit last

def inFlight (token : SnapshotToken) (scans : Table SnapshotScan) : ℕ :=
  (scans.select fun scan => scan.createdByTokenId == token.tokenId &&
    (scan.status == .pending || scan.status == .active)).length

def SnapshotScan.finish (scan : SnapshotScan) : SnapshotScan :=
  if scan.status = .active then { scan with status := .done } else scan

section Endpoint

variable (snapshots : Option ℕ → InventorySnapshot) (arrangement : Arrangement keysetKey)

def servePage (query : SnapshotQuery) (scanId : ℕ) (scan : SnapshotScan)
    (last : ℕ ×ₗ ℕ ×ₗ ℕ) (scans : Table SnapshotScan) :
    SnapshotPage × Table SnapshotScan :=
  let rows := runKeysetQuery arrangement (snapshots scan.pgSnapshotId) query.warehouseId
    last query.limit
  if rows.length < query.limit then
    (⟨scan.snapshotEventId, rows, none⟩, scans.modify scanId SnapshotScan.finish)
  else
    (⟨scan.snapshotEventId, rows, rows.getLast?.map fun tail =>
      ⟨scanId, query.warehouseId, tail.2.itemId, tail.2.binId⟩⟩, scans)

/-- `snapshot_inventory`. The promotion is what the keeper writes to a pending scan while
the request waits: the exported snapshot and the id of the last visible event. -/
def snapshotInventory (promotion : Option (ℕ × ℕ)) (token : SnapshotToken)
    (query : SnapshotQuery) (scans : Table SnapshotScan) :
    Except SnapshotError SnapshotPage × Table SnapshotScan :=
  if query.warehouseId ∉ token.warehouseIds then (.error .scopeViolation, scans)
  else
    match query.cursor with
    | .malformed => (.error .invalidCursor, scans)
    | .decoded cursor =>
        if cursor.warehouseId ≠ query.warehouseId then
          (.error .cursorScopeViolation, scans)
        else
          match scans.get? cursor.scanId with
          | none => (.error .snapshotExpired, scans)
          | some scan =>
              if scan.createdByTokenId ≠ token.tokenId then
                (.error .cursorScopeViolation, scans)
              else if scan.status ≠ .active then (.error .snapshotExpired, scans)
              else
                let served := servePage snapshots arrangement query cursor.scanId scan
                  cursor.last scans
                (.ok served.1, served.2)
    | .absent =>
        if maxConcurrentScansPerToken ≤ inFlight token scans then
          (.error .snapshotInFlight, scans)
        else
          match promotion with
          -- the pending row is deleted again
          | none => (.error .snapshotKeeperUnavailable, scans)
          | some (pgSnapshotId, snapshotEventId) =>
              let scan : SnapshotScan :=
                ⟨query.warehouseId, .active, some pgSnapshotId, some snapshotEventId,
                  token.tokenId⟩
              let served := servePage snapshots arrangement query scans.next scan
                (firstKey query.warehouseId) (scans.insert scan)
              (.ok served.1, served.2)

end Endpoint

/-! ## Clients -/

section Client

variable (snapshots : Option ℕ → InventorySnapshot)
  (arrangements : ℕ → Arrangement keysetKey) (token : SnapshotToken)
  (warehouseId limit : ℕ)

/-- Follow `next_cursor` until it is null, by at most so many requests. -/
def followCursor : ℕ → ScanCursor → Table SnapshotScan → Option (List SnapshotPage)
  | 0, _, _ => none
  | fuel + 1, cursor, scans =>
      match snapshotInventory snapshots (arrangements fuel) none token
        ⟨warehouseId, .decoded cursor, limit⟩ scans with
      | (.error _, _) => none
      | (.ok page, scans') =>
          match page.nextCursor with
          | none => some [page]
          | some next => (followCursor fuel next scans').map (page :: ·)

/-- Read the warehouse from the first page on, by at most so many requests. -/
def scanInventory (promotion : Option (ℕ × ℕ)) (scans : Table SnapshotScan) :
    ℕ → Option (List SnapshotPage)
  | 0 => none
  | fuel + 1 =>
      match snapshotInventory snapshots (arrangements fuel) promotion token
        ⟨warehouseId, .absent, limit⟩ scans with
      | (.error _, _) => none
      | (.ok page, scans') =>
          match page.nextCursor with
          | none => some [page]
          | some next =>
              (followCursor snapshots arrangements token warehouseId limit fuel next
                scans').map (page :: ·)

end Client

/-! ## Completeness -/

section Completeness

variable {snapshots : Option ℕ → InventorySnapshot}
  {arrangements : ℕ → Arrangement keysetKey} {token : SnapshotToken}
  {warehouseId limit : ℕ}

/-- The scan a cursor names is one the token may read on. -/
def Readable (token : SnapshotToken) (pgSnapshotId scanId : ℕ)
    (scans : Table SnapshotScan) : Prop :=
  ∃ scan, scans.get? scanId = some scan ∧ scan.status = .active ∧
    scan.pgSnapshotId = some pgSnapshotId ∧ scan.createdByTokenId = token.tokenId

/-- The cursor of a full page. -/
def cursorAt (scanId warehouseId : ℕ) (tail : ℕ × Inventory) : ScanCursor :=
  ⟨scanId, warehouseId, tail.2.itemId, tail.2.binId⟩

theorem cursorAt_last {snapshot : InventorySnapshot} {arrangement : Arrangement keysetKey}
    {last : ℕ ×ₗ ℕ ×ₗ ℕ} {tail : ℕ × Inventory} (scanId : ℕ)
    (htail : (runKeysetQuery arrangement snapshot warehouseId last limit).getLast? =
      some tail) :
    (cursorAt scanId warehouseId tail).last = keysetKey tail := by
  have hmem : tail ∈ above keysetKey last (snapshot.warehouseRows warehouseId) :=
    (arrangement.perm _).mem_iff.mp (List.mem_of_mem_take (List.mem_of_getLast? htail))
  have hrow := (Keyset.mem_above.mp hmem).1
  rw [InventorySnapshot.warehouseRows, Table.mem_select, beq_iff_eq] at hrow
  rw [cursorAt, ScanCursor.last, keysetKey, hrow.2]

theorem servePage_eq (snapshots : Option ℕ → InventorySnapshot) (arrangement : Arrangement keysetKey) (query : SnapshotQuery)
    (scanId : ℕ) (scan : SnapshotScan) (last : ℕ ×ₗ ℕ ×ₗ ℕ) (scans : Table SnapshotScan)
    {found : List (ℕ × Inventory)}
    (hfound : runKeysetQuery arrangement (snapshots scan.pgSnapshotId) query.warehouseId
      last query.limit = found) :
    servePage snapshots arrangement query scanId scan last scans =
      if found.length < query.limit then
        (⟨scan.snapshotEventId, found, none⟩, scans.modify scanId SnapshotScan.finish)
      else
        (⟨scan.snapshotEventId, found,
          found.getLast?.map (cursorAt scanId query.warehouseId)⟩, scans) := by
  rw [servePage, hfound]
  rfl

theorem followCursor_rows {pgSnapshotId scanId : ℕ} {scans : Table SnapshotScan}
    (hscope : warehouseId ∈ token.warehouseIds)
    (hread : Readable token pgSnapshotId scanId scans) (fuel : ℕ)
    {cursor : ScanCursor} (hscan : cursor.scanId = scanId)
    (hwarehouse : cursor.warehouseId = warehouseId) :
    (followCursor snapshots arrangements token warehouseId limit fuel cursor scans).map
        (fun pages => pages.map SnapshotPage.rows) =
      scan arrangements ((snapshots (some pgSnapshotId)).warehouseRows warehouseId) limit
        fuel cursor.last := by
  induction fuel generalizing cursor with
  | zero => rfl
  | succ fuel ih =>
      obtain ⟨row, hget, hactive, hsnapshot, htoken⟩ := hread
      set found := runKeysetQuery (arrangements fuel) (snapshots (some pgSnapshotId))
        warehouseId cursor.last limit with hfound
      have hserve := servePage_eq snapshots (arrangements fuel)
        ⟨warehouseId, .decoded cursor, limit⟩ scanId row cursor.last scans
        (hsnapshot ▸ hfound.symm)
      have hanswer : snapshotInventory snapshots (arrangements fuel) none token
          ⟨warehouseId, .decoded cursor, limit⟩ scans =
            (.ok (servePage snapshots (arrangements fuel)
              ⟨warehouseId, .decoded cursor, limit⟩ scanId row cursor.last scans).1,
            (servePage snapshots (arrangements fuel)
              ⟨warehouseId, .decoded cursor, limit⟩ scanId row cursor.last scans).2) := by
        simp [snapshotInventory, hscope, hwarehouse, hscan, hget, hactive, htoken]
      have hpage : page (arrangements fuel)
          ((snapshots (some pgSnapshotId)).warehouseRows warehouseId) limit cursor.last =
            found := rfl
      rw [hserve] at hanswer
      simp only [followCursor, hanswer, scan, hpage]
      cases htail : found.getLast? with
      | none =>
          by_cases hshort : found.length < limit
          · simp [if_pos hshort]
          · simp [if_neg hshort]
      | some tail =>
          by_cases hshort : found.length < limit
          · simp [if_pos hshort]
          · have hlast : (cursorAt scanId warehouseId tail).last = keysetKey tail :=
              cursorAt_last scanId (hfound ▸ htail)
            have hnext : (followCursor snapshots arrangements token warehouseId limit fuel
                (cursorAt scanId warehouseId tail) scans).map
                  (fun pages => pages.map SnapshotPage.rows) = _ := ih rfl rfl
            rw [hlast] at hnext
            simp [if_neg hshort, ← hnext, Function.comp_def]

theorem scanInventory_rows (hscope : warehouseId ∈ token.warehouseIds)
    {scans : Table SnapshotScan} (hidle : inFlight token scans < maxConcurrentScansPerToken)
    (pgSnapshotId snapshotEventId fuel : ℕ) :
    (scanInventory snapshots arrangements token warehouseId limit
        (some (pgSnapshotId, snapshotEventId)) scans fuel).map
        (fun pages => pages.map SnapshotPage.rows) =
      scan arrangements ((snapshots (some pgSnapshotId)).warehouseRows warehouseId) limit
        fuel (firstKey warehouseId) := by
  cases fuel with
  | zero => rfl
  | succ fuel =>
      let row : SnapshotScan :=
        ⟨warehouseId, .active, some pgSnapshotId, some snapshotEventId, token.tokenId⟩
      set found := runKeysetQuery (arrangements fuel) (snapshots (some pgSnapshotId))
        warehouseId (firstKey warehouseId) limit with hfound
      have hserve := servePage_eq snapshots (arrangements fuel)
        ⟨warehouseId, .absent, limit⟩ scans.next row (firstKey warehouseId)
        (scans.insert row) hfound.symm
      have hanswer : snapshotInventory snapshots (arrangements fuel)
          (some (pgSnapshotId, snapshotEventId)) token ⟨warehouseId, .absent, limit⟩
          scans =
            (.ok (servePage snapshots (arrangements fuel) ⟨warehouseId, .absent, limit⟩
              scans.next row (firstKey warehouseId) (scans.insert row)).1,
            (servePage snapshots (arrangements fuel) ⟨warehouseId, .absent, limit⟩
              scans.next row (firstKey warehouseId) (scans.insert row)).2) := by
        simp [snapshotInventory, hscope, not_le.mpr hidle, row]
      have hpage : page (arrangements fuel)
          ((snapshots (some pgSnapshotId)).warehouseRows warehouseId) limit
            (firstKey warehouseId) =
            found := rfl
      have hread : Readable token pgSnapshotId scans.next (scans.insert row) :=
        ⟨row, scans.get?_insert_self row, rfl, rfl, rfl⟩
      rw [hserve] at hanswer
      simp only [scanInventory, hanswer, scan, hpage]
      cases htail : found.getLast? with
      | none =>
          by_cases hshort : found.length < limit
          · simp [if_pos hshort]
          · simp [if_neg hshort]
      | some tail =>
          by_cases hshort : found.length < limit
          · simp [if_pos hshort]
          · have hlast : (cursorAt scans.next warehouseId tail).last = keysetKey tail :=
              cursorAt_last scans.next (hfound ▸ htail)
            have hnext : (followCursor snapshots arrangements token warehouseId limit fuel
                (cursorAt scans.next warehouseId tail) (scans.insert row)).map
                  (fun pages => pages.map SnapshotPage.rows) = _ :=
              followCursor_rows hscope hread fuel rfl rfl
            rw [hlast] at hnext
            simp [if_neg hshort, ← hnext, Function.comp_def]

theorem above_first (snapshot : InventorySnapshot) :
    above keysetKey (firstKey warehouseId)
      (snapshot.warehouseRows warehouseId) = snapshot.warehouseRows warehouseId := by
  rw [above, List.filter_eq_self]
  intro entry hentry
  rw [InventorySnapshot.warehouseRows, Table.mem_select, beq_iff_eq] at hentry
  have hserial := snapshot.serial entry hentry.1
  rw [decide_eq_true_eq, keysetKey, firstKey, hentry.2]
  exact Prod.Lex.toLex_lt_toLex.mpr (Or.inr ⟨rfl,
    Prod.Lex.toLex_lt_toLex.mpr (Or.inl hserial)⟩)

/-- A scan terminates, and it returns every row of the warehouse exactly once if and only
if no page ends between two rows with the same item and bin. -/
theorem scanInventory_complete_iff (hlimit : 1 ≤ limit)
    (hscope : warehouseId ∈ token.warehouseIds) {scans : Table SnapshotScan}
    (hidle : inFlight token scans < maxConcurrentScansPerToken)
    (pgSnapshotId snapshotEventId : ℕ) {fuel : ℕ}
    (hfuel : ((snapshots (some pgSnapshotId)).warehouseRows warehouseId).length < fuel) :
    ∃ pages, scanInventory snapshots arrangements token warehouseId limit
        (some (pgSnapshotId, snapshotEventId)) scans fuel = some pages ∧
      ((pages.flatMap SnapshotPage.rows).Perm
          ((snapshots (some pgSnapshotId)).warehouseRows warehouseId) ↔
        Aligned limit (sortedKeys keysetKey
          ((snapshots (some pgSnapshotId)).warehouseRows warehouseId))) := by
  set rows := (snapshots (some pgSnapshotId)).warehouseRows warehouseId
  have hrows : (scanInventory snapshots arrangements token warehouseId limit
      (some (pgSnapshotId, snapshotEventId)) scans fuel).map
        (fun pages => pages.map SnapshotPage.rows) =
      scan arrangements rows limit fuel (firstKey warehouseId) :=
    scanInventory_rows hscope hidle pgSnapshotId snapshotEventId fuel
  have habove : above keysetKey (firstKey warehouseId) rows = rows :=
    above_first (snapshots (some pgSnapshotId))
  have hscan : ∃ found, scan arrangements rows limit fuel (firstKey warehouseId) =
      some found := Keyset.exists_scan hlimit (habove.symm ▸ hfuel)
  obtain ⟨found, hfound⟩ := hscan
  have hiff := Keyset.flatten_perm_iff hlimit hfound
  rw [habove] at hiff
  rw [hfound] at hrows
  obtain ⟨pages, hpages, hmap⟩ := Option.map_eq_some_iff.mp hrows
  refine ⟨pages, hpages, ?_⟩
  rw [← hiff, ← hmap, List.flatMap_def]

end Completeness

def twoLots : InventorySnapshot where
  rows := Table.ofRows [⟨1, 1, 1, 4, 0, some "A", 0⟩, ⟨1, 1, 1, 6, 0, some "B", 0⟩]
  serial := by decide

/-- With one row a page, the second lot of a bin is never read. -/
theorem scanInventory_losesLot :
    (scanInventory (fun _ => twoLots) (fun _ => Arrangement.stable keysetKey) ⟨1, [1]⟩ 1 1
        (some (7, 0)) Table.empty 3).map (fun pages => decide
          ((pages.flatMap SnapshotPage.rows).Perm (twoLots.warehouseRows 1))) =
      some false := by
  decide

/-- With two rows a page it is. -/
theorem scanInventory_twoLots :
    1 ≤ 2 ∧ 1 ∈ [1] ∧ inFlight ⟨1, [1]⟩ Table.empty < maxConcurrentScansPerToken ∧
      ∃ pages, scanInventory (fun _ => twoLots) (fun _ => Arrangement.stable keysetKey)
          ⟨1, [1]⟩ 1 2 (some (7, 0)) Table.empty 3 = some pages ∧
        ((pages.flatMap SnapshotPage.rows).Perm (twoLots.warehouseRows 1) ↔
          Aligned 2 (sortedKeys keysetKey (twoLots.warehouseRows 1))) :=
  ⟨by decide, by decide, by decide,
    scanInventory_complete_iff (by decide) (by decide) (by decide) 7 0 (by decide)⟩

end SentryWms.Snapshot
