import SentryWms.Picking.WaveTurns
import SentryWms.SalesOrder.Editing

/-!
# What a wave allocates

Where the coverage check reports nothing, the locked rows of each item have what the lines
need of it. The turns of the wave then balance both margins: the breakdown of each task adds
up to the task, and the breakdowns of a line add up to its need.
-/

namespace SentryWms

open Relational Transition

/-! ## The turns of a covered wave -/

theorem rowTakes_spec {rows : List (ℕ × Candidate)} (hrows : ∀ row ∈ rows,
    0 ≤ row.2.available) {demand : ℤ} (hdemand : 0 ≤ demand)
    (hle : demand ≤ totalAvailable rows) :
    supply (rowTakes demand rows) = demand ∧
      ∀ draw ∈ rowTakes demand rows, draw.1 ∈ rows ∧ 0 ≤ draw.2 ∧
        draw.2 ≤ draw.1.2.available := by
  have hsources : ∀ source ∈ rows.map fun row => (row, row.2.available),
      0 ≤ source.2 := by
    intro source hsource
    obtain ⟨row, hrow, rfl⟩ := List.mem_map.mp hsource
    exact hrows row hrow
  have hsupply : supply (rows.map fun row => (row, row.2.available)) =
      totalAvailable rows := by
    simp [supply, totalAvailable, Function.comp_def]
  refine ⟨Walk.supply_takes_of_le hdemand hsources (hsupply ▸ hle), ?_⟩
  rintro ⟨row, quantity⟩ hdraw
  obtain ⟨available, hsource, hnonneg, hquantity, -⟩ := Walk.mem_takes hsources hdraw
  obtain ⟨found, hfound, heq⟩ := List.mem_map.mp hsource
  cases heq
  exact ⟨hfound, hnonneg, hquantity⟩

section Covered

variable {store : Store} {salesOrders : List (ℕ × SalesOrder)} {warehouseId : ℕ}

theorem planCoverage_locked (store : Store) (map : CoverageMap) (warehouseId : ℕ) :
    (planCoverage store map warehouseId).2 =
      map.map fun entry => (entry.1, store.candidateRows entry.1 warehouseId) := by
  rw [planCoverage_eq]
  suffices hall : ∀ start : List UnpickableOrder × LockedRows,
      (map.foldl (coverEntry store warehouseId) start).2 =
      start.2 ++ map.map fun entry => (entry.1, store.candidateRows entry.1 warehouseId) from
    hall ([], [])
  induction map with
  | nil => simp
  | cons entry rest ih =>
      intro start
      rw [List.foldl_cons, ih, coverEntry, List.map_cons, List.append_assoc]
      rfl

theorem locked_of (warehouseId : ℕ) {entry : ℕ × List Contribution}
    (hentry : entry ∈ coverageMap store salesOrders) :
    LockedRows.of (planCoverage store (coverageMap store salesOrders) warehouseId).2
      entry.1 = store.candidateRows entry.1 warehouseId := by
  have hmem : (entry.1, store.candidateRows entry.1 warehouseId) ∈
      (coverageMap store salesOrders).map fun entry =>
        (entry.1, store.candidateRows entry.1 warehouseId) :=
    List.mem_map_of_mem hentry
  have hnodup : (((coverageMap store salesOrders).map fun entry =>
      (entry.1, store.candidateRows entry.1 warehouseId)).map Prod.fst).Nodup := by
    rw [List.map_map]
    exact (coverageMap_spec store salesOrders).1
  rw [LockedRows.of, planCoverage_locked, Directory.find?_of_mem hnodup hmem]

theorem combinedNeeded_le_of_covered
    (hcovered : (planCoverage store (coverageMap store salesOrders) warehouseId).1 = [])
    {entry : ℕ × List Contribution} (hentry : entry ∈ coverageMap store salesOrders) :
    combinedNeeded entry.2 ≤
      totalAvailable (store.candidateRows entry.1 warehouseId) := by
  have hnone : passedOver Contribution.needed
      (totalAvailable (store.candidateRows entry.1 warehouseId)) 0
      (sortContributions entry.2) = [] := by
    rw [List.eq_nil_iff_forall_not_mem]
    intro contribution hmem
    have hreported := (mem_planCoverage store (coverageMap store salesOrders) warehouseId
      contribution.soId).mpr ⟨entry, hentry, contribution, hmem, rfl⟩
    rw [hcovered] at hreported
    cases hreported
  have hfits := (Admission.passedOver_eq_nil_iff (needed_of_sorted hentry)
    (totalAvailable_nonneg store entry.1 warehouseId)).mp hnone
  rwa [zero_add, ((perm_sortContributions entry.2).map Contribution.needed).sum_eq] at hfits

theorem needed_of_entry {entry : ℕ × List Contribution}
    (hentry : entry ∈ coverageMap store salesOrders) :
    ∀ contribution ∈ entry.2, 0 ≤ contribution.needed :=
  fun contribution hmem => needed_of_sorted hentry contribution
    ((perm_sortContributions entry.2).mem_iff.mpr hmem)

def entryTakes (store : Store) (warehouseId : ℕ) (entry : ℕ × List Contribution) :
    List ((ℕ × Candidate) × ℤ) :=
  rowTakes (combinedNeeded entry.2) (store.candidateRows entry.1 warehouseId)

theorem entryTakes_spec
    (hcovered : (planCoverage store (coverageMap store salesOrders) warehouseId).1 = [])
    {entry : ℕ × List Contribution} (hentry : entry ∈ coverageMap store salesOrders) :
    supply (entryTakes store warehouseId entry) = combinedNeeded entry.2 ∧
      ∀ draw ∈ entryTakes store warehouseId entry,
        draw.1 ∈ store.candidateRows entry.1 warehouseId ∧ 0 ≤ draw.2 ∧
          draw.2 ≤ draw.1.2.available :=
  rowTakes_spec (fun _ hrow => le_of_lt (candidateRows_available hrow))
    (combinedNeeded_nonneg (needed_of_entry hentry))
    (combinedNeeded_le_of_covered hcovered hentry)

theorem entryTurns_spec (batchId : ℕ)
    (hcovered : (planCoverage store (coverageMap store salesOrders) warehouseId).1 = [])
    {entry : ℕ × List Contribution} (hentry : entry ∈ coverageMap store salesOrders) :
    (∀ turn ∈ entryTurns batchId
        (planCoverage store (coverageMap store salesOrders) warehouseId).2 entry,
      turn.Whole batchId) ∧
    (∀ soLineId, gainOf soLineId (entryTurns batchId
        (planCoverage store (coverageMap store salesOrders) warehouseId).2 entry) =
      neededBy soLineId entry.2) ∧
    drawsOf (entryTurns batchId
        (planCoverage store (coverageMap store salesOrders) warehouseId).2 entry) =
      (entryTakes store warehouseId entry).map fun draw => (draw.1.1, draw.2) := by
  obtain ⟨hsupply, htakes⟩ := entryTakes_spec hcovered hentry
  have hneeded := needed_of_entry hentry
  have hlocked := locked_of warehouseId hentry
  obtain ⟨itemId, contributions⟩ := entry
  cases contributions with
  | nil => simp [entryTurns, gainOf, neededBy, drawsOf, entryTakes, rowTakes, combinedNeeded,
      Walk.takes_of_nonpos]
  | cons first rest =>
      have hturns : entryTurns batchId
          (planCoverage store (coverageMap store salesOrders) warehouseId).2
          (itemId, first :: rest) =
          itemTurns batchId itemId first (first :: rest)
            (entryTakes store warehouseId (itemId, first :: rest)) := by
        rw [entryTurns, hlocked]
        rfl
      rw [hturns]
      obtain ⟨hwhole, hgain⟩ := itemTurns_spec batchId itemId first
        (fun draw hdraw => (htakes draw hdraw).2.1) hneeded hsupply
      refine ⟨hwhole, hgain, ?_⟩
      exact drawsOf_itemTurns _ _ _ _ _

def waveTurns (store : Store) (salesOrders : List (ℕ × SalesOrder))
    (warehouseId batchId : ℕ) : List WaveTurn :=
  (coverageMap store salesOrders).flatMap
    (entryTurns batchId (planCoverage store (coverageMap store salesOrders) warehouseId).2)

theorem gainOf_flatMap {entries : CoverageMap} (turns : ℕ × List Contribution → List WaveTurn)
    (soLineId : ℕ) :
    gainOf soLineId (entries.flatMap turns) =
      (entries.map fun entry => gainOf soLineId (turns entry)).sum := by
  induction entries with
  | nil => rfl
  | cons entry entries ih =>
      rw [List.flatMap_cons, List.map_cons, List.sum_cons, ← ih, gainOf, List.map_append,
        List.sum_append]
      rfl

theorem sum_neededBy (store : Store) (salesOrders : List (ℕ × SalesOrder))
    (soLineId : ℕ) :
    ((coverageMap store salesOrders).map fun entry => neededBy soLineId entry.2).sum =
      neededBy soLineId ((store.contributions salesOrders).map Prod.snd) := by
  have hadd : ∀ (itemId : ℕ) (contribution : Contribution) (map : CoverageMap),
      ((map.add itemId contribution).map fun entry => neededBy soLineId entry.2).sum =
        (map.map fun entry => neededBy soLineId entry.2).sum +
          neededBy soLineId [contribution] := by
    intro itemId contribution map
    induction map with
    | nil => simp [CoverageMap.add]
    | cons entry rest ih =>
        obtain ⟨itemId', contributions⟩ := entry
        rw [CoverageMap.add]
        split
        · simp only [neededBy, List.map_cons, List.sum_cons, List.map_append, List.sum_append]
          ring
        · rw [List.map_cons, List.sum_cons, ih, List.map_cons, List.sum_cons, add_assoc]
  rw [coverageMap_eq]
  suffices hall : ∀ (added : List (ℕ × Contribution)) (map : CoverageMap),
      ((added.foldl (fun map new => CoverageMap.add new.1 new.2 map) map).map fun entry =>
        neededBy soLineId entry.2).sum =
      (map.map fun entry => neededBy soLineId entry.2).sum +
        neededBy soLineId (added.map Prod.snd) from
    (hall _ []).trans (zero_add _)
  intro added
  induction added with
  | nil => exact fun map => (add_zero _).symm
  | cons new added ih =>
      intro map
      rw [List.foldl_cons, ih, hadd, add_assoc]
      simp [neededBy]

theorem contributions_nodup (hnodup : (salesOrders.map Prod.fst).Nodup) :
    (((store.contributions salesOrders).map Prod.snd).map Contribution.soLineId).Nodup := by
  have hflat : ((store.contributions salesOrders).map Prod.snd).map Contribution.soLineId =
      salesOrders.flatMap fun order => (store.openLines order.1).map Prod.fst := by
    simp [Store.contributions, List.map_flatMap, Function.comp_def, contributionOf]
  rw [hflat, List.nodup_flatMap]
  refine ⟨fun order _ => store.salesOrderLines.select_nodup _, ?_⟩
  rw [List.Nodup, List.pairwise_map] at hnodup
  apply hnodup.imp
  intro left right hne soLineId hleft hright
  obtain ⟨line, hline, rfl⟩ := List.mem_map.mp hleft
  obtain ⟨line', hline', hkey⟩ := List.mem_map.mp hright
  obtain ⟨hmem, hso, -⟩ := openLines_needed hline
  obtain ⟨hmem', hso', -⟩ := openLines_needed hline'
  have hrow : (line.1, line'.2) ∈ store.salesOrderLines.entries := by
    rw [← hkey]
    exact hmem'
  rw [store.salesOrderLines.row_unique hmem hrow] at hso
  exact hne (hso.symm.trans hso')

theorem neededBy_openLine (hnodup : (salesOrders.map Prod.fst).Nodup)
    {order : ℕ × SalesOrder} (horder : order ∈ salesOrders) {line : ℕ × SalesOrderLine}
    (hline : line ∈ store.openLines order.1) :
    neededBy line.1 ((store.contributions salesOrders).map Prod.snd) =
      line.2.quantityOrdered - line.2.quantityAllocated := by
  have hmem : (contributionOf order line).2 ∈
      (store.contributions salesOrders).map Prod.snd :=
    List.mem_map_of_mem (mem_contributions.mpr ⟨order, horder, line, hline, rfl⟩)
  exact Table.sum_ite_key (contributions_nodup hnodup) hmem Contribution.needed

/-- They need nothing for any other line. -/
theorem neededBy_eq_zero_of_not_open {soLineId : ℕ}
    (hother : ∀ order ∈ salesOrders, ∀ line ∈ store.openLines order.1, line.1 ≠ soLineId) :
    neededBy soLineId ((store.contributions salesOrders).map Prod.snd) = 0 := by
  apply List.sum_eq_zero
  intro summand hsummand
  obtain ⟨contribution, hmem, rfl⟩ := List.mem_map.mp hsummand
  obtain ⟨new, hnew, rfl⟩ := List.mem_map.mp hmem
  obtain ⟨order, horder, line, hline, rfl⟩ := mem_contributions.mp hnew
  exact if_neg (hother order horder line hline)

theorem waveTurns_spec
    (hcovered : (planCoverage store (coverageMap store salesOrders) warehouseId).1 = [])
    (batchId : ℕ) :
    (∀ turn ∈ waveTurns store salesOrders warehouseId batchId, turn.Whole batchId) ∧
    (∀ soLineId, gainOf soLineId (waveTurns store salesOrders warehouseId batchId) =
      neededBy soLineId ((store.contributions salesOrders).map Prod.snd)) ∧
    drawsOf (waveTurns store salesOrders warehouseId batchId) =
      (coverageMap store salesOrders).flatMap fun entry =>
        (entryTakes store warehouseId entry).map fun draw => (draw.1.1, draw.2) := by
  have hentries := @entryTurns_spec store salesOrders warehouseId batchId hcovered
  refine ⟨?_, ?_, ?_⟩
  · intro turn hturn
    obtain ⟨entry, hentry, hmem⟩ := List.mem_flatMap.mp hturn
    exact (hentries hentry).1 turn hmem
  · intro soLineId
    rw [waveTurns, gainOf_flatMap, ← sum_neededBy]
    congr 1
    exact List.map_congr_left fun entry hentry => (hentries hentry).2.1 soLineId
  · rw [waveTurns, drawsOf, List.map_flatMap]
    exact List.flatMap_congr fun entry hentry => (hentries hentry).2.2

theorem waveDraws_spec
    (hcovered : (planCoverage store (coverageMap store salesOrders) warehouseId).1 = [])
    (batchId : ℕ) :
    ((drawsOf (waveTurns store salesOrders warehouseId batchId)).map Prod.fst).Nodup ∧
      ∀ draw ∈ drawsOf (waveTurns store salesOrders warehouseId batchId), ∃ row,
        (draw.1, row) ∈ store.inventory.entries ∧ draw.2 ≤ row.available := by
  obtain ⟨-, -, hdraws⟩ := waveTurns_spec hcovered batchId
  have hrow : ∀ entry ∈ coverageMap store salesOrders,
      ∀ draw ∈ entryTakes store warehouseId entry, ∃ row,
        (draw.1.1, row) ∈ store.inventory.entries ∧ row.itemId = entry.1 ∧
          draw.2 ≤ row.available := by
    intro entry hentry draw hdraw
    obtain ⟨hcandidate, -, hle⟩ := (entryTakes_spec hcovered hentry).2 draw hdraw
    obtain ⟨row, hmem, hitem, havailable, -⟩ := mem_candidateRows hcandidate
    exact ⟨row, hmem, hitem, havailable ▸ hle⟩
  rw [hdraws]
  constructor
  · rw [List.map_flatMap, List.nodup_flatMap]
    constructor
    · intro entry _
      have hkeys : (entryTakes store warehouseId entry).map (fun draw => draw.1.1) <+:
          (store.candidateRows entry.1 warehouseId).map Prod.fst := by
        have hinitial := Walk.takes_keys_initial (combinedNeeded entry.2)
          ((store.candidateRows entry.1 warehouseId).map fun row => (row, row.2.available))
        simpa [Function.comp_def, entryTakes, rowTakes] using hinitial.map Prod.fst
      rw [List.map_map]
      exact (candidateRows_nodup store entry.1 warehouseId).sublist hkeys.sublist
    · have hitems := (coverageMap_spec store salesOrders).1
      rw [List.Nodup, List.pairwise_map] at hitems
      apply hitems.imp_of_mem
      intro left right hleft hright hne inventoryId hmem hmem'
      simp only [List.map_map, List.mem_map, Function.comp_apply] at hmem hmem'
      obtain ⟨draw, hdraw, rfl⟩ := hmem
      obtain ⟨draw', hdraw', hkey⟩ := hmem'
      obtain ⟨row, hmemRow, hitem, -⟩ := hrow left hleft draw hdraw
      obtain ⟨row', hmemRow', hitem', -⟩ := hrow right hright draw' hdraw'
      rw [hkey] at hmemRow'
      rw [store.inventory.row_unique hmemRow hmemRow'] at hitem
      exact hne (hitem.symm.trans hitem')
  · intro draw hdraw
    obtain ⟨entry, hentry, hmem⟩ := List.mem_flatMap.mp hdraw
    obtain ⟨taken, htaken, rfl⟩ := List.mem_map.mp hmem
    obtain ⟨row, hmemRow, -, hle⟩ := hrow entry hentry taken htaken
    exact ⟨row, hmemRow, hle⟩

end Covered

/-! ## The batch of the wave -/

/-- The foreign keys between batches, their orders, their tasks and the breakdowns. -/
structure Store.ForeignKeys (store : Store) : Prop where
  tasks : ∀ entry ∈ store.pickTasks.entries, entry.2.batchId ∈ store.pickBatches.keys
  rows : ∀ entry ∈ store.wavePickBreakdown.entries,
    entry.2.pickTaskId ∈ store.pickTasks.keys
  orders : ∀ entry ∈ store.pickBatchOrders.entries,
    entry.2.batchId ∈ store.pickBatches.keys

def Store.pickTables (store : Store) :
    Table PickBatch × Table PickBatchOrder × Table PickTask × Table WavePickBreakdown :=
  (store.pickBatches, store.pickBatchOrders, store.pickTasks, store.wavePickBreakdown)

theorem foreignKeys_congr {store store' : Store}
    (htables : store.pickTables = store'.pickTables) (hkeys : store'.ForeignKeys) :
    store.ForeignKeys := by
  simp only [Store.pickTables, Prod.mk.injEq] at htables
  obtain ⟨hbatches, horders, htasks, hrows⟩ := htables
  constructor
  · rw [htasks, hbatches]
    exact hkeys.tasks
  · rw [hrows, htasks]
    exact hkeys.rows
  · rw [horders, hbatches]
    exact hkeys.orders

theorem setTaskStatus_foreignKeys {store : Store} (hkeys : store.ForeignKeys)
    (pickTaskId : ℕ) (status : TaskStatus) :
    (store.setTaskStatus pickTaskId status).ForeignKeys := by
  constructor
  · rintro ⟨taskId, task⟩ hmem
    obtain ⟨before, hbefore, rfl⟩ := (Table.mem_modify _).mp hmem
    have hbatch := hkeys.tasks _ hbefore
    split <;> exact hbatch
  · intro entry hentry
    have hrow := hkeys.rows entry hentry
    rw [Store.setTaskStatus, Table.modify, Table.mapRows_keys]
    exact hrow
  · exact hkeys.orders

theorem revertTask_foreignKeys {store : Store} (hkeys : store.ForeignKeys)
    (warehouseId : ℕ) (entry : ℕ × PickTask) :
    (revertTask warehouseId store entry).ForeignKeys := by
  have hline : ∀ (store : Store) (task : PickTask),
      (revertLine store task).pickTables = store.pickTables := by
    intro store task
    unfold revertLine
    split
    · rfl
    · split <;> rfl
  have hrelease : ∀ (store : Store) (task : PickTask),
      (releaseBin store task).pickTables = store.pickTables := by
    intro store task
    unfold releaseBin
    split <;> rfl
  have hrestore : ∀ (store : Store) (task : PickTask),
      (restoreBin store warehouseId task).pickTables = store.pickTables := by
    intro store task
    unfold restoreBin addInventory
    split
    · split <;> rfl
    · rfl
  unfold revertTask
  split
  · exact hkeys
  split
  · exact setTaskStatus_foreignKeys
      (foreignKeys_congr ((hline _ _).trans (hrelease _ _)) hkeys) _ _
  · exact setTaskStatus_foreignKeys
      (foreignKeys_congr ((hline _ _).trans (hrestore _ _)) hkeys) _ _
  · exact setTaskStatus_foreignKeys
      (foreignKeys_congr ((hline _ _).trans (hrestore _ _)) hkeys) _ _
  · exact hkeys
  · exact hkeys

theorem fullRevertBatch_foreignKeys {store after : Store} {batchId : ℕ}
    {result : RevertResult} (hkeys : store.ForeignKeys)
    (hrevert : fullRevertBatch store batchId = .ok (after, result)) :
    after.ForeignKeys := by
  unfold fullRevertBatch at hrevert
  split at hrevert
  next => cases hrevert
  next batch hbatch =>
    split at hrevert
    next =>
      cases hrevert
      exact hkeys
    next =>
      cases hrevert
      have hreverted := foldl_invariant Store.ForeignKeys
        (fun store entry hstore => revertTask_foreignKeys hstore batch.warehouseId entry)
        (store.batchTasks batchId) hkeys
      constructor
      · intro entry hentry
        rw [Store.setBatchStatus, Table.modify, Table.mapRows_keys]
        exact hreverted.tasks entry hentry
      · exact hreverted.rows
      · intro entry hentry
        rw [Store.setBatchStatus, Table.modify, Table.mapRows_keys]
        exact hreverted.orders entry hentry

theorem cancelPriorUserBatches_foreignKeys {store after : Store} {username : String}
    {warehouseId : ℕ} {cancelled : List ℕ} (hkeys : store.ForeignKeys)
    (hcancel : cancelPriorUserBatches store username warehouseId =
      .ok (after, cancelled)) : after.ForeignKeys := by
  apply foldlM_invariant (fun state : Store × List ℕ => state.1.ForeignKeys) ?_ hcancel hkeys
  intro state entry result _ hstate hstep
  obtain ⟨⟨reverted, _⟩, hrevert, hok⟩ := bind_eq_ok.mp hstep
  cases hok
  exact fullRevertBatch_foreignKeys hstate hrevert

theorem normalizeLine_pickTables (warehouseId : ℕ) (store : Store)
    (entry : ℕ × SalesOrderLine) :
    (normalizeLine warehouseId store entry).pickTables = store.pickTables := rfl

theorem normalizeSoReservations_pickTables (warehouseId : ℕ) (store : Store) (soId : ℕ) :
    (normalizeSoReservations warehouseId store soId).pickTables = store.pickTables :=
  foldl_keeps Store.pickTables (normalizeLine_pickTables warehouseId) _ store

theorem validateOrders_fst {store : Store} {warehouseId : ℕ} {soIds : List ℕ}
    {salesOrders : List (ℕ × SalesOrder)}
    (hvalidate : soIds.mapM (validateOrder store warehouseId) = .ok salesOrders) :
    salesOrders.map Prod.fst = soIds := by
  induction soIds generalizing salesOrders with
  | nil =>
      cases hvalidate
      rfl
  | cons soId soIds ih =>
      rw [List.mapM_cons] at hvalidate
      obtain ⟨order, horder, hvalidate⟩ := bind_eq_ok.mp hvalidate
      obtain ⟨rest, hrest, hvalidate⟩ := bind_eq_ok.mp hvalidate
      cases hvalidate
      have hid : order.1 = soId := by
        unfold validateOrder at horder
        split at horder
        · cases horder
        split at horder
        · cases horder
        split at horder
        · cases horder
        split at horder
        · cases horder
        split at horder
        · cases horder
        · cases horder
          rfl
      rw [List.map_cons, hid, ih hrest]

theorem prepareWave_spec {store : Store} {soIds : List ℕ} {warehouseId : ℕ}
    {username : String} {excludeSoIds : List ℕ} {prepared : Prepared}
    (hkeys : store.ForeignKeys)
    (hprepare : prepareWave store soIds warehouseId username excludeSoIds = .ok prepared) :
    prepared.store.ForeignKeys ∧ (prepared.salesOrders.map Prod.fst).Nodup ∧
      prepared.coverage = coverageMap prepared.store prepared.salesOrders ∧
      planCoverage prepared.store prepared.coverage warehouseId = ([], prepared.locked) := by
  unfold prepareWave at hprepare
  split at hprepare
  · cases hprepare
  next hnodup =>
    split at hprepare
    · cases hprepare
    next first rest hfilter =>
      obtain ⟨⟨swept, cancelled⟩, hsweep, hprepare⟩ := bind_eq_ok.mp hprepare
      obtain ⟨salesOrders, hvalidate, hprepare⟩ := bind_eq_ok.mp hprepare
      obtain ⟨covered, hcovered, hprepare⟩ := bind_eq_ok.mp hprepare
      split at hprepare
      · cases hprepare
      · cases hprepare
        obtain ⟨hstore, horders, hcoverage, hplan⟩ := prepareCoverage_spec hcovered
        refine ⟨?_, ?_, ?_, hplan⟩
        · rw [hstore]
          exact foreignKeys_congr
            (foldl_keeps Store.pickTables (normalizeSoReservations_pickTables warehouseId)
              (salesOrders.map Prod.fst) swept)
            (cancelPriorUserBatches_foreignKeys hkeys hsweep)
        · rw [horders, validateOrders_fst hvalidate, ← hfilter]
          exact (not_not.mp hnodup).filter _
        · rw [hcoverage, horders]

theorem insertBatchOrders_eq_ok (batchId : ℕ) {salesOrders : List (ℕ × SalesOrder)}
    (hnodup : (salesOrders.map Prod.fst).Nodup) (store : Store)
    (hfree : ∀ entry ∈ store.pickBatchOrders.entries, entry.2.batchId = batchId →
      entry.2.soId ∉ salesOrders.map Prod.fst) (index : ℕ) :
    ∃ pickBatchOrders, insertBatchOrders batchId store index salesOrders =
      .ok { store with pickBatchOrders } := by
  induction salesOrders generalizing store index with
  | nil => exact ⟨store.pickBatchOrders, rfl⟩
  | cons order rest ih =>
      rw [List.map_cons, List.nodup_cons] at hnodup
      have hnew : ¬ (store.pickBatchOrders.entries.any fun entry =>
          entry.2.batchId == batchId && entry.2.soId == order.1) = true := by
        intro htaken
        obtain ⟨entry, hentry, hcond⟩ := List.any_eq_true.mp htaken
        rw [Bool.and_eq_true, beq_iff_eq, beq_iff_eq] at hcond
        apply hfree entry hentry hcond.1
        rw [hcond.2, List.map_cons]
        exact List.mem_cons_self
      rw [insertBatchOrders, if_neg hnew]
      apply ih hnodup.2
      intro entry hentry hbatch
      rcases (Table.mem_insert _).mp hentry with hbefore | rfl
      · intro hmem
        exact hfree entry hbefore hbatch (List.mem_cons_of_mem _ hmem)
      · exact hnodup.1

/-! ## Allocating in full -/

/-- A wave allocates its orders in full: what the lines are allocated, what the tasks are
broken down into, what the breakdowns of a line add up to, what is reserved of the stock,
and the total of the batch. -/
structure AllocatesInFull (prepared : Prepared) (after : Store) (batchId : ℕ) : Prop where
  lines : ∀ order ∈ prepared.salesOrders, ∀ soLineId line,
    (soLineId, line) ∈ prepared.store.salesOrderLines.entries → line.soId = order.1 →
    after.salesOrderLines.get? soLineId =
      some { line with
        quantityAllocated := max line.quantityOrdered line.quantityAllocated }
  positive : ∀ entry ∈ after.batchTasks batchId, ∀ row ∈ after.breakdown entry.1,
    0 < row.2.quantity
  tasks : ∀ entry ∈ after.batchTasks batchId,
    ((after.breakdown entry.1).map fun row => row.2.quantity).sum = entry.2.quantityToPick
  needs : ∀ order ∈ prepared.salesOrders, ∀ line ∈ prepared.store.openLines order.1,
    ((after.batchTasks batchId).map fun entry =>
      sumOver line.1 (fun row => row.2.quantity) (after.breakdown entry.1)).sum =
    line.2.quantityOrdered - line.2.quantityAllocated
  stock : ∀ inventoryId row, (inventoryId, row) ∈ after.inventory.entries →
    (inventoryId, row) ∈ prepared.store.inventory.entries ∨
      row.quantityAllocated ≤ row.quantityOnHand
  total : ∃ batch, after.pickBatches.get? batchId = some batch ∧
    batch.totalItems = ((after.batchTasks batchId).map fun entry =>
      entry.2.quantityToPick).sum

section Allocates

variable {prepared : Prepared} {warehouseId : ℕ}

theorem allocated_add_neededBy
    (hnodup : (prepared.salesOrders.map Prod.fst).Nodup) {order : ℕ × SalesOrder}
    (horder : order ∈ prepared.salesOrders) {soLineId : ℕ} {line : SalesOrderLine}
    (hline : (soLineId, line) ∈ prepared.store.salesOrderLines.entries)
    (hso : line.soId = order.1) :
    line.quantityAllocated + neededBy soLineId
        ((prepared.store.contributions prepared.salesOrders).map Prod.snd) =
      max line.quantityOrdered line.quantityAllocated := by
  by_cases hopen : line.quantityAllocated < line.quantityOrdered
  · have hmem : (soLineId, line) ∈ prepared.store.openLines order.1 :=
      (Table.mem_select _).mpr ⟨hline, by simp [hso, hopen]⟩
    have hneed := neededBy_openLine hnodup horder hmem
    dsimp only at hneed
    omega
  · have hnone : neededBy soLineId
        ((prepared.store.contributions prepared.salesOrders).map Prod.snd) = 0 := by
      apply neededBy_eq_zero_of_not_open
      rintro order' - ⟨soLineId', line'⟩ hline' rfl
      obtain ⟨hmem, -, hpos⟩ := openLines_needed hline'
      rw [prepared.store.salesOrderLines.row_unique hline hmem] at hopen
      dsimp only at hpos
      omega
    omega

theorem waveUnits_eq (hcoverage : prepared.coverage =
      coverageMap prepared.store prepared.salesOrders)
    (hplan : planCoverage prepared.store prepared.coverage warehouseId =
      ([], prepared.locked)) (batchId : ℕ) :
    waveUnits prepared = supply (drawsOf
      (waveTurns prepared.store prepared.salesOrders warehouseId batchId)) := by
  rw [hcoverage] at hplan
  obtain ⟨-, -, hdraws⟩ := waveTurns_spec (congrArg Prod.fst hplan) batchId
  have hsum : ∀ entries : CoverageMap,
      supply (entries.flatMap fun entry =>
        (entryTakes prepared.store warehouseId entry).map fun draw => (draw.1.1, draw.2)) =
      (entries.map fun entry => supply (entryTakes prepared.store warehouseId entry)).sum := by
    intro entries
    induction entries with
    | nil => rfl
    | cons entry entries ih =>
        rw [List.flatMap_cons, Walk.supply_append, ih, List.map_cons, List.sum_cons]
        congr 1
        simp [supply, Function.comp_def]
  rw [hdraws, hsum, waveUnits, hcoverage]
  congr 1
  apply List.map_congr_left
  intro entry hentry
  have hlocked := locked_of warehouseId hentry
  rw [hplan] at hlocked
  rw [hlocked]
  rfl

theorem allocateWave_allocatesInFull (hkeys : prepared.store.ForeignKeys)
    (hnodup : (prepared.salesOrders.map Prod.fst).Nodup)
    (hcoverage : prepared.coverage = coverageMap prepared.store prepared.salesOrders)
    (hplan : planCoverage prepared.store prepared.coverage warehouseId =
      ([], prepared.locked)) (username : String) :
    ∃ after, allocateWave prepared warehouseId username =
        .ok (after, prepared.store.pickBatches.next) ∧
      AllocatesInFull prepared after prepared.store.pickBatches.next := by
  have hnewBatch : ∀ batchId ∈ prepared.store.pickBatches.keys,
      batchId ≠ prepared.store.pickBatches.next := fun batchId hbatch =>
    Nat.ne_of_lt (prepared.store.pickBatches.fresh batchId hbatch)
  obtain ⟨pickBatchOrders, hinsert⟩ := insertBatchOrders_eq_ok
    prepared.store.pickBatches.next hnodup
    (prepared.store.insertBatch warehouseId username)
    (fun entry hentry hbatch => absurd hbatch (hnewBatch _ (hkeys.orders entry hentry))) 1
  let base : Store := { prepared.store.insertBatch warehouseId username with pickBatchOrders }
  have hnoTasks : base.batchTasks prepared.store.pickBatches.next = [] := by
    rw [List.eq_nil_iff_forall_not_mem]
    intro entry hentry
    obtain ⟨hmem, hbatch⟩ := mem_batchTasks.mp hentry
    exact hnewBatch _ (hkeys.tasks entry hmem) hbatch
  have hbroken : base.BrokenDown prepared.store.pickBatches.next := by
    constructor
    · intro entry hentry
      exact prepared.store.pickTasks.fresh _ (hkeys.rows entry hentry)
    · simp [hnoTasks]
    · simp [hnoTasks]
  have hcovered : (planCoverage prepared.store
      (coverageMap prepared.store prepared.salesOrders) warehouseId).1 = [] := by
    rw [← hcoverage, hplan]
  obtain ⟨hwhole, hgain, -⟩ :=
    waveTurns_spec hcovered prepared.store.pickBatches.next
  obtain ⟨hdrawn, hdraws⟩ := waveDraws_spec hcovered prepared.store.pickBatches.next
  have hturned := turns_spec hwhole hbroken
  have hmoved : prepared.coverage.foldl
      (allocateItem prepared.store.pickBatches.next prepared.locked) base =
      (waveTurns prepared.store prepared.salesOrders warehouseId
        prepared.store.pickBatches.next).foldl WaveTurn.write base := by
    rw [allocateItem_foldl, waveTurns, ← hcoverage, hplan]
  rw [← hmoved] at hturned
  refine ⟨Store.setTotals (prepared.coverage.foldl
      (allocateItem prepared.store.pickBatches.next prepared.locked) base)
    prepared.store.pickBatches.next prepared.salesOrders.length (waveUnits prepared), ?_, ?_⟩
  · rw [allocateWave, hinsert]
    rfl
  generalize prepared.coverage.foldl
    (allocateItem prepared.store.pickBatches.next prepared.locked) base = moved at hturned ⊢
  constructor
  · intro order horder soLineId line hline hso
    have hget : base.salesOrderLines.get? soLineId = some line :=
      (Table.get?_eq_some _).mpr hline
    have hafter := hturned.line soLineId
    rw [hget, hgain, Option.map_some, allocated_add_neededBy hnodup horder hline hso] at hafter
    exact hafter
  · exact hturned.brokenDown.positive
  · exact hturned.brokenDown.sum
  · intro order horder line hline
    have hserved := hturned.servedFor line.1
    have hnone : base.servedFor prepared.store.pickBatches.next line.1 = 0 := by
      rw [Store.servedFor, hnoTasks]
      rfl
    rw [hgain, neededBy_openLine hnodup horder hline, hnone, zero_add] at hserved
    exact hserved
  · intro inventoryId row hrow
    have hrow' : (inventoryId, row) ∈ moved.inventory.entries := hrow
    rw [hturned.inventory] at hrow'
    rcases Table.mem_applyTakes _ _ hdrawn hrow' with
      hkept | ⟨before, quantity, hbefore, hdraw, rfl⟩
    · exact .inl hkept
    · obtain ⟨found, hfound, hle⟩ := hdraws _ hdraw
      rw [prepared.store.inventory.row_unique hfound hbefore, Inventory.available] at hle
      refine .inr ?_
      dsimp only [reserveUnits] at hle ⊢
      omega
  · have hunits := hturned.batchUnits
    have hnone : base.batchUnits prepared.store.pickBatches.next = 0 := by
      rw [Store.batchUnits, hnoTasks]
      rfl
    rw [← waveUnits_eq hcoverage hplan, hnone, zero_add] at hunits
    have hget : moved.pickBatches.get? prepared.store.pickBatches.next =
        some { warehouseId, assignedTo := username, status := .open, totalOrders := 0,
               totalItems := 0 } := by
      rw [hturned.pickBatches]
      exact Table.get?_insert_self _ _
    refine ⟨{ warehouseId, assignedTo := username, status := .open,
              totalOrders := prepared.salesOrders.length,
              totalItems := waveUnits prepared }, ?_, ?_⟩
    · rw [Store.setTotals, Table.modify, Table.get?_mapRows, hget, Option.map_some, if_pos rfl]
    · exact hunits.symm

end Allocates

/-- A wave over distinct open orders that the stock covers allocates them in full. -/
theorem waveCreate_allocatesInFull {store : Store} {soIds : List ℕ} {warehouseId : ℕ}
    {username : String} {excludeSoIds : List ℕ} {prepared : Prepared}
    (hkeys : store.ForeignKeys)
    (hprepare : prepareWave store soIds warehouseId username excludeSoIds = .ok prepared) :
    ∃ after batchId, waveCreate store soIds warehouseId username excludeSoIds =
        .ok (after, batchId) ∧ AllocatesInFull prepared after batchId := by
  obtain ⟨hprepared, hnodup, hcoverage, hplan⟩ := prepareWave_spec hkeys hprepare
  obtain ⟨after, hallocate, hfull⟩ :=
    allocateWave_allocatesInFull hprepared hnodup hcoverage hplan username
  refine ⟨after, prepared.store.pickBatches.next, ?_, hfull⟩
  rw [waveCreate, hprepare]
  exact hallocate

/-! ## Two orders -/

/-- The wave over two orders, ready for allocation. -/
def preparedWave : Prepared :=
  match prepareWave twoOrderStore [1, 2] 1 "ann" [] with
  | .ok prepared => prepared
  | .error _ => { store := twoOrderStore, salesOrders := [], coverage := [], locked := [] }

theorem twoOrderStore_allocatesInFull :
    prepareWave twoOrderStore [1, 2] 1 "ann" [] = .ok preparedWave ∧
      ∃ after batchId, waveCreate twoOrderStore [1, 2] 1 "ann" [] = .ok (after, batchId) ∧
        AllocatesInFull preparedWave after batchId := by
  have hkeys : twoOrderStore.ForeignKeys := by
    constructor <;> intro entry hentry <;> cases hentry
  have hprepare : prepareWave twoOrderStore [1, 2] 1 "ann" [] = .ok preparedWave := rfl
  exact ⟨hprepare, waveCreate_allocatesInFull hkeys hprepare⟩

theorem shortQty_pos : (0 : ℤ) < 2 := by decide

/-- The second order is split while its wave is open, the wave is picked, and the batch is
reverted: what the second order got is still counted on its line. -/
def overpickedStore : Store :=
  (((partialFulfillSalesOrder waveStore false 2 [⟨2, 2, shortQty_pos⟩]).toOption.bind
    fun store => (confirmPick store 1 "1" 5).toOption).bind
      fun store => (fullRevertBatch store 1).toOption.map Prod.fst).getD waveStore

/-- The next wave over the two orders. -/
def overpickedWave : Store :=
  match waveCreate overpickedStore [1, 2] 1 "ann" [] with
  | .ok (store, _) => store
  | .error _ => overpickedStore

/-- A line that is allocated beyond its order is left so by a wave over its order. -/
theorem wave_keeps_overallocated :
    waveCreate overpickedStore [1, 2] 1 "ann" [] = .ok (overpickedWave, 2) ∧
      (overpickedStore.salesOrders.get? 2).map SalesOrder.status = some .open ∧
      ∃ line, overpickedWave.salesOrderLines.get? 2 = some line ∧ line.soId = 2 ∧
        line.quantityAllocated ≠ line.quantityOrdered := by
  let line : SalesOrderLine :=
    { soId := 2, itemId := 1, lineNumber := 1, quantityOrdered := 1,
      quantityAllocated := 3, quantityPicked := 3 }
  exact ⟨rfl, rfl, line, rfl, rfl, by decide⟩

end SentryWms
