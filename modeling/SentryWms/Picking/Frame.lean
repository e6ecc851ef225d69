import SentryWms.Picking.Batch
import SentryWms.Picking.Complete

/-!
# What picking leaves alone

Creating, picking and cancelling a batch write stock, order lines, batches, tasks
and breakdowns. Everything else is the catalog of the store; this module shows
that the operations keep it.
-/

namespace SentryWms

open Relational Transition

/-- The tables that no batch operation on sales orders writes, and the clock. -/
structure Catalog where
  warehouses : Table Warehouse
  items : Table Item
  bins : Table Bin
  salesOrders : Table SalesOrder
  transferOrders : Table TransferOrder
  transferOrderLines : Table TransferOrderLine
  transferOrderApprovals : Table TransferOrderApproval
  pickConfirmed : Table PickConfirmed
  appSettings : List (String × String)
  now : ℕ

def Store.catalog (store : Store) : Catalog where
  warehouses := store.warehouses
  items := store.items
  bins := store.bins
  salesOrders := store.salesOrders
  transferOrders := store.transferOrders
  transferOrderLines := store.transferOrderLines
  transferOrderApprovals := store.transferOrderApprovals
  pickConfirmed := store.pickConfirmed
  appSettings := store.appSettings
  now := store.now

theorem foldl_keeps {State Item Obs : Type*} (obs : State → Obs)
    {body : State → Item → State} (hbody : ∀ state item, obs (body state item) = obs state)
    (items : List Item) (state : State) : obs (items.foldl body state) = obs state := by
  induction items generalizing state with
  | nil => rfl
  | cons item items ih => rw [List.foldl_cons, ih, hbody]

/-! ## Stock and lines -/

@[simp]
theorem addInventory_catalog (store : Store) (itemId binId warehouseId : ℕ)
    (quantity : ℤ) (lotNumber : Option String) :
    (addInventory store itemId binId warehouseId quantity lotNumber).1.catalog =
      store.catalog := by
  unfold addInventory
  split <;> rfl

@[simp]
theorem bumpPicked_catalog (store : Store) (soLineId : Option ℕ) (quantity : ℤ) :
    (store.bumpPicked soLineId quantity).catalog = store.catalog := by
  cases soLineId <;> rfl

@[simp]
theorem recordBreakdown_catalog (store : Store) (breakdownId : ℕ)
    (change : WavePickBreakdown → WavePickBreakdown) (soLineId : Option ℕ)
    (quantity : ℤ) :
    (store.recordBreakdown breakdownId change soLineId quantity).catalog =
      store.catalog :=
  bumpPicked_catalog _ soLineId quantity

/-! ## Picks -/

theorem confirmLines_catalog (store : Store) (pickTaskId : ℕ)
    (soLineId : Option ℕ) (quantityPicked : ℤ) :
    (confirmLines store pickTaskId soLineId quantityPicked).catalog =
      store.catalog := by
  unfold confirmLines
  split
  · exact bumpPicked_catalog _ _ _
  · exact foldl_keeps Store.catalog
      (fun store entry => recordBreakdown_catalog store _ _ _ _) _ _

theorem shortBreakdown_catalog (rows : List (ℕ × WavePickBreakdown)) (store : Store)
    (remainingToGive : ℤ) :
    (shortBreakdown store remainingToGive rows).catalog = store.catalog := by
  induction rows generalizing store remainingToGive with
  | nil => rfl
  | cons row rows ih => rw [shortBreakdown, ih, recordBreakdown_catalog]

theorem shortLines_catalog (store : Store) (pickTaskId : ℕ) (soLineId : Option ℕ)
    (quantityAvailable : ℤ) :
    (shortLines store pickTaskId soLineId quantityAvailable).catalog =
      store.catalog := by
  unfold shortLines
  split
  · exact bumpPicked_catalog _ _ _
  · exact shortBreakdown_catalog _ _ _

variable {store after : Store}

theorem shortPick_spec {pickTaskId : ℕ} {quantityAvailable : ℤ}
    (hshort : shortPick store pickTaskId quantityAvailable = .ok after) :
    ∃ task, store.pendingTask pickTaskId = .ok task ∧
      quantityAvailable ≤ task.quantityToPick ∧
      after = shortLines
        (Store.consume
          { store with
            pickTasks := store.pickTasks.modify pickTaskId fun task =>
              { task with status := .short, quantityPicked := quantityAvailable } }
          task quantityAvailable)
        pickTaskId task.target.soLineId quantityAvailable := by
  obtain ⟨task, htask, hrest⟩ := bind_eq_ok.mp hshort
  refine ⟨task, htask, ?_⟩
  split at hrest
  next hover => cases hrest
  next hover =>
    cases hrest
    exact ⟨Int.le_of_not_gt hover, rfl⟩

theorem shortPick_catalog {pickTaskId : ℕ} {quantityAvailable : ℤ}
    (hshort : shortPick store pickTaskId quantityAvailable = .ok after) :
    after.catalog = store.catalog := by
  obtain ⟨task, -, -, rfl⟩ := shortPick_spec hshort
  rw [shortLines_catalog]
  rfl

/-! ## Cancelling -/

theorem revertTask_catalog (warehouseId : ℕ) (store : Store)
    (entry : ℕ × PickTask) :
    (revertTask warehouseId store entry).catalog = store.catalog := by
  have hline : ∀ (store : Store) (task : PickTask),
      (revertLine store task).catalog = store.catalog := by
    intro store task
    unfold revertLine
    split
    · rfl
    · split <;> rfl
  have hrelease : ∀ (store : Store) (task : PickTask),
      (releaseBin store task).catalog = store.catalog := by
    intro store task
    unfold releaseBin
    split <;> rfl
  have hrestore : ∀ (store : Store) (task : PickTask),
      (restoreBin store warehouseId task).catalog = store.catalog := by
    intro store task
    unfold restoreBin
    split
    · exact addInventory_catalog _ _ _ _ _ _
    · rfl
  unfold revertTask
  split
  · rfl
  split
  · exact (hline _ _).trans (hrelease _ _)
  · exact (hline _ _).trans (hrestore _ _)
  · exact (hline _ _).trans (hrestore _ _)
  · rfl
  · rfl

variable {batchId : ℕ}

theorem fullRevertBatch_catalog {result : RevertResult}
    (hrevert : fullRevertBatch store batchId = .ok (after, result)) :
    after.catalog = store.catalog := by
  unfold fullRevertBatch at hrevert
  split at hrevert
  next => cases hrevert
  next batch hbatch =>
    split at hrevert
    next =>
      cases hrevert
      rfl
    next =>
      cases hrevert
      exact foldl_keeps Store.catalog (revertTask_catalog _) _ store

variable {username : String} {warehouseId : ℕ}

theorem cancelPriorUserBatches_catalog {cancelled : List ℕ}
    (hcancel : cancelPriorUserBatches store username warehouseId = .ok (after, cancelled)) :
    after.catalog = store.catalog := by
  unfold cancelPriorUserBatches at hcancel
  generalize store.pickBatches.select _ = prior at hcancel
  suffices hall : ∀ (start : Store × List ℕ), start.1.catalog = store.catalog →
      prior.foldlM (fun (state : Store × List ℕ) entry =>
        fullRevertBatch state.1 entry.1 >>= fun reverted =>
          .ok (reverted.1, state.2 ++ [entry.1])) start = .ok (after, cancelled) →
      after.catalog = store.catalog from hall _ rfl hcancel
  clear hcancel
  induction prior with
  | nil =>
      intro start hstart hfold
      cases hfold
      exact hstart
  | cons entry prior ih =>
      intro start hstart hfold
      rw [List.foldlM_cons] at hfold
      obtain ⟨middle, hmiddle, hrest⟩ := bind_eq_ok.mp hfold
      obtain ⟨⟨reverted, result⟩, hrevert, hok⟩ := bind_eq_ok.mp hmiddle
      cases hok
      exact ih _ ((fullRevertBatch_catalog hrevert).trans hstart) hrest

/-! ## Creating -/

theorem normalizeLine_catalog (warehouseId : ℕ) (store : Store)
    (entry : ℕ × SalesOrderLine) :
    (normalizeLine warehouseId store entry).catalog = store.catalog := rfl

theorem normalizeSoReservations_catalog (warehouseId : ℕ) (store : Store)
    (soId : ℕ) :
    (normalizeSoReservations warehouseId store soId).catalog = store.catalog :=
  foldl_keeps Store.catalog (normalizeLine_catalog warehouseId) _ store

variable {salesOrders : List (ℕ × SalesOrder)}

theorem prepareCoverage_spec {prepared : Prepared}
    (hprepare : prepareCoverage store salesOrders warehouseId = .ok prepared) :
    prepared.store = (salesOrders.map Prod.fst).foldl
        (normalizeSoReservations warehouseId) store ∧
      prepared.salesOrders = salesOrders ∧
      prepared.coverage = coverageMap prepared.store salesOrders ∧
      planCoverage prepared.store prepared.coverage warehouseId =
        ([], prepared.locked) := by
  unfold prepareCoverage at hprepare
  dsimp only at hprepare
  split at hprepare
  next locked hplan =>
    cases hprepare
    exact ⟨rfl, rfl, rfl, hplan⟩
  next => cases hprepare

theorem prepareCoverage_catalog {prepared : Prepared}
    (hprepare : prepareCoverage store salesOrders warehouseId = .ok prepared) :
    prepared.store.catalog = store.catalog := by
  rw [(prepareCoverage_spec hprepare).1]
  exact foldl_keeps Store.catalog (normalizeSoReservations_catalog warehouseId) _
    store

theorem insertBatchOrders_catalog {index : ℕ}
    (hinsert : insertBatchOrders batchId store index salesOrders = .ok after) :
    after.catalog = store.catalog := by
  induction salesOrders generalizing store index with
  | nil =>
      cases hinsert
      rfl
  | cons order rest ih =>
      rw [insertBatchOrders] at hinsert
      split at hinsert
      · cases hinsert
      · exact (ih hinsert).trans rfl

theorem allocateTake_catalog (batchId soId : ℕ) (toteNumber : String)
    (line : ℕ × SalesOrderLine) (store : Store) (draw : (ℕ × Candidate) × ℤ) :
    (allocateTake batchId soId toteNumber line store draw).catalog =
      store.catalog := rfl

theorem allocateLine_catalog (batchId soId : ℕ) (toteNumber : String)
    (warehouseId : ℕ) (store : Store) (line : ℕ × SalesOrderLine) :
    (allocateLine batchId soId toteNumber warehouseId store line).catalog =
      store.catalog :=
  foldl_keeps Store.catalog (allocateTake_catalog batchId soId toteNumber line) _
    store

theorem allocateOrders_catalog (batchId warehouseId : ℕ)
    (salesOrders : List (ℕ × SalesOrder)) (store : Store) (index : ℕ) :
    (allocateOrders batchId warehouseId store index salesOrders).catalog =
      store.catalog := by
  induction salesOrders generalizing store index with
  | nil => rfl
  | cons order rest ih =>
      rw [allocateOrders, ih]
      exact foldl_keeps Store.catalog (allocateLine_catalog _ _ _ _) _ store

theorem allocatePart_catalog (pickTaskId : ℕ) (store : Store)
    (part : Contribution × ℤ) :
    (allocatePart pickTaskId store part).catalog = store.catalog := by
  unfold allocatePart
  split <;> rfl

theorem allocateWaveTake_catalog (batchId itemId : ℕ) (first : Contribution)
    (state : Store × List Contribution) (draw : (ℕ × Candidate) × ℤ) :
    (allocateWaveTake batchId itemId first state draw).1.catalog =
      state.1.catalog :=
  (foldl_keeps Store.catalog (allocatePart_catalog state.1.pickTasks.next) _ _).trans
    rfl

theorem allocateItem_catalog (batchId : ℕ) (locked : LockedRows) (store : Store)
    (entry : ℕ × List Contribution) :
    (allocateItem batchId locked store entry).catalog = store.catalog := by
  unfold allocateItem
  split
  · rfl
  · exact foldl_keeps (fun state : Store × List Contribution => state.1.catalog)
      (allocateWaveTake_catalog batchId entry.1 _) _ (store, _)

theorem createPickBatch_catalog {soIdentifiers : List String} {excludeSoIds : List ℕ}
    (hcreate : createPickBatch store soIdentifiers warehouseId username excludeSoIds = .ok (after, batchId)) :
    after.catalog = store.catalog := by
  obtain ⟨prepared, hprepare, hallocate⟩ := bind_eq_ok.mp hcreate
  obtain ⟨⟨swept, cancelled⟩, hsweep, hprepare⟩ := bind_eq_ok.mp hprepare
  obtain ⟨resolved, -, hprepare⟩ := bind_eq_ok.mp hprepare
  obtain ⟨inserted, hinsert, hallocate⟩ := bind_eq_ok.mp hallocate
  split at hprepare
  · cases hprepare
  · cases hallocate
    calc
      _ = inserted.catalog := allocateOrders_catalog _ _ _ inserted _
      _ = prepared.store.catalog := (insertBatchOrders_catalog hinsert).trans rfl
      _ = swept.catalog := prepareCoverage_catalog hprepare
      _ = store.catalog := cancelPriorUserBatches_catalog hsweep

theorem waveCreate_catalog {soIds : List ℕ} {excludeSoIds : List ℕ}
    (hcreate : waveCreate store soIds warehouseId username excludeSoIds = .ok (after, batchId)) :
    after.catalog = store.catalog := by
  obtain ⟨prepared, hprepare, hallocate⟩ := bind_eq_ok.mp hcreate
  obtain ⟨inserted, hinsert, hallocate⟩ := bind_eq_ok.mp hallocate
  unfold prepareWave at hprepare
  split at hprepare
  · cases hprepare
  split at hprepare
  · cases hprepare
  obtain ⟨⟨swept, cancelled⟩, hsweep, hprepare⟩ := bind_eq_ok.mp hprepare
  obtain ⟨salesOrders, -, hprepare⟩ := bind_eq_ok.mp hprepare
  obtain ⟨covered, hcovered, hprepare⟩ := bind_eq_ok.mp hprepare
  split at hprepare
  · cases hprepare
  · cases hprepare
    cases hallocate
    calc
      _ = inserted.catalog :=
        foldl_keeps Store.catalog (allocateItem_catalog _ _) _ inserted
      _ = prepared.store.catalog := (insertBatchOrders_catalog hinsert).trans rfl
      _ = swept.catalog := prepareCoverage_catalog hcovered
      _ = store.catalog := cancelPriorUserBatches_catalog hsweep

end SentryWms
