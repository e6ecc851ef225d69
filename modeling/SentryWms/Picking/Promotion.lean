import SentryWms.Picking.Frame

/-!
# Promotion to PICKED

An order becomes PICKED when its batch is completed or when an admin pick fills
its last line, and each promotion is announced by one `pick.confirmed`. Completing
a batch does not look at the status of the orders it lists: the announcement
matches the transition only while the batch is completed over orders that are
still OPEN, or by a repeated request over orders it already promoted.
-/

namespace SentryWms

open Relational Transition

/-! ## Observations -/

/-- How often an order has been announced as picked. -/
def Store.announcements (store : Store) (soId : ℕ) : ℕ :=
  store.pickConfirmed.entries.countP fun entry => entry.2.soId == soId

def promotions (before after : Store) : List ℕ :=
  (before.salesOrders.entries.filter fun entry =>
      entry.2.status == .open &&
        (after.salesOrders.get? entry.1).any fun order => order.status == .picked).map
    Prod.fst

structure StatusChange where
  soId : ℕ
  before : SoStatus
  after : SoStatus

def statusChanges (before after : Store) : List StatusChange :=
  before.salesOrders.entries.filterMap fun entry =>
    (after.salesOrders.get? entry.1).bind fun order =>
      if order.status = entry.2.status then none
      else some ⟨entry.1, entry.2.status, order.status⟩

/-! ## The system -/

/-- An accepted call. `elsewhere` stands for every call of another service: it
may change anything, but neither promotes an order nor announces one. -/
inductive PickCall where
  | createPickBatch (soIdentifiers : List String) (warehouseId : ℕ)
      (username : String) (excludeSoIds : List ℕ)
  | waveCreate (soIds : List ℕ) (warehouseId : ℕ) (username : String)
      (excludeSoIds : List ℕ)
  | confirmPick (pickTaskId : ℕ) (scannedBarcode : String) (quantityPicked : ℤ)
  | shortPick (pickTaskId : ℕ) (quantityAvailable : ℤ)
  | fullRevertBatch (batchId : ℕ)
  | completeBatch (batchId : ℕ) (username : String) (sourceTxnId : ℕ)
  | promote (soId : ℕ) (username : String) (sourceTxnId : ℕ)
  | elsewhere (next : Store)

def applyCall (store : Store) : PickCall → Option Store
  | .createPickBatch soIdentifiers warehouseId username excludeSoIds =>
      ((createPickBatch store soIdentifiers warehouseId username
        excludeSoIds).toOption).map Prod.fst
  | .waveCreate soIds warehouseId username excludeSoIds =>
      ((waveCreate store soIds warehouseId username excludeSoIds).toOption).map
        Prod.fst
  | .confirmPick pickTaskId scannedBarcode quantityPicked =>
      (confirmPick store pickTaskId scannedBarcode quantityPicked).toOption
  | .shortPick pickTaskId quantityAvailable =>
      (shortPick store pickTaskId quantityAvailable).toOption
  | .fullRevertBatch batchId =>
      ((fullRevertBatch store batchId).toOption).map Prod.fst
  | .completeBatch batchId username sourceTxnId =>
      (completeBatch store batchId username (some sourceTxnId)).toOption
  | .promote soId username sourceTxnId =>
      some (maybePromoteSoToPicked store soId username (some sourceTxnId)).1
  | .elsewhere next =>
      if promotions store next = [] ∧
          next.pickConfirmed.entries = store.pickConfirmed.entries then some next
      else none

/-- A store with what happened on the way: the promotions of all calls, and the
status changes made by `complete_batch`. -/
structure PickHistory where
  store : Store
  promoted : List ℕ := []
  completions : List StatusChange := []

def PickHistory.step (history : PickHistory) (call : PickCall) : Option PickHistory :=
  (applyCall history.store call).map fun next =>
    { store := next
      promoted := history.promoted ++ promotions history.store next
      completions :=
        match call with
        | .completeBatch _ _ _ =>
            history.completions ++ statusChanges history.store next
        | _ => history.completions }

/-- The order may be completed by this request: it is OPEN and the request has
not announced it, or the request is a repetition that promoted it before. -/
def Store.completable (store : Store) (sourceTxnId : ℕ) (order : ℕ × SalesOrder) :
    Prop :=
  (order.2.status = .open ∧ store.confirmed order.1 sourceTxnId = false) ∨
    (order.2.status = .picked ∧ store.confirmed order.1 sourceTxnId = true)

instance (store : Store) (sourceTxnId : ℕ) (order : ℕ × SalesOrder) :
    Decidable (store.completable sourceTxnId order) := by
  unfold Store.completable
  infer_instance

def CompletesOpen (history : PickHistory) : PickCall → Prop
  | .completeBatch batchId _ sourceTxnId =>
      ∀ order ∈ history.store.batchSalesOrders batchId,
        history.store.completable sourceTxnId order
  | .promote soId _ sourceTxnId => history.store.confirmed soId sourceTxnId = false
  | _ => True

instance (history : PickHistory) (call : PickCall) :
    Decidable (CompletesOpen history call) := by
  cases call <;> unfold CompletesOpen <;> infer_instance

/-! ## Promoting a list of orders -/

variable {after : Store}

theorem mem_promotions {before : Store} {soId : ℕ} :
    soId ∈ promotions before after ↔
      ∃ order, before.salesOrders.get? soId = some order ∧ order.status = .open ∧
        ∃ next, after.salesOrders.get? soId = some next ∧ next.status = .picked := by
  simp only [promotions, List.mem_map, List.mem_filter, Bool.and_eq_true,
    beq_iff_eq, Option.any_eq_true, Table.get?_eq_some]
  constructor
  · rintro ⟨entry, ⟨hentry, hopen, next, hnext, hpicked⟩, rfl⟩
    exact ⟨entry.2, hentry, hopen, next, hnext, hpicked⟩
  · rintro ⟨order, horder, hopen, next, hnext, hpicked⟩
    exact ⟨(soId, order), ⟨horder, hopen, next, hnext, hpicked⟩, rfl⟩

theorem count_promotions (before after : Store) (soId : ℕ) :
    (promotions before after).count soId =
      if soId ∈ promotions before after then 1 else 0 := by
  have hnodup : (promotions before after).Nodup :=
    before.salesOrders.nodup_keys.sublist (List.filter_sublist.map _)
  split
  next hmem => exact List.count_eq_one_of_mem hnodup hmem
  next hmem => exact List.count_eq_zero_of_not_mem hmem

/-- Announcing an order once more unless the request already did. -/
theorem emitPickConfirmed_announcements (store : Store)
    (soId warehouseId sourceTxnId : ℕ) (username : String) (soId' : ℕ) :
    (emitPickConfirmed store soId warehouseId sourceTxnId username).announcements
        soId' =
      store.announcements soId' +
        if soId' = soId ∧ store.confirmed soId sourceTxnId = false then 1 else 0 := by
  unfold emitPickConfirmed
  by_cases hconfirmed : store.confirmed soId sourceTxnId = true
  · simp [hconfirmed]
  · rw [if_neg hconfirmed]
    simp only [Store.announcements, Table.insert, List.countP_append,
      Bool.not_eq_true] at hconfirmed ⊢
    by_cases hsame : soId' = soId
    · simp [hsame, hconfirmed]
    · simp [hsame, Ne.symm hsame]

theorem emitPickConfirmed_confirmed (store : Store)
    (soId warehouseId sourceTxnId : ℕ) (username : String) (soId' : ℕ) :
    (emitPickConfirmed store soId warehouseId sourceTxnId username).confirmed soId'
        sourceTxnId =
      (store.confirmed soId' sourceTxnId || soId' == soId) := by
  unfold emitPickConfirmed
  by_cases hconfirmed : store.confirmed soId sourceTxnId = true
  · rw [if_pos hconfirmed]
    by_cases hsame : soId' = soId
    · simp [hsame, hconfirmed]
    · simp [hsame]
  · rw [if_neg hconfirmed]
    by_cases hsame : soId' = soId
    · simp [Store.confirmed, Table.insert, hsame]
    · have hother : (soId == soId') = false := beq_false_of_ne (Ne.symm hsame)
      have hother' : (soId' == soId) = false := beq_false_of_ne hsame
      simp [Store.confirmed, Table.insert, hother, hother']

theorem emitPickConfirmed_salesOrders (store : Store)
    (soId warehouseId sourceTxnId : ℕ) (username : String) :
    (emitPickConfirmed store soId warehouseId sourceTxnId username).salesOrders =
      store.salesOrders := by
  unfold emitPickConfirmed
  split <;> rfl

theorem completeOrders_salesOrders (sourceTxnId : ℕ) (username : String)
    (orders : List (ℕ × SalesOrder)) (store : Store) :
    (orders.foldl (completeOrder (some sourceTxnId) username) store).salesOrders =
      store.salesOrders.mapRows fun soId order =>
        if soId ∈ orders.map Prod.fst then { order with status := .picked }
        else order := by
  induction orders generalizing store with
  | nil => simp [Table.mapRows_id]
  | cons entry orders ih =>
      have hhead : (completeOrder (some sourceTxnId) username store entry).salesOrders =
          (store.setOrderStatus entry.1 .picked).salesOrders :=
        emitPickConfirmed_salesOrders _ _ _ _ _
      rw [List.foldl_cons, ih, hhead]
      unfold Store.setOrderStatus Table.modify
      dsimp only
      rw [Table.mapRows_mapRows]
      apply Table.mapRows_congr
      intro soId order _
      by_cases hsame : soId = entry.1 <;> by_cases hrest : soId ∈ orders.map Prod.fst
      all_goals simp [hsame, hrest]

theorem completeOrders_announcements (sourceTxnId : ℕ) (username : String)
    (orders : List (ℕ × SalesOrder)) (store : Store) (soId : ℕ) :
    (orders.foldl (completeOrder (some sourceTxnId) username) store).announcements
        soId =
      store.announcements soId +
        if soId ∈ orders.map Prod.fst ∧ store.confirmed soId sourceTxnId = false
        then 1 else 0 := by
  induction orders generalizing store with
  | nil => simp
  | cons entry orders ih =>
      have hannounced : (completeOrder (some sourceTxnId) username store
          entry).announcements soId = store.announcements soId +
            if soId = entry.1 ∧ store.confirmed entry.1 sourceTxnId = false
            then 1 else 0 :=
        emitPickConfirmed_announcements _ _ _ _ _ _
      have hconfirmed : (completeOrder (some sourceTxnId) username store
          entry).confirmed soId sourceTxnId =
            (store.confirmed soId sourceTxnId || soId == entry.1) :=
        emitPickConfirmed_confirmed _ _ _ _ _ _
      rw [List.foldl_cons, ih, hannounced, hconfirmed]
      by_cases hsame : soId = entry.1
      · subst hsame
        simp
      · have hother : (soId == entry.1) = false := beq_false_of_ne hsame
        have hhead : ¬ (soId = entry.1 ∧ store.confirmed entry.1 sourceTxnId = false) :=
          fun hboth => hsame hboth.1
        rw [if_neg hhead, Nat.add_zero, hother, Bool.or_false, List.map_cons]
        exact congrArg _ (if_congr (by simp [hsame]) rfl rfl)

/-! ## Calls that promote nothing -/

theorem promotions_of_salesOrders_eq {before : Store}
    (hsame : after.salesOrders = before.salesOrders) : promotions before after = [] := by
  rw [List.eq_nil_iff_forall_not_mem]
  intro soId hmem
  obtain ⟨order, horder, hopen, next, hnext, hpicked⟩ := mem_promotions.mp hmem
  rw [hsame, horder] at hnext
  obtain rfl := Option.some.inj hnext
  rw [hopen] at hpicked
  cases hpicked

variable {store : Store}

theorem updateTransferOrderLinePicked_keeps {toLineId : Option ℕ} {delta : ℤ}
    {line : TransferOrderLine}
    (hpick : updateTransferOrderLinePicked store toLineId delta = .ok (after, line)) :
    after.salesOrders = store.salesOrders ∧
      after.pickConfirmed = store.pickConfirmed := by
  unfold updateTransferOrderLinePicked at hpick
  split at hpick
  · cases hpick
  split at hpick
  · cases hpick
  split at hpick
  · cases hpick
  split at hpick
  · cases hpick
    exact ⟨rfl, rfl⟩
  · cases hpick

theorem confirmPick_keeps {pickTaskId : ℕ} {scannedBarcode : String} {quantityPicked : ℤ}
    (hconfirm : confirmPick store pickTaskId scannedBarcode quantityPicked = .ok after) :
    after.salesOrders = store.salesOrders ∧
      after.pickConfirmed = store.pickConfirmed := by
  obtain ⟨task, -, hconfirm⟩ := bind_eq_ok.mp hconfirm
  split at hconfirm
  · cases hconfirm
  split at hconfirm
  · cases hconfirm
  split at hconfirm
  · cases hconfirm
  dsimp only at hconfirm
  split at hconfirm
  · obtain ⟨⟨picked, line⟩, hpick, hconfirm⟩ := bind_eq_ok.mp hconfirm
    cases hconfirm
    exact (updateTransferOrderLinePicked_keeps hpick).imp
      (Eq.trans · rfl) (Eq.trans · rfl)
  next soId soLineId htarget =>
    cases hconfirm
    have hkeep := confirmLines_catalog
      { store with
        pickTasks := store.pickTasks.modify pickTaskId fun task =>
          { task with status := .picked, quantityPicked } }
      pickTaskId soLineId quantityPicked
    exact ⟨congrArg Catalog.salesOrders hkeep, congrArg Catalog.pickConfirmed hkeep⟩

variable {username : String}

theorem submitPicks_keeps {toId : ℕ} {submitted : Submitted}
    (hsubmit : submitPicks store toId username = .ok (after, submitted)) :
    after.salesOrders = store.salesOrders ∧
      after.pickConfirmed = store.pickConfirmed := by
  unfold submitPicks at hsubmit
  split at hsubmit
  · cases hsubmit
  split at hsubmit
  · cases hsubmit
  split at hsubmit
  · cases hsubmit
  · cases hsubmit
    exact ⟨rfl, rfl⟩

theorem trySubmitPicks_keeps (username : String) (store : Store) (toId : ℕ) :
    ((trySubmitPicks username store toId).salesOrders,
      (trySubmitPicks username store toId).pickConfirmed) =
      (store.salesOrders, store.pickConfirmed) := by
  unfold trySubmitPicks
  split
  · rfl
  next submitted result hsubmit =>
    obtain ⟨horders, hconfirmed⟩ := submitPicks_keeps hsubmit
    rw [horders, hconfirmed]

/-! ## Completing a batch -/

variable {batchId sourceTxnId : ℕ}

/-- What an accepted `complete_batch` does to the orders and the outbox. -/
theorem completeBatch_spec
    (hcomplete : completeBatch store batchId username (some sourceTxnId) = .ok after) :
    (after.salesOrders = store.salesOrders.mapRows fun soId order =>
      if soId ∈ (store.batchSalesOrders batchId).map Prod.fst then
        { order with status := .picked }
      else order) ∧
    ∀ soId, after.announcements soId = store.announcements soId +
      if soId ∈ (store.batchSalesOrders batchId).map Prod.fst ∧
        store.confirmed soId sourceTxnId = false then 1 else 0 := by
  unfold completeBatch at hcomplete
  split at hcomplete
  · cases hcomplete
  dsimp only at hcomplete
  split at hcomplete
  · cases hcomplete
  split at hcomplete
  · cases hcomplete
  · cases hcomplete
    generalize hpicked : List.foldl (completeOrder (some sourceTxnId) username)
      (store.setBatchStatus batchId .completed)
      ((store.setBatchStatus batchId .completed).batchSalesOrders batchId) = picked
    have hkeep := foldl_keeps
      (fun state : Store => (state.salesOrders, state.pickConfirmed))
      (trySubmitPicks_keeps username) (picked.batchTransferOrders batchId) picked
    obtain ⟨horders, hconfirmed⟩ := Prod.mk.inj hkeep
    constructor
    · rw [horders, ← hpicked]
      exact completeOrders_salesOrders _ _ _ _
    · intro soId
      unfold Store.announcements
      rw [hconfirmed, ← hpicked]
      exact completeOrders_announcements _ _ _ _ _

theorem mem_batchSalesOrders {soId : ℕ} {order : SalesOrder}
    (hmem : (soId, order) ∈ store.batchSalesOrders batchId) :
    store.salesOrders.get? soId = some order := by
  obtain ⟨row, -, hrow⟩ := List.mem_filterMap.mp hmem
  obtain ⟨order', hget, hpair⟩ := Option.map_eq_some_iff.mp hrow
  obtain ⟨rfl, rfl⟩ := Prod.mk.inj hpair
  exact hget

theorem completeBatch_announces
    (hcomplete : completeBatch store batchId username (some sourceTxnId) = .ok after)
    (hready : ∀ order ∈ store.batchSalesOrders batchId, store.completable sourceTxnId order)
    (soId : ℕ) :
    after.announcements soId =
      store.announcements soId + (promotions store after).count soId := by
  obtain ⟨horders, hannounced⟩ := completeBatch_spec hcomplete
  rw [hannounced, count_promotions]
  apply congrArg
  apply if_congr _ rfl rfl
  rw [mem_promotions, horders]
  constructor
  · rintro ⟨hlisted, hnew⟩
    obtain ⟨⟨soId', order⟩, hmem, rfl⟩ := List.mem_map.mp hlisted
    have hget := mem_batchSalesOrders hmem
    rcases hready _ hmem with ⟨hopen, -⟩ | ⟨-, hdone⟩
    · refine ⟨order, hget, hopen, { order with status := .picked }, ?_, rfl⟩
      rw [Table.get?_mapRows, hget, Option.map_some, if_pos hlisted]
    · rw [hdone] at hnew
      cases hnew
  · rintro ⟨order, hget, hopen, next, hnext, hpicked⟩
    rw [Table.get?_mapRows, hget, Option.map_some, Option.some.injEq] at hnext
    by_cases hlisted : soId ∈ (store.batchSalesOrders batchId).map Prod.fst
    · refine ⟨hlisted, ?_⟩
      obtain ⟨⟨soId', order'⟩, hmem, rfl⟩ := List.mem_map.mp hlisted
      have hsame := mem_batchSalesOrders hmem
      rw [hget] at hsame
      obtain rfl := Option.some.inj hsame
      rcases hready _ hmem with ⟨-, hnew⟩ | ⟨hdone, -⟩
      · exact hnew
      · rw [hopen] at hdone
        cases hdone
    · rw [if_neg hlisted] at hnext
      rw [← hnext, hopen] at hpicked
      cases hpicked

theorem completeBatch_statusChanges
    (hcomplete : completeBatch store batchId username (some sourceTxnId) = .ok after)
    (hready : ∀ order ∈ store.batchSalesOrders batchId, store.completable sourceTxnId order) :
    ∀ change ∈ statusChanges store after,
      change.before = .open ∧ change.after = .picked := by
  obtain ⟨horders, -⟩ := completeBatch_spec hcomplete
  intro change hchange
  obtain ⟨⟨soId, order⟩, hmem, hsome⟩ := List.mem_filterMap.mp hchange
  obtain ⟨next, hnext, hchanged⟩ := Option.bind_eq_some_iff.mp hsome
  have hget := (Table.get?_eq_some _).mpr hmem
  rw [horders, Table.get?_mapRows, hget, Option.map_some, Option.some.injEq] at hnext
  split at hchanged
  · cases hchanged
  next hdiffers =>
    cases hchanged
    by_cases hlisted : soId ∈ (store.batchSalesOrders batchId).map Prod.fst
    · rw [if_pos hlisted] at hnext
      obtain ⟨⟨soId', order'⟩, hmem', rfl⟩ := List.mem_map.mp hlisted
      have hsame := mem_batchSalesOrders hmem'
      rw [hget] at hsame
      obtain rfl := Option.some.inj hsame
      rw [← hnext] at hdiffers ⊢
      rcases hready _ hmem' with ⟨hopen, -⟩ | ⟨hdone, -⟩
      · exact ⟨hopen, rfl⟩
      · exact absurd hdone.symm hdiffers
    · rw [if_neg hlisted] at hnext
      exact absurd (congrArg SalesOrder.status hnext).symm hdiffers

theorem maybePromoteSoToPicked_announces (store : Store) (soId : ℕ)
    (username : String) (sourceTxnId : ℕ)
    (hnew : store.confirmed soId sourceTxnId = false) (soId' : ℕ) :
    (maybePromoteSoToPicked store soId username
        (some sourceTxnId)).1.announcements soId' =
      store.announcements soId' + (promotions store (maybePromoteSoToPicked store
        soId username (some sourceTxnId)).1).count soId' := by
  have hunchanged : store.announcements soId' = store.announcements soId' +
      (promotions store store).count soId' := by
    rw [promotions_of_salesOrders_eq rfl]
    rfl
  unfold maybePromoteSoToPicked
  dsimp only
  split
  · exact hunchanged
  split
  · exact hunchanged
  next order hget =>
    split
    · exact hunchanged
    next hstatus =>
      have hopen : order.status = .open := not_not.mp hstatus
      have horders := completeOrders_salesOrders sourceTxnId username
        [(soId, order)] store
      have hannounced := completeOrders_announcements sourceTxnId username
        [(soId, order)] store soId'
      rw [List.foldl_cons, List.foldl_nil] at horders hannounced
      rw [hannounced, count_promotions]
      apply congrArg
      apply if_congr _ rfl rfl
      rw [mem_promotions, horders]
      simp only [List.map_cons, List.map_nil, List.mem_singleton, Table.get?_mapRows]
      constructor
      · rintro ⟨rfl, -⟩
        exact ⟨order, hget, hopen, { order with status := .picked }, by simp [hget],
          rfl⟩
      · rintro ⟨order', hget', hopen', next, hnext, hpicked⟩
        by_cases hsame : soId' = soId
        · subst hsame
          exact ⟨rfl, hnew⟩
        · rw [hget', Option.map_some, if_neg hsame, Option.some.injEq] at hnext
          rw [← hnext, hopen'] at hpicked
          cases hpicked

/-! ## Runs -/

/-- Every promotion has been announced once, nothing else has, and completing a
batch has only promoted OPEN orders. -/
structure PickHistory.Faithful (first : Store) (history : PickHistory) : Prop where
  announced : ∀ soId, history.store.announcements soId =
    first.announcements soId + history.promoted.count soId
  forward : ∀ change ∈ history.completions,
    change.before = .open ∧ change.after = .picked

theorem applyCall_announces {history : PickHistory} {call : PickCall}
    {next : Store} (hallowed : CompletesOpen history call)
    (hcall : applyCall history.store call = some next) (soId : ℕ) :
    next.announcements soId = history.store.announcements soId +
      (promotions history.store next).count soId := by
  have hkeeps : next.salesOrders = history.store.salesOrders →
      next.pickConfirmed.entries = history.store.pickConfirmed.entries →
      next.announcements soId = history.store.announcements soId +
        (promotions history.store next).count soId := by
    intro horders hconfirmed
    rw [promotions_of_salesOrders_eq horders]
    simp only [Store.announcements, hconfirmed, List.count_nil, Nat.add_zero]
  have hcatalog : next.catalog = history.store.catalog →
      next.announcements soId = history.store.announcements soId +
        (promotions history.store next).count soId := fun hsame =>
    hkeeps (congrArg Catalog.salesOrders hsame)
      (congrArg (fun catalog => catalog.pickConfirmed.entries) hsame)
  cases call with
  | createPickBatch soIdentifiers warehouseId username excludeSoIds =>
      obtain ⟨⟨after, batchId⟩, hcreate, rfl⟩ := Option.map_eq_some_iff.mp hcall
      exact hcatalog (createPickBatch_catalog (toOption_eq_some.mp hcreate))
  | waveCreate soIds warehouseId username excludeSoIds =>
      obtain ⟨⟨after, batchId⟩, hcreate, rfl⟩ := Option.map_eq_some_iff.mp hcall
      exact hcatalog (waveCreate_catalog (toOption_eq_some.mp hcreate))
  | confirmPick pickTaskId scannedBarcode quantityPicked =>
      obtain ⟨horders, hconfirmed⟩ :=
        confirmPick_keeps (toOption_eq_some.mp hcall)
      exact hkeeps horders (congrArg Table.entries hconfirmed)
  | shortPick pickTaskId quantityAvailable =>
      exact hcatalog (shortPick_catalog (toOption_eq_some.mp hcall))
  | fullRevertBatch batchId =>
      obtain ⟨⟨after, result⟩, hrevert, rfl⟩ := Option.map_eq_some_iff.mp hcall
      exact hcatalog (fullRevertBatch_catalog (toOption_eq_some.mp hrevert))
  | completeBatch batchId username sourceTxnId =>
      exact completeBatch_announces (toOption_eq_some.mp hcall) hallowed soId
  | promote soId' username sourceTxnId =>
      obtain rfl := Option.some.inj hcall
      exact maybePromoteSoToPicked_announces _ _ _ _ hallowed soId
  | elsewhere after =>
      simp only [applyCall] at hcall
      split at hcall
      next hquiet =>
        obtain rfl := Option.some.inj hcall
        rw [hquiet.1]
        simp only [Store.announcements, hquiet.2, List.count_nil, Nat.add_zero]
      next => cases hcall

theorem step_faithful {first : Store} {history next : PickHistory}
    {call : PickCall} (hfaithful : history.Faithful first)
    (hallowed : CompletesOpen history call) (hstep : history.step call = some next) :
    next.Faithful first := by
  obtain ⟨after, hcall, rfl⟩ := Option.map_eq_some_iff.mp hstep
  constructor
  · intro soId
    dsimp only
    rw [applyCall_announces hallowed hcall, hfaithful.announced, List.count_append,
      Nat.add_assoc]
  · cases call with
    | completeBatch batchId username sourceTxnId =>
        intro change hchange
        rcases List.mem_append.mp hchange with hold | hnew
        · exact hfaithful.forward change hold
        · exact completeBatch_statusChanges (toOption_eq_some.mp hcall)
            hallowed change hnew
    | _ => exact hfaithful.forward

/-- In every run that completes batches over completable orders, completing a
batch moves orders from OPEN to PICKED only, and each promotion is announced by
exactly one `pick.confirmed`. -/
theorem faithful_of_completesOpen {first : Store} {last : PickHistory}
    {calls : List PickCall}
    (hrun : Run PickHistory.step CompletesOpen { store := first } calls last) :
    last.Faithful first :=
  hrun.invariant _ (fun hfaithful hallowed hstep =>
      step_faithful hfaithful hallowed hstep)
    { announced := fun soId => rfl
      forward := fun change hchange => by cases hchange }

/-! ## Runs on a small warehouse -/

/-- One bin with five units, and an OPEN order for two of them. -/
def oneOrderStore : Store where
  items := .ofRows [{ sku := "A", upc := some "1", barcodeAliases := [] }]
  bins := .ofRows [{ warehouseId := 1, binCode := "P1", binType := .pickable, pickSequence := 1 }]
  inventory := .ofRows
    [{ itemId := 1, binId := 1, warehouseId := 1, quantityOnHand := 5,
       quantityAllocated := 0, lotNumber := none, updatedAt := 0 }]
  salesOrders := .ofRows
    [{ soNumber := "SO-1", soBarcode := none, status := .open, warehouseId := 1,
       orderType := .sale, parentSoId := none, cancellationReason := none }]
  salesOrderLines := .ofRows
    [{ soId := 1, itemId := 1, lineNumber := 1, quantityOrdered := 2,
       quantityAllocated := 0, quantityPicked := 0 }]

def repeatedRequest : List PickCall :=
  [.createPickBatch ["SO-1"] 1 "ann" [], .confirmPick 1 "1" 2,
    .completeBatch 1 "ann" 7, .completeBatch 1 "ann" 7]

/-- The history of those calls. -/
def repeatedHistory : PickHistory :=
  (execute PickHistory.step CompletesOpen { store := oneOrderStore }
    repeatedRequest).getD { store := oneOrderStore }

theorem faithful_repeatedHistory :
    repeatedHistory.promoted = [1] ∧ repeatedHistory.Faithful oneOrderStore := by
  have hrun : Run PickHistory.step CompletesOpen { store := oneOrderStore }
      repeatedRequest repeatedHistory := Run.ofExecute rfl
  exact ⟨rfl, faithful_of_completesOpen hrun⟩

def packedStore : Store := repeatedHistory.store.setOrderStatus 1 .packed

def completedAgain : List PickCall :=
  repeatedRequest ++ [.elsewhere packedStore, .completeBatch 1 "ann" 8]

/-- The history of those calls. -/
def completedAgainHistory : PickHistory :=
  (execute PickHistory.step (fun _ _ => True) { store := oneOrderStore }
    completedAgain).getD { store := oneOrderStore }

/-- Completing a batch again takes a packed order back to PICKED and announces it
a second time without a promotion. -/
theorem completeBatch_regresses :
    Run PickHistory.step (fun _ _ => True) { store := oneOrderStore }
        completedAgain completedAgainHistory ∧
      completedAgainHistory.completions =
        [⟨1, .open, .picked⟩, ⟨1, .packed, .picked⟩] ∧
      completedAgainHistory.store.announcements 1 = 2 ∧
      completedAgainHistory.promoted = [1] ∧
      ¬ completedAgainHistory.Faithful oneOrderStore := by
  have hcompletions : completedAgainHistory.completions =
      [⟨1, .open, .picked⟩, ⟨1, .packed, .picked⟩] := rfl
  refine ⟨Run.ofExecute rfl, hcompletions, rfl, rfl, ?_⟩
  intro hfaithful
  have hforward := hfaithful.forward ⟨1, .packed, .picked⟩ (by simp [hcompletions])
  cases hforward.1

end SentryWms
