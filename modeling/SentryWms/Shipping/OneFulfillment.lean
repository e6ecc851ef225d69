import SentryWms.SalesOrder.Revert

/-!
# One live fulfillment per order

Ships, voids and reverts write the header, the lines and the fulfillments of an
order. The three stay in step as long as no revert takes a SHIPPED order below
SHIPPED while it has a live fulfillment or shipped units: the revert clears the
header only.
-/

namespace SentryWms

open Relational Transition

/-! ## The calls -/

inductive ShipCall where
  | fulfill (warehouseIds : List ℕ) (soId : ℕ)
  | dockdShip (tokenWarehouseIds : List ℕ) (soNumber : String)
  | adminEditShip (soId : ℕ) (trackingNumber shipMethod : Option String)
      (shippedAtOverride : Option ℕ)
  | adminShip (soId : ℕ) (acknowledgeShortfall : Bool)
  | voidShip (tokenWarehouseIds : List ℕ) (soNumber : String)
  | revert (soId : ℕ) (newStatus : SoStatus) (releasePickTaskIds : List ℕ)

def applyShipCall (store : Store) : ShipCall → Option Store
  | .fulfill warehouseIds soId =>
      (fulfill store (fun warehouseId => warehouseIds.contains warehouseId)
        soId).toOption
  | .dockdShip tokenWarehouseIds soNumber =>
      (dockdShip store tokenWarehouseIds soNumber).toOption
  | .adminEditShip soId trackingNumber shipMethod shippedAtOverride =>
      (adminEditShip store soId trackingNumber shipMethod shippedAtOverride).toOption
  | .adminShip soId acknowledgeShortfall =>
      (recordAdminShip store soId acknowledgeShortfall).toOption
  | .voidShip tokenWarehouseIds soNumber =>
      (voidShip store tokenWarehouseIds soNumber).toOption
  | .revert soId newStatus releasePickTaskIds =>
      (revertSalesOrderStatus store soId newStatus releasePickTaskIds).toOption

def Store.nothingShipped (store : Store) (soId : ℕ) : Bool :=
  !store.hasFulfillment soId &&
    store.salesOrderLines.entries.all fun entry =>
      entry.2.soId != soId || entry.2.quantityShipped == 0

def Store.isShipped (store : Store) (soId : ℕ) : Bool :=
  (store.salesOrders.get? soId).any fun order => order.status == .shipped

/-- A revert takes a SHIPPED order below SHIPPED only when nothing of it is
shipped. -/
def Store.keepsShipments (store : Store) : ShipCall → Bool
  | .revert soId newStatus _ =>
      !store.isShipped soId || newStatus == .shipped || store.nothingShipped soId
  | _ => true

/-! ## The property -/

def SoStatus.belowShipped (status : SoStatus) : Bool :=
  (statusOrder status).any fun idx => decide (idx < 3)

/-- An order has one live fulfillment at most, and below SHIPPED it has none and
no shipped units. -/
structure OneFulfillment (store : Store) : Prop where
  single : ∀ left right, left ∈ store.itemFulfillments.entries →
    right ∈ store.itemFulfillments.entries → left.2.status ≠ .voided →
    right.2.status ≠ .voided → left.2.soId = right.2.soId → left = right
  below : ∀ soId order, (soId, order) ∈ store.salesOrders.entries →
    order.status.belowShipped = true → store.nothingShipped soId = true

section Steps

variable {store after : Store}

variable {soId : ℕ}

theorem hasFulfillment_eq_false :
    store.hasFulfillment soId = false ↔
      ∀ entry ∈ store.itemFulfillments.entries, entry.2.soId = soId →
        entry.2.status = .voided := by
  simp [Store.hasFulfillment]

theorem nothingShipped_iff :
    store.nothingShipped soId = true ↔
      (∀ entry ∈ store.itemFulfillments.entries, entry.2.soId = soId →
        entry.2.status = .voided) ∧
      ∀ entry ∈ store.salesOrderLines.entries, entry.2.soId = soId →
        entry.2.quantityShipped = 0 := by
  rw [Store.nothingShipped, Bool.and_eq_true, Bool.not_eq_true',
    hasFulfillment_eq_false]
  simp only [List.all_eq_true, Bool.or_eq_true, bne_iff_ne, beq_iff_eq,
    ← imp_iff_not_or]

/-! ## Ships -/

theorem writeShip_oneFulfillment (hone : OneFulfillment store)
    (hnone : store.hasFulfillment soId = false) (preShipStatus : Option SoStatus)
    (shippedAt headerShippedAt : ℕ) (cond : SalesOrderLine → Bool) :
    OneFulfillment
      (store.writeShip soId preShipStatus shippedAt headerShippedAt cond) where
  single := by
    have hlive := hasFulfillment_eq_false.mp hnone
    intro left right hleft hright hleftLive hrightLive hsame
    rcases (Table.mem_insert _).mp hleft with holdLeft | rfl
    · rcases (Table.mem_insert _).mp hright with holdRight | rfl
      · exact hone.single left right holdLeft holdRight hleftLive hrightLive hsame
      · exact absurd (hlive left holdLeft hsame) hleftLive
    · rcases (Table.mem_insert _).mp hright with holdRight | rfl
      · exact absurd (hlive right holdRight hsame.symm) hrightLive
      · rfl
  below := by
    intro soId' order' horder hbelow
    obtain ⟨order, hmem, rfl⟩ := (Table.mem_modify _).mp horder
    by_cases hkey : soId' = soId
    · rw [if_pos hkey] at hbelow
      cases hbelow
    · rw [if_neg hkey] at hbelow
      obtain ⟨hvoided, hlines⟩ := nothingShipped_iff.mp (hone.below soId' order hmem hbelow)
      refine nothingShipped_iff.mpr ⟨?_, ?_⟩
      · intro entry hentry hsoId
        rcases (Table.mem_insert _).mp hentry with hold | rfl
        · exact hvoided entry hold hsoId
        · exact absurd hsoId.symm hkey
      · intro entry hentry hsoId
        obtain ⟨line, hline, hrow⟩ := (Table.mem_mapRows _).mp hentry
        split at hrow
        next hcond =>
          rw [Bool.and_eq_true, beq_iff_eq] at hcond
          rw [← hrow] at hsoId
          exact absurd (hsoId.symm.trans hcond.1) hkey
        next =>
          rw [← hrow] at hsoId ⊢
          exact hlines (entry.1, line) hline hsoId

theorem recordShip_oneFulfillment (hone : OneFulfillment store) {order : SalesOrder}
    (horder : (soId, order) ∈ store.salesOrders.entries)
    (hstatus : order.status = .picked ∨ order.status = .packed)
    {preShipStatus : Option SoStatus} {shippedAtOverride : Option ℕ}
    (hship : recordShip store soId preShipStatus shippedAtOverride = .ok after) :
    OneFulfillment after := by
  have hbelow : order.status.belowShipped = true := by
    rcases hstatus with hstatus | hstatus
    · rw [hstatus]
      rfl
    · rw [hstatus]
      rfl
  have hnone : store.hasFulfillment soId = false :=
    hasFulfillment_eq_false.mpr (nothingShipped_iff.mp (hone.below soId order horder
      hbelow)).1
  rw [recordShip] at hship
  split at hship
  · cases hship
  dsimp only at hship
  split at hship
  · cases hship
  · cases hship
    exact writeShip_oneFulfillment hone hnone _ _ _ _

theorem fulfill_oneFulfillment (hone : OneFulfillment store) {inScope : ℕ → Bool}
    (hship : fulfill store inScope soId = .ok after) :
    OneFulfillment after := by
  rw [fulfill] at hship
  split at hship
  · cases hship
  next order horder =>
    rw [Table.get?_eq_some] at horder
    split at hship
    · cases hship
    split at hship
    · split at hship
      · cases hship
      next hpacked =>
        exact recordShip_oneFulfillment hone horder (.inr (not_not.mp hpacked)) hship
    · split at hship
      · cases hship
      next hready =>
        exact recordShip_oneFulfillment hone horder (by tauto) hship

variable {tokenWarehouseIds : List ℕ} {soNumber : String}

theorem orderByNumber_mem {entry : ℕ × SalesOrder}
    (hfind : store.orderByNumber tokenWarehouseIds soNumber = some entry) :
    entry ∈ store.salesOrders.entries :=
  List.mem_of_find?_eq_some hfind

theorem mem_allowedStatuses {status : SoStatus} (hmem : status ∈ allowedStatuses store) :
    status = .picked ∨ status = .packed := by
  rw [allowedStatuses] at hmem
  split at hmem
  · exact .inr (List.mem_singleton.mp hmem)
  · simpa using hmem

theorem dockdShip_oneFulfillment (hone : OneFulfillment store)
    (hship : dockdShip store tokenWarehouseIds soNumber = .ok after) :
    OneFulfillment after := by
  rw [dockdShip] at hship
  split at hship
  · cases hship
  next soId order hfind =>
    split at hship
    · cases hship
    split at hship
    · cases hship
    next hallowed =>
      rw [not_not, List.contains_iff_mem] at hallowed
      exact recordShip_oneFulfillment hone (orderByNumber_mem hfind)
        (mem_allowedStatuses hallowed) hship

theorem adminEditShip_oneFulfillment (hone : OneFulfillment store)
    {trackingNumber shipMethod : Option String} {shippedAtOverride : Option ℕ}
    (hship : adminEditShip store soId trackingNumber shipMethod shippedAtOverride = .ok after) : OneFulfillment after := by
  rw [adminEditShip] at hship
  split at hship
  · cases hship
  next order horder =>
    rw [Table.get?_eq_some] at horder
    split at hship
    · cases hship
      exact hone
    split at hship
    · cases hship
    next hstatus =>
      split at hship
      · cases hship
      · exact recordShip_oneFulfillment hone horder (by tauto) hship

theorem recordAdminShip_oneFulfillment (hone : OneFulfillment store)
    {acknowledgeShortfall : Bool}
    (hship : recordAdminShip store soId acknowledgeShortfall = .ok after) :
    OneFulfillment after := by
  rw [recordAdminShip] at hship
  split at hship
  · cases hship
  split at hship
  · cases hship
  split at hship
  · cases hship
  split at hship
  · cases hship
  next hnone =>
    split at hship
    · cases hship
    dsimp only at hship
    split at hship
    · cases hship
    split at hship
    · cases hship
    · cases hship
      exact writeShip_oneFulfillment hone (Bool.eq_false_iff.mpr hnone) _ _ _ _

/-! ## Voids -/

theorem lastShipped_mem {entry : ℕ × ItemFulfillment}
    (hlast : store.lastShipped soId = some entry) :
    entry ∈ store.itemFulfillments.entries ∧ entry.2.soId = soId ∧
      entry.2.status = .shipped := by
  have hmem := mem_orderBy.mp (List.mem_of_getLast? hlast)
  obtain ⟨hentry, hcond⟩ := (Table.mem_select _).mp hmem
  rw [Bool.and_eq_true, beq_iff_eq, beq_iff_eq] at hcond
  exact ⟨hentry, hcond⟩

theorem recordVoidShip_oneFulfillment (hone : OneFulfillment store) {fulfillmentId : ℕ}
    {fulfillment : ItemFulfillment}
    (hmem : (fulfillmentId, fulfillment) ∈ store.itemFulfillments.entries)
    (hsoId : fulfillment.soId = soId) (hlive : fulfillment.status ≠ .voided)
    {preShipStatus : Option SoStatus}
    (hvoid : recordVoidShip store soId fulfillmentId preShipStatus = .ok after) :
    OneFulfillment after := by
  cases preShipStatus with
  | none => cases hvoid
  | some status =>
  cases hvoid
  -- A live fulfillment after the void was live before, and is not the voided one.
  have hback : ∀ entry ∈ (store.itemFulfillments.modify fulfillmentId fun fulfillment =>
      { fulfillment with status := .voided }).entries, entry.2.status ≠ .voided →
      entry ∈ store.itemFulfillments.entries ∧ entry.1 ≠ fulfillmentId := by
    intro entry hentry hentryLive
    obtain ⟨before, hbefore, hrow⟩ := (Table.mem_modify _).mp hentry
    by_cases hkey : entry.1 = fulfillmentId
    · rw [if_pos hkey] at hrow
      rw [← hrow] at hentryLive
      exact absurd rfl hentryLive
    · rw [if_neg hkey] at hrow
      rw [hrow] at hbefore
      exact ⟨hbefore, hkey⟩
  constructor
  · intro left right hleft hright hleftLive hrightLive hsame
    exact hone.single left right (hback left hleft hleftLive).1
      (hback right hright hrightLive).1 hleftLive hrightLive hsame
  · intro soId' order' horder hbelow
    obtain ⟨order, horderMem, rfl⟩ := (Table.mem_modify _).mp horder
    rw [nothingShipped_iff]
    by_cases hkey : soId' = soId
    · subst hkey
      constructor
      · intro entry hentry hentrySo
        by_contra hentryLive
        obtain ⟨hentryMem, hne⟩ := hback entry hentry hentryLive
        have hsame := hone.single entry (fulfillmentId, fulfillment) hentryMem hmem
          hentryLive hlive (hentrySo.trans hsoId.symm)
        exact hne (congrArg Prod.fst hsame)
      · intro entry hentry hentrySo
        obtain ⟨line, -, hrow⟩ := (Table.mem_mapRows _).mp hentry
        split at hrow
        · rw [← hrow]
        next hother =>
          rw [beq_iff_eq, hrow] at hother
          exact absurd hentrySo hother
    · rw [if_neg hkey] at hbelow
      obtain ⟨hvoided, hlines⟩ :=
        nothingShipped_iff.mp (hone.below soId' order horderMem hbelow)
      constructor
      · intro entry hentry hentrySo
        by_contra hentryLive
        exact hentryLive (hvoided entry (hback entry hentry hentryLive).1 hentrySo)
      · intro entry hentry hentrySo
        obtain ⟨line, hline, hrow⟩ := (Table.mem_mapRows _).mp hentry
        split at hrow
        · rw [← hrow]
        · rw [← hrow] at hentrySo ⊢
          exact hlines (entry.1, line) hline hentrySo

theorem voidShip_oneFulfillment (hone : OneFulfillment store)
    (hvoid : voidShip store tokenWarehouseIds soNumber = .ok after) :
    OneFulfillment after := by
  rw [voidShip] at hvoid
  split at hvoid
  · cases hvoid
  split at hvoid
  · cases hvoid
  split at hvoid
  · cases hvoid
  next fulfillmentId fulfillment hlast =>
    obtain ⟨hmem, hsoId, hstatus⟩ := lastShipped_mem hlast
    have hlive : fulfillment.status ≠ .voided := by
      rw [hstatus]
      decide
    exact recordVoidShip_oneFulfillment hone hmem hsoId hlive hvoid

/-! ## Reverts -/

/-- The fulfillments stay, and the lines keep what is shipped of them. -/
structure SameShipments (store after : Store) : Prop where
  fulfillments : after.itemFulfillments = store.itemFulfillments
  lines : ∀ entry ∈ after.salesOrderLines.entries,
    ∃ line, (entry.1, line) ∈ store.salesOrderLines.entries ∧
      line.soId = entry.2.soId ∧ line.quantityShipped = entry.2.quantityShipped

theorem SameShipments.refl (store : Store) : SameShipments store store where
  fulfillments := rfl
  lines entry hentry := ⟨entry.2, hentry, rfl, rfl⟩

theorem SameShipments.trans {middle : Store} (hfirst : SameShipments store middle)
    (hnext : SameShipments middle after) : SameShipments store after where
  fulfillments := hnext.fulfillments.trans hfirst.fulfillments
  lines entry hentry := by
    obtain ⟨line, hline, hsoId, hshipped⟩ := hnext.lines entry hentry
    obtain ⟨line', hline', hsoId', hshipped'⟩ := hfirst.lines (entry.1, line) hline
    exact ⟨line', hline', hsoId'.trans hsoId, hshipped'.trans hshipped⟩

theorem SameShipments.nothingShipped (hsame : SameShipments store after)
    (hnone : store.nothingShipped soId = true) : after.nothingShipped soId = true := by
  obtain ⟨hvoided, hlines⟩ := nothingShipped_iff.mp hnone
  refine nothingShipped_iff.mpr ⟨?_, fun entry hentry hsoId => ?_⟩
  · rw [hsame.fulfillments]
    exact hvoided
  · obtain ⟨line, hline, hlineSo, hshipped⟩ := hsame.lines entry hentry
    rw [← hshipped]
    exact hlines (entry.1, line) hline (hlineSo.trans hsoId)

theorem SameShipments.mapLines {change : ℕ → SalesOrderLine → SalesOrderLine}
    (hsoId : ∀ key line, (change key line).soId = line.soId)
    (hshipped : ∀ key line, (change key line).quantityShipped = line.quantityShipped)
    (hfulfillments : after.itemFulfillments = store.itemFulfillments)
    (hlines : after.salesOrderLines = store.salesOrderLines.mapRows change) :
    SameShipments store after where
  fulfillments := hfulfillments
  lines entry hentry := by
    rw [hlines] at hentry
    obtain ⟨line, hline, hrow⟩ := (Table.mem_mapRows _).mp hentry
    rw [← hrow]
    exact ⟨line, hline, (hsoId _ _).symm, (hshipped _ _).symm⟩

theorem SameShipments.modifyLine (soLineId : ℕ)
    (change : SalesOrderLine → SalesOrderLine)
    (hsoId : ∀ line, (change line).soId = line.soId)
    (hshipped : ∀ line, (change line).quantityShipped = line.quantityShipped)
    (hfulfillments : after.itemFulfillments = store.itemFulfillments)
    (hlines : after.salesOrderLines = store.salesOrderLines.modify soLineId change) :
    SameShipments store after := by
  refine SameShipments.mapLines (fun key line => ?_) (fun key line => ?_) hfulfillments
    hlines
  · split
    · exact hsoId line
    · rfl
  · split
    · exact hshipped line
    · rfl

theorem SameShipments.updateLines (cond : SalesOrderLine → Bool)
    (change : SalesOrderLine → SalesOrderLine)
    (hsoId : ∀ line, (change line).soId = line.soId)
    (hshipped : ∀ line, (change line).quantityShipped = line.quantityShipped)
    (hfulfillments : after.itemFulfillments = store.itemFulfillments)
    (hlines : after.salesOrderLines = store.salesOrderLines.updateWhere cond change) :
    SameShipments store after := by
  refine SameShipments.mapLines (fun key line => ?_) (fun key line => ?_) hfulfillments
    hlines
  · split
    · exact hsoId line
    · rfl
  · split
    · exact hshipped line
    · rfl

theorem restoreBin_spec (store : Store) (warehouseId : ℕ) (task : PickTask) :
    ∃ inventory, restoreBin store warehouseId task = { store with inventory } := by
  rw [restoreBin]
  split
  · exact addInventory_spec store _ _ _ _ _
  · exact ⟨store.inventory, rfl⟩

theorem takeOffLine_spec (store : Store) (task : PickTask) :
    SameShipments store (takeOffLine store task) ∧
      (takeOffLine store task).salesOrders = store.salesOrders := by
  rw [takeOffLine]
  split
  · exact ⟨SameShipments.refl store, rfl⟩
  next soLineId _ =>
    refine ⟨SameShipments.modifyLine soLineId
      (fun line => { line with
        quantityPicked := max (line.quantityPicked - task.quantityPicked) 0
        quantityAllocated := max (line.quantityAllocated - task.quantityToPick) 0 })
      ?_ ?_ rfl rfl, rfl⟩
    · exact fun _ => rfl
    · exact fun _ => rfl

theorem releasePick_spec (warehouseId : ℕ) (store : Store) (entry : ℕ × PickTask) :
    SameShipments store (releasePick warehouseId store entry) ∧
      (releasePick warehouseId store entry).salesOrders = store.salesOrders := by
  obtain ⟨inventory, hrestored⟩ := restoreBin_spec store warehouseId entry.2
  obtain ⟨hsame, horders⟩ := takeOffLine_spec { store with inventory } entry.2
  rw [releasePick, hrestored]
  exact ⟨⟨hsame.fulfillments, hsame.lines⟩, horders⟩

theorem releasePicks_spec {warehouseId : ℕ} {pickTaskIds : List ℕ}
    (hrelease : releasePicks store soId warehouseId pickTaskIds = .ok after) :
    SameShipments store after ∧ after.salesOrders = store.salesOrders := by
  rw [releasePicks] at hrelease
  split at hrelease
  · cases hrelease
  split at hrelease
  · cases hrelease
  · cases hrelease
    refine foldl_invariant (fun state : Store =>
      SameShipments store state ∧ state.salesOrders = store.salesOrders)
      (fun state entry hstate => ?_) _ ⟨SameShipments.refl store, rfl⟩
    obtain ⟨hsame, horders⟩ := releasePick_spec warehouseId state entry
    exact ⟨hstate.1.trans hsame, horders.trans hstate.2⟩

theorem demote_spec (store : Store) (soId : ℕ) (order : SalesOrder)
    (curIdx newIdx : ℕ) (newStatus : SoStatus) :
    SameShipments store (demote store soId order curIdx newIdx newStatus) ∧
      ∀ soId' order', (soId', order') ∈
          (demote store soId order curIdx newIdx newStatus).salesOrders.entries →
        ∃ before, (soId', before) ∈ store.salesOrders.entries ∧
          (order'.status = before.status ∨
            soId' = soId ∧ order'.status = newStatus) := by
  let unpacked := if decide (2 ≤ curIdx ∧ newIdx < 2) then unpackLines store soId
    else store
  let unshipped := if order.status == .shipped && newStatus != .shipped then
    unshipHeader unpacked soId else unpacked
  have hunpacked : SameShipments store unpacked ∧
      unpacked.salesOrders = store.salesOrders := by
    dsimp only [unpacked]
    split
    · refine ⟨SameShipments.updateLines
        (fun line => line.soId == soId && decide (0 < line.quantityPacked))
        (fun line => { line with quantityPacked := 0 }) ?_ ?_ rfl rfl, rfl⟩
      · exact fun _ => rfl
      · exact fun _ => rfl
    · exact ⟨SameShipments.refl store, rfl⟩
  have hunshipped : SameShipments store unshipped ∧
      ∀ soId' order', (soId', order') ∈ unshipped.salesOrders.entries →
        ∃ before, (soId', before) ∈ store.salesOrders.entries ∧
          order'.status = before.status := by
    obtain ⟨hsame, horders⟩ := hunpacked
    dsimp only [unshipped]
    split
    · refine ⟨⟨hsame.fulfillments, hsame.lines⟩, fun soId' order' horder => ?_⟩
      obtain ⟨before, hbefore, rfl⟩ := (Table.mem_modify _).mp horder
      rw [horders] at hbefore
      exact ⟨before, hbefore, by split <;> rfl⟩
    · refine ⟨hsame, fun soId' order' horder => ?_⟩
      rw [horders] at horder
      exact ⟨order', horder, rfl⟩
  obtain ⟨hsame, hstatus⟩ := hunshipped
  change SameShipments store (if newStatus ≠ order.status then
      unshipped.setOrderStatus soId newStatus else unshipped) ∧
    ∀ soId' order', (soId', order') ∈ (if newStatus ≠ order.status then
      unshipped.setOrderStatus soId newStatus else unshipped).salesOrders.entries → _
  split
  · refine ⟨⟨hsame.fulfillments, hsame.lines⟩, fun soId' order' horder => ?_⟩
    obtain ⟨middle, hmiddle, rfl⟩ := (Table.mem_modify _).mp horder
    obtain ⟨before, hbefore, hkept⟩ := hstatus soId' middle hmiddle
    refine ⟨before, hbefore, ?_⟩
    split
    next hkey => exact .inr ⟨hkey, rfl⟩
    next => exact .inl hkept
  · refine ⟨hsame, fun soId' order' horder => ?_⟩
    obtain ⟨before, hbefore, hkept⟩ := hstatus soId' order' horder
    exact ⟨before, hbefore, .inl hkept⟩

theorem revert_oneFulfillment (hone : OneFulfillment store) {newStatus : SoStatus}
    {releasePickTaskIds : List ℕ}
    (hguard : store.keepsShipments (.revert soId newStatus releasePickTaskIds) = true)
    (hrevert : revertSalesOrderStatus store soId newStatus releasePickTaskIds = .ok after) : OneFulfillment after := by
  rw [revertSalesOrderStatus] at hrevert
  split at hrevert
  · cases hrevert
  next newIdx hnewIdx =>
  split at hrevert
  · cases hrevert
  next order horder =>
  split at hrevert
  · cases hrevert
  split at hrevert
  · cases hrevert
  split at hrevert
  · cases hrevert
  next curIdx hcurIdx =>
  split at hrevert
  · cases hrevert
  obtain ⟨released, hreleased, hrevert⟩ := bind_eq_ok.mp hrevert
  split at hrevert
  · cases hrevert
  cases hrevert
  obtain ⟨hsameReleased, horders⟩ := releasePicks_spec hreleased
  obtain ⟨hsameDemoted, hstatus⟩ :=
    demote_spec released soId order curIdx newIdx newStatus
  have hsame := hsameReleased.trans hsameDemoted
  constructor
  · rw [hsame.fulfillments]
    exact hone.single
  · intro soId' order' horder' hbelow
    obtain ⟨before, hbefore, hkept | ⟨rfl, hnew⟩⟩ := hstatus soId' order' horder'
    · rw [horders] at hbefore
      rw [hkept] at hbelow
      exact hsame.nothingShipped (hone.below soId' before hbefore hbelow)
    · apply hsame.nothingShipped
      rw [hnew] at hbelow
      by_cases hshipped : order.status = .shipped
      · -- The guard speaks about the orders that leave SHIPPED.
        rw [Store.keepsShipments, Store.isShipped, horder, Option.any_some, hshipped]
          at hguard
        simp only [beq_self_eq_true, Bool.not_true, Bool.false_or, Bool.or_eq_true,
          beq_iff_eq] at hguard
        rcases hguard with hsameStatus | hnothing
        · rw [hsameStatus] at hbelow
          cases hbelow
        · exact hnothing
      · rw [Table.get?_eq_some] at horder
        apply hone.below soId' order horder
        revert hcurIdx hshipped
        cases order.status <;> simp [SoStatus.belowShipped, statusOrder]

end Steps

/-! ## Runs -/

theorem applyShipCall_oneFulfillment {store after : Store} {call : ShipCall}
    (hone : OneFulfillment store) (hguard : store.keepsShipments call = true)
    (hcall : applyShipCall store call = some after) : OneFulfillment after := by
  cases call with
  | fulfill warehouseIds soId =>
      exact fulfill_oneFulfillment hone (toOption_eq_some.mp hcall)
  | dockdShip tokenWarehouseIds soNumber =>
      exact dockdShip_oneFulfillment hone (toOption_eq_some.mp hcall)
  | adminEditShip soId trackingNumber shipMethod shippedAtOverride =>
      exact adminEditShip_oneFulfillment hone (toOption_eq_some.mp hcall)
  | adminShip soId acknowledgeShortfall =>
      exact recordAdminShip_oneFulfillment hone (toOption_eq_some.mp hcall)
  | voidShip tokenWarehouseIds soNumber =>
      exact voidShip_oneFulfillment hone (toOption_eq_some.mp hcall)
  | revert soId newStatus releasePickTaskIds =>
      exact revert_oneFulfillment hone hguard (toOption_eq_some.mp hcall)

/-- Nothing has been shipped yet. -/
def Store.Unshipped (store : Store) : Prop :=
  store.itemFulfillments.entries = [] ∧
    ∀ entry ∈ store.salesOrderLines.entries, entry.2.quantityShipped = 0

theorem Store.Unshipped.oneFulfillment {store : Store} (hunshipped : store.Unshipped) :
    OneFulfillment store where
  single left _ hleft := by
    rw [hunshipped.1] at hleft
    cases hleft
  below soId order _ _ := by
    refine nothingShipped_iff.mpr ⟨fun entry hentry => ?_, fun entry hentry _ => ?_⟩
    · rw [hunshipped.1] at hentry
      cases hentry
    · exact hunshipped.2 entry hentry

/-- In every run whose reverts meet the condition, an order has one live fulfillment
at most, and below SHIPPED it has none and no shipped units. -/
theorem oneFulfillment_of_run {store last : Store} {calls : List ShipCall}
    (hone : OneFulfillment store)
    (hrun : Run applyShipCall (fun store call => store.keepsShipments call = true)
      store calls last) : OneFulfillment last :=
  hrun.invariant OneFulfillment
    (fun hone hguard hcall => applyShipCall_oneFulfillment hone hguard hcall) hone

def twoPackedStore : Store where
  warehouses := .ofRows [⟨"W1", true⟩]
  items := .ofRows [{ sku := "A", upc := none, barcodeAliases := [] }]
  bins := .ofRows
    [{ warehouseId := 1, binCode := "P1", binType := .pickable, pickSequence := 1 }]
  salesOrders := .ofRows
    [{ soNumber := "SO-1", soBarcode := none, status := .packed, warehouseId := 1,
       orderType := .sale, parentSoId := none, cancellationReason := none }]
  salesOrderLines := .ofRows
    [{ soId := 1, itemId := 1, lineNumber := 1, quantityOrdered := 2,
       quantityAllocated := 2, quantityPicked := 2, quantityPacked := 2 }]
  pickTasks := .ofRows
    [{ batchId := 1, target := .salesOrder 1 (some 1), itemId := 1, binId := 1,
       quantityToPick := 2, quantityPicked := 2, pickSequence := 1,
       toteNumber := none, status := .picked }]

theorem twoPackedStore_unshipped : twoPackedStore.Unshipped :=
  ⟨rfl, by decide⟩

def reshippedStore : Store :=
  (execute applyShipCall (fun store call => store.keepsShipments call = true)
    twoPackedStore
    [.dockdShip [1] "SO-1", .voidShip [1] "SO-1", .revert 1 .picked [],
      .adminShip 1 false]).getD twoPackedStore

theorem oneFulfillment_reshippedStore :
    reshippedStore.itemFulfillments.entries.map (fun entry => entry.2.status) =
        [.voided, .shipped] ∧
      OneFulfillment reshippedStore := by
  have hrun : Run applyShipCall (fun store call => store.keepsShipments call = true)
      twoPackedStore
      [.dockdShip [1] "SO-1", .voidShip [1] "SO-1", .revert 1 .picked [],
        .adminShip 1 false] reshippedStore := Run.ofExecute rfl
  exact ⟨rfl, oneFulfillment_of_run twoPackedStore_unshipped.oneFulfillment hrun⟩

def shippedTwiceStore : Store :=
  (execute applyShipCall (fun _ _ => True) twoPackedStore
    [.fulfill [1] 1, .revert 1 .packed [], .fulfill [1] 1]).getD twoPackedStore

def revertedStore : Store :=
  (execute applyShipCall (fun _ _ => True) twoPackedStore
    [.fulfill [1] 1, .revert 1 .packed []]).getD twoPackedStore

/-- A reverted order keeps its fulfillment and its shipped units, and the next ship
adds a second live fulfillment. -/
theorem revert_keeps_fulfillment :
    twoPackedStore.Unshipped ∧
      Run applyShipCall (fun _ _ => True) twoPackedStore
        [.fulfill [1] 1, .revert 1 .packed []] revertedStore ∧
      ¬ OneFulfillment revertedStore ∧
      Run applyShipCall (fun _ _ => True) twoPackedStore
        [.fulfill [1] 1, .revert 1 .packed [], .fulfill [1] 1] shippedTwiceStore ∧
      (shippedTwiceStore.itemFulfillments.entries.map fun entry =>
        (entry.2.soId, entry.2.status)) = [(1, .shipped), (1, .shipped)] := by
  refine ⟨twoPackedStore_unshipped, Run.ofExecute rfl, fun hone => ?_, Run.ofExecute rfl,
    rfl⟩
  have hbelow := hone.below 1
    { soNumber := "SO-1", soBarcode := none, status := .packed, warehouseId := 1,
      orderType := .sale, parentSoId := none, cancellationReason := none }
    (by decide) rfl
  revert hbelow
  decide

end SentryWms
