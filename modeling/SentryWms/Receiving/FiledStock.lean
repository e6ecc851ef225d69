import SentryWms.Picking.Revert
import SentryWms.Receiving.FiledAtHome
import SentryWms.SalesOrder.Release
import SentryWms.SalesOrder.Revert

/-!
# Stock stays filed in the warehouse of its bin

Four services hand `add_inventory` a bin and a warehouse that come from different
places. A put-away names the warehouse of the source bin for the destination; a
cancellation the warehouse of the order for the one receiving bin of the deployment; the
two reverts the warehouse of the order or of the batch for the bin of the task. Each
keeps the stock properly filed exactly when every place it opens lies in the warehouse
it names.
-/

namespace SentryWms

open Relational Transition

/-! ## What the services put back -/

/-- The destination of a put-away, under the warehouse of the source bin. -/
def Store.putawayFilings (store : Store) (request : MoveRequest) : List (LotPlace × ℕ) :=
  match store.bins.get? request.fromBinId with
  | none => []
  | some fromBin =>
      [(⟨request.itemId, request.toBinId, request.lotNumber⟩, fromBin.warehouseId)]

def Store.orderFilings (store : Store) (soId : ℕ) (order : SalesOrder) :
    List (LotPlace × ℕ) :=
  match getDefaultReceivingBin store with
  | .error _ => []
  | .ok receivingBinId =>
      if order.status = .picked ∨ order.status = .packed then
        (store.salesOrderLines.select fun line =>
            line.soId == soId && decide (0 < line.quantityPicked)).map fun line =>
          (⟨line.2.itemId, receivingBinId, none⟩, order.warehouseId)
      else []

def Store.cancelFilings (store : Store) (soId : ℕ) : List (LotPlace × ℕ) :=
  match store.salesOrders.get? soId with
  | none => []
  | some order =>
      store.orderFilings soId order ++
        if order.status = .cancelled ∨ order.orderType = .backorder then []
        else (store.liveBackorders soId).flatMap fun child =>
          store.orderFilings child.1 child.2

def PickTask.filings (warehouseId : ℕ) (task : PickTask) : List (LotPlace × ℕ) :=
  if 0 < task.quantityPicked then [(⟨task.itemId, task.binId, none⟩, warehouseId)]
  else []

/-- What a status revert puts back, under the warehouse of the order. -/
def Store.revertFilings (store : Store) (soId : ℕ) (releasePickTaskIds : List ℕ) :
    List (LotPlace × ℕ) :=
  match store.salesOrders.get? soId with
  | none => []
  | some order =>
      (store.releasedTasks soId releasePickTaskIds.dedup).flatMap fun entry =>
        entry.2.filings order.warehouseId

/-- What the revert of a task puts back: nothing for a pending task, a terminal one or
one of a transfer order. -/
def PickTask.revertFilings (warehouseId : ℕ) (task : PickTask) : List (LotPlace × ℕ) :=
  match task.target with
  | .transferOrder _ _ => []
  | .salesOrder _ _ =>
      if task.status = .picked ∨ task.status = .short then task.filings warehouseId
      else []

/-- What a full revert puts back, under the warehouse of the batch. -/
def Store.batchFilings (store : Store) (batchId : ℕ) : List (LotPlace × ℕ) :=
  match store.pickBatches.get? batchId with
  | none => []
  | some batch =>
      if batch.status = .completed ∨ batch.status = .cancelled then []
      else (store.batchTasks batchId).flatMap fun entry =>
        entry.2.revertFilings batch.warehouseId

variable {store after : Store} {soId : ℕ} {order : SalesOrder}

/-! ## Put-away -/

theorem confirmPutaway_files {scope : WarehouseScope} {request : MoveRequest}
    (hputaway : confirmPutaway store scope request = .ok after) :
    Files store (store.putawayFilings request) after := by
  rw [confirmPutaway] at hputaway
  obtain ⟨⟨fromBin, toBin⟩, hfind, hputaway⟩ := bind_eq_ok.mp hputaway
  obtain ⟨moved, hmove, hok⟩ := bind_eq_ok.mp hputaway
  cases hok
  rw [Store.putawayFilings, (findMove_spec hfind).1]
  exact moveWithin_files hmove

/-! ## Cancellation -/

theorem releaseTask_files (itemId : ℕ) (store : Store) (task : ℕ × PickTask) :
    Files store [] (releaseTask itemId store task) :=
  Files.ofUpdateWhere (fun row =>
    { row with quantityAllocated := row.quantityAllocated - task.2.quantityToPick })
    rfl rfl fun _ => rfl

theorem unwindLine_files (store : Store) (line : ℕ × SalesOrderLine) :
    Files store [] (unwindLine store line) := by
  have hreleased := foldl_invariant (fun after => Files store [] after)
    (fun middle task hmiddle =>
      hmiddle.append_nil (releaseTask_files line.2.itemId middle task))
    (store.pendingTasksOf line.1) (Files.refl store)
  exact hreleased.append_nil (Files.ofSame rfl rfl)

theorem unwindAllocated_files (hunwind : unwindAllocated store soId = .ok after) :
    Files store [] after := by
  rw [unwindAllocated, deleteAllocation] at hunwind
  split at hunwind
  · cases hunwind
  · cases hunwind
    have hlines := foldl_invariant (fun after => Files store [] after)
      (fun middle line hmiddle => hmiddle.append_nil (unwindLine_files middle line))
      (store.allocatedLines soId) (Files.refl store)
    exact hlines.append_nil (Files.ofSame rfl rfl)

theorem restoreLine_files (receivingBinId warehouseId : ℕ) (store : Store)
    (line : ℕ × SalesOrderLine) :
    Files store [(⟨line.2.itemId, receivingBinId, none⟩, warehouseId)]
      (restoreLine receivingBinId warehouseId store line) :=
  (addInventory_files store line.2.itemId receivingBinId warehouseId
    line.2.quantityPicked none).append_nil (Files.ofSame rfl rfl)

theorem unwindPickedOrPacked_files
    (hstatus : order.status = .picked ∨ order.status = .packed)
    (hunwind : unwindPickedOrPacked store soId order.warehouseId = .ok after) :
    Files store (store.orderFilings soId order) after := by
  obtain ⟨receivingBinId, hbin, hok⟩ := bind_eq_ok.mp hunwind
  cases hok
  rw [Store.orderFilings, hbin]
  dsimp only
  rw [if_pos hstatus, List.map_eq_flatMap]
  exact (Files.foldl (fun middle line _ => restoreLine_files receivingBinId
    order.warehouseId middle line) _).append_nil (Files.ofSame rfl rfl)

theorem orderFilings_of_status (hpicked : order.status ≠ .picked)
    (hpacked : order.status ≠ .packed) : store.orderFilings soId order = [] := by
  rw [Store.orderFilings]
  split
  · rfl
  · rw [if_neg (not_or.mpr ⟨hpicked, hpacked⟩)]

theorem unwind_files (hunwind : unwind store soId order = .ok after) :
    Files store (store.orderFilings soId order) after := by
  rw [unwind] at hunwind
  split at hunwind
  next hstatus =>
    rw [orderFilings_of_status (by rw [hstatus]; decide) (by rw [hstatus]; decide)]
    exact unwindAllocated_files hunwind
  next hstatus => exact unwindPickedOrPacked_files (.inl hstatus) hunwind
  next hstatus => exact unwindPickedOrPacked_files (.inr hstatus) hunwind
  next _ hpicked hpacked =>
    cases hunwind
    rw [orderFilings_of_status hpicked hpacked]
    exact Files.refl _

variable {child : ℕ × SalesOrder}

theorem select_unwoundLines {lines : Table SalesOrderLine} (hsoId : soId ≠ child.1) :
    ((unwoundLines child lines).select fun line =>
        line.soId == soId && decide (0 < line.quantityPicked)) =
      lines.select fun line => line.soId == soId && decide (0 < line.quantityPicked) := by
  have helsewhere : ∀ (cond : SalesOrderLine → Bool)
      (change : SalesOrderLine → SalesOrderLine),
      (∀ line, (change line).soId = line.soId) →
      ((lines.updateWhere (fun line => line.soId == child.1 && cond line) change).select
          fun line => line.soId == soId && decide (0 < line.quantityPicked)) =
        lines.select fun line =>
          line.soId == soId && decide (0 < line.quantityPicked) := by
    intro cond change hchange
    apply Table.select_mapRows_elsewhere
    intro key line _
    split
    next hline =>
      have hchild : line.soId = child.1 :=
        beq_iff_eq.mp (Bool.and_eq_true_iff.mp hline).1
      right
      rw [hchange, hchild, beq_eq_false_iff_ne.mpr hsoId.symm]
      exact ⟨rfl, rfl⟩
    next => exact .inl rfl
  rw [unwoundLines]
  split
  · exact helsewhere _ _ fun _ => rfl
  · exact helsewhere _ _ fun _ => rfl
  · exact helsewhere _ _ fun _ => rfl
  · rfl

/-- What one order puts back does not depend on the unwinding of another. -/
theorem orderFilings_unwound
    (hlines : after.salesOrderLines = unwoundLines child store.salesOrderLines)
    (hsettings : after.appSettings = store.appSettings) (hsoId : soId ≠ child.1) :
    after.orderFilings soId order = store.orderFilings soId order := by
  rw [Store.orderFilings, Store.orderFilings, getDefaultReceivingBin,
    getDefaultReceivingBin, hsettings, hlines, select_unwoundLines hsoId]

theorem cancelBackorder_files (hget : store.salesOrders.get? child.1 = some child.2)
    (hlive : child.2.Live) (hcancel : cancelBackorder store child = .ok after) :
    Files store (store.orderFilings child.1 child.2) after := by
  rw [cancelBackorder_live hget hlive] at hcancel
  cases hunwind : unwind (stampBackorder store child) child.1 child.2 with
  | error error =>
      rw [hunwind] at hcancel
      cases hcancel
  | ok unwound =>
      rw [hunwind] at hcancel
      cases hcancel
      have hstamped : Files store [] (stampBackorder store child) :=
        Files.ofSame rfl rfl
      exact (hstamped.trans (unwind_files hunwind)).append_nil (Files.ofSame rfl rfl)

theorem cascade_files {children : List (ℕ × SalesOrder)}
    (hlive : LiveOrders store children)
    (hcascade : children.foldlM cancelBackorder store = .ok after) :
    Files store (children.flatMap fun child => store.orderFilings child.1 child.2)
      after := by
  induction children generalizing store with
  | nil =>
      cases hcascade
      exact Files.refl _
  | cons child children ih =>
      rw [List.foldlM_cons] at hcascade
      obtain ⟨middle, hfirst, hrest⟩ := bind_eq_ok.mp hcascade
      obtain ⟨hget, hchild⟩ := hlive.live child List.mem_cons_self
      have hcancels := cancelBackorder_spec hget hchild hfirst
      have hnodup := List.nodup_cons.mp hlive.nodup
      have hsame : ∀ child' ∈ children, middle.orderFilings child'.1 child'.2 =
          store.orderFilings child'.1 child'.2 := by
        intro child' hchild'
        apply orderFilings_unwound hcancels.lines hcancels.appSettings
        exact fun heq => hnodup.1 (heq ▸ List.mem_map_of_mem hchild')
      have hfiles := ih (hlive.tail hcancels) hrest
      rw [List.flatMap_congr hsame] at hfiles
      rw [List.flatMap_cons]
      exact (cancelBackorder_files hget hchild hfirst).trans hfiles

theorem liveBackorders_markCancelled {unwound : Store}
    (hget : store.salesOrders.get? soId = some order)
    (htype : order.orderType ≠ .backorder)
    (horders : unwound.salesOrders = store.salesOrders) :
    (markCancelled unwound soId).liveBackorders soId = store.liveBackorders soId := by
  rw [Store.liveBackorders, Store.liveBackorders, markCancelled]
  dsimp only
  rw [horders]
  apply Table.select_mapRows_elsewhere
  intro key row hrow
  split
  next hkey =>
    subst hkey
    rw [store.salesOrders.row_unique hrow ((Table.get?_eq_some _).mp hget)]
    have hfalse : (order.orderType == .backorder) = false := beq_eq_false_iff_ne.mpr htype
    right
    simp only [hfalse, Bool.and_false, Bool.false_and, and_self]
  next => exact .inl rfl

theorem cancelOrder_spec {cancelled : Store × SalesOrder}
    (hcancel : cancelOrder store soId = .ok cancelled) :
    store.salesOrders.get? soId = some cancelled.2 ∧
      (cancelled.2.status = .cancelled ∧ cancelled.1 = store ∨
        cancelled.2.Live ∧ ∃ unwound, unwind store soId cancelled.2 = .ok unwound ∧
          cancelled.1 = markCancelled unwound soId) := by
  rw [cancelOrder] at hcancel
  split at hcancel
  · cases hcancel
  next order hget =>
    split at hcancel
    · cases hcancel
    next hstatus =>
      cases hcancel
      exact ⟨hget, .inl ⟨hstatus, rfl⟩⟩
    next hshipped hcancelled =>
      obtain ⟨unwound, hunwind, hok⟩ := bind_eq_ok.mp hcancel
      cases hok
      exact ⟨hget, .inr ⟨⟨hshipped, hcancelled⟩, unwound, hunwind, rfl⟩⟩

theorem cancelSalesOrder_files {result : CancelResult}
    (hcancel : cancelSalesOrder store soId = .ok (after, result)) :
    Files store (store.cancelFilings soId) after := by
  rw [cancelSalesOrder] at hcancel
  obtain ⟨⟨cancelled, order⟩, horder, hcascade⟩ := bind_eq_ok.mp hcancel
  obtain ⟨hget, hcases⟩ := cancelOrder_spec horder
  dsimp only at hget hcases hcascade
  rw [Store.cancelFilings, hget]
  dsimp only
  rcases hcases with ⟨hstatus, hsame⟩ | ⟨hlive, unwound, hunwind, hmarked⟩
  · subst hsame
    rw [if_pos (.inl hstatus)] at hcascade ⊢
    cases hcascade
    rw [orderFilings_of_status (by rw [hstatus]; decide) (by rw [hstatus]; decide)]
    exact Files.refl _
  · have hfirst : Files store (store.orderFilings soId order) cancelled := by
      rw [hmarked]
      exact (unwind_files hunwind).append_nil (Files.ofSame rfl rfl)
    by_cases halone : order.status = .cancelled ∨ order.orderType = .backorder
    · rw [if_pos halone] at hcascade ⊢
      cases hcascade
      rw [List.append_nil]
      exact hfirst
    · rw [if_neg halone] at hcascade ⊢
      obtain ⟨last, hchildren, hok⟩ := bind_eq_ok.mp hcascade
      cases hok
      obtain ⟨-, htype⟩ := not_or.mp halone
      have hpair : unwind store (soId, order).1 (soId, order).2 = .ok unwound := hunwind
      have hspec := unwind_spec hpair
      have hlines : cancelled.salesOrderLines =
          unwoundLines (soId, order) store.salesOrderLines := by
        rw [hmarked]
        exact hspec.2.1
      have hsettings : cancelled.appSettings = store.appSettings := by
        rw [hmarked]
        exact hspec.2.2.2.2.1
      have hbackorders : cancelled.liveBackorders soId = store.liveBackorders soId := by
        rw [hmarked]
        exact liveBackorders_markCancelled hget htype hspec.2.2.2.2.2
      have hrest := cascade_files (liveOrders_liveBackorders cancelled soId) hchildren
      rw [hbackorders] at hrest
      have hsame : ∀ child ∈ store.liveBackorders soId,
          cancelled.orderFilings child.1 child.2 = store.orderFilings child.1 child.2 := by
        intro child hchild
        apply orderFilings_unwound hlines hsettings
        intro heq
        obtain ⟨hmem, -, hbackorder, -⟩ := mem_liveBackorders.mp hchild
        have hrow := (Table.get?_eq_some _).mp hget
        rw [← (show child.1 = soId from heq)] at hrow
        rw [store.salesOrders.row_unique hmem hrow] at hbackorder
        exact htype hbackorder
      rw [List.flatMap_congr hsame] at hrest
      exact hfirst.trans hrest

/-! ## Reverts -/

theorem restoreBin_files (warehouseId : ℕ) (store : Store) (task : PickTask) :
    Files store (task.filings warehouseId) (restoreBin store warehouseId task) := by
  rw [restoreBin, PickTask.filings]
  split
  · exact addInventory_files _ _ _ _ _ _
  · exact Files.refl _

theorem takeOffLine_files (store : Store) (task : PickTask) :
    Files store [] (takeOffLine store task) := by
  rw [takeOffLine]
  split
  · exact Files.refl _
  · exact Files.ofSame rfl rfl

theorem releasePick_files (warehouseId : ℕ) (store : Store) (entry : ℕ × PickTask) :
    Files store (entry.2.filings warehouseId) (releasePick warehouseId store entry) :=
  ((restoreBin_files warehouseId store entry.2).append_nil
    (takeOffLine_files _ entry.2)).append_nil (Files.ofSame rfl rfl)

theorem demote_files (store : Store) (soId : ℕ) (order : SalesOrder) (curIdx newIdx : ℕ)
    (newStatus : SoStatus) :
    Files store [] (demote store soId order curIdx newIdx newStatus) := by
  rw [demote]
  split <;> split <;> split <;> exact Files.ofSame rfl rfl

theorem revert_files {newStatus : SoStatus} {releasePickTaskIds : List ℕ}
    (hrevert : revertSalesOrderStatus store soId newStatus releasePickTaskIds =
      .ok after) :
    Files store (store.revertFilings soId releasePickTaskIds) after := by
  rw [revertSalesOrderStatus] at hrevert
  split at hrevert
  · cases hrevert
  split at hrevert
  · cases hrevert
  next newIdx _ _ order hget =>
    rw [Store.revertFilings, hget]
    split at hrevert
    · cases hrevert
    split at hrevert
    · cases hrevert
    split at hrevert
    · cases hrevert
    split at hrevert
    · cases hrevert
    obtain ⟨released, hrelease, hrevert⟩ := bind_eq_ok.mp hrevert
    split at hrevert
    · cases hrevert
    cases hrevert
    rw [releasePicks] at hrelease
    split at hrelease
    · cases hrelease
    split at hrelease
    · cases hrelease
    cases hrelease
    have hreleased : Files store
        ((store.releasedTasks soId releasePickTaskIds.dedup).flatMap fun entry =>
          entry.2.filings order.warehouseId)
        ((store.releasedTasks soId releasePickTaskIds.dedup).foldl
          (releasePick order.warehouseId) store) :=
      Files.foldl (fun middle entry _ =>
        releasePick_files order.warehouseId middle entry) _
    exact hreleased.append_nil (demote_files _ _ _ _ _ _)

theorem releaseBin_files (store : Store) (task : PickTask) :
    Files store [] (releaseBin store task) := by
  rw [releaseBin]
  split
  · exact Files.ofUpdateWhere (fun row =>
      { row with
        quantityAllocated := max 0 (row.quantityAllocated - task.quantityToPick)
        updatedAt := store.now }) rfl rfl fun _ => rfl
  · exact Files.refl _

theorem revertLine_files (store : Store) (task : PickTask) :
    Files store [] (revertLine store task) := by
  rw [revertLine]
  split
  · exact Files.refl _
  · split
    · exact Files.ofSame rfl rfl
    · exact Files.refl _

theorem revertTask_files (warehouseId : ℕ) (store : Store) (entry : ℕ × PickTask) :
    Files store (entry.2.revertFilings warehouseId)
      (revertTask warehouseId store entry) := by
  have hrestored : Files store (entry.2.filings warehouseId)
      (revertLine (restoreBin store warehouseId entry.2) entry.2) :=
    (restoreBin_files warehouseId store entry.2).append_nil (revertLine_files _ entry.2)
  unfold revertTask PickTask.revertFilings
  cases entry.2.target with
  | transferOrder toId toLineId => exact Files.refl _
  | salesOrder soId soLineId =>
      cases entry.2.status with
      | pending =>
          exact ((releaseBin_files store entry.2).append_nil
            (revertLine_files _ entry.2)).append_nil (Files.ofSame rfl rfl)
      | picked => exact hrestored.append_nil (Files.ofSame rfl rfl)
      | short => exact hrestored.append_nil (Files.ofSame rfl rfl)
      | skipped => exact Files.refl _
      | released => exact Files.refl _

theorem fullRevertBatch_files {batchId : ℕ} {result : RevertResult}
    (hrevert : fullRevertBatch store batchId = .ok (after, result)) :
    Files store (store.batchFilings batchId) after := by
  rw [fullRevertBatch] at hrevert
  split at hrevert
  · cases hrevert
  next batch hget =>
    rw [Store.batchFilings, hget]
    dsimp only
    split at hrevert
    next hdone =>
      cases hrevert
      rw [if_pos hdone]
      exact Files.refl _
    next hdone =>
      cases hrevert
      rw [if_neg hdone]
      have htasks : Files store
          ((store.batchTasks batchId).flatMap fun entry =>
            entry.2.revertFilings batch.warehouseId)
          ((store.batchTasks batchId).foldl (revertTask batch.warehouseId) store) :=
        Files.foldl (fun middle entry _ =>
          revertTask_files batch.warehouseId middle entry) _
      exact htasks.append_nil (Files.ofSame rfl rfl)

/-! ## Runs -/

inductive StockCall where
  | receiveItems (scope : WarehouseScope) (request : ReceiveItemsRequest)
  | receiveRma (request : ReceiveRmaRequest)
  | move (scope : WarehouseScope) (request : MoveRequest)
  | confirmPutaway (scope : WarehouseScope) (request : MoveRequest)
  | stockEntry (sha256 : String → String) (scope : WarehouseScope) (mayReceive : Bool)
      (request : StockEntryRequest)
  | cancelSalesOrder (soId : ℕ)
  | revertSalesOrderStatus (soId : ℕ) (newStatus : SoStatus)
      (releasePickTaskIds : List ℕ)
  | fullRevertBatch (batchId : ℕ)
  | approveTransfer (toId approvalId : ℕ) (username : String)
  | checkout (backorderCode : String) (tokenWarehouseIds : List ℕ)
      (body : CheckoutBody)
  | refund (tokenWarehouseIds : List ℕ) (body : RefundBody)

def applyStockCall (store : Store) : StockCall → Option Store
  | .receiveItems scope request =>
      (receiveItems store scope request).toOption.map Prod.fst
  | .receiveRma request => (receiveRma store request).toOption.map Prod.fst
  | .move scope request => (move store scope request).toOption.map Prod.fst
  | .confirmPutaway scope request => (confirmPutaway store scope request).toOption
  | .stockEntry sha256 scope mayReceive request =>
      (stockEntry store sha256 scope mayReceive request).toOption.map Prod.fst
  | .cancelSalesOrder soId => (cancelSalesOrder store soId).toOption.map Prod.fst
  | .revertSalesOrderStatus soId newStatus releasePickTaskIds =>
      (revertSalesOrderStatus store soId newStatus releasePickTaskIds).toOption
  | .fullRevertBatch batchId => (fullRevertBatch store batchId).toOption.map Prod.fst
  | .approveTransfer toId approvalId username =>
      (approveTransferOrderApproval store toId approvalId username).toOption
  | .checkout backorderCode tokenWarehouseIds body =>
      (checkout store backorderCode tokenWarehouseIds body).toOption.map Prod.fst
  | .refund tokenWarehouseIds body =>
      (refund store tokenWarehouseIds body).toOption.map Prod.fst

/-- Every place that the entries open lies in the warehouse they name. -/
def Store.OpensHome (store : Store) (entries : List (LotPlace × ℕ)) : Prop :=
  ∀ filing ∈ opening store.filings entries, store.home filing = true

/-- The places that a put-away, a cancellation or a revert opens lie in the warehouse
it names for them. The other calls need no such condition. -/
def Store.FilesRightly (store : Store) : StockCall → Prop
  | .confirmPutaway _ request => store.OpensHome (store.putawayFilings request)
  | .cancelSalesOrder soId => store.OpensHome (store.cancelFilings soId)
  | .revertSalesOrderStatus soId _ releasePickTaskIds =>
      store.OpensHome (store.revertFilings soId releasePickTaskIds)
  | .fullRevertBatch batchId => store.OpensHome (store.batchFilings batchId)
  | _ => True

instance (store : Store) (entries : List (LotPlace × ℕ)) :
    Decidable (store.OpensHome entries) :=
  inferInstanceAs (Decidable (∀ filing ∈ opening store.filings entries, _))

instance (store : Store) : (call : StockCall) → Decidable (store.FilesRightly call)
  | .confirmPutaway _ _ => inferInstanceAs (Decidable (store.OpensHome _))
  | .cancelSalesOrder _ => inferInstanceAs (Decidable (store.OpensHome _))
  | .revertSalesOrderStatus _ _ _ => inferInstanceAs (Decidable (store.OpensHome _))
  | .fullRevertBatch _ => inferInstanceAs (Decidable (store.OpensHome _))
  | .receiveItems _ _ | .receiveRma _ | .move _ _ | .stockEntry _ _ _ _
  | .approveTransfer _ _ _ | .checkout _ _ _ | .refund _ _ =>
      inferInstanceAs (Decidable True)

theorem map_fst_eq_some {Error Value Result : Type} {answer : Except Error (Value × Result)}
    {value : Value} :
    answer.toOption.map Prod.fst = some value ↔ ∃ result, answer = .ok (value, result) := by
  rw [Option.map_eq_some_iff]
  constructor
  · rintro ⟨⟨value', result⟩, hanswer, rfl⟩
    exact ⟨result, toOption_eq_some.mp hanswer⟩
  · rintro ⟨result, hanswer⟩
    exact ⟨(value, result), toOption_eq_some.mpr hanswer, rfl⟩

theorem applyStockCall_filed {call : StockCall} (hfiled : store.Filed)
    (happly : applyStockCall store call = some after) :
    after.Filed ↔ store.FilesRightly call := by
  cases call with
  | receiveItems scope request =>
      obtain ⟨result, hreceive⟩ := map_fst_eq_some.mp happly
      exact iff_of_true ((receiveItems_filesHome hreceive).filed hfiled) trivial
  | receiveRma request =>
      obtain ⟨result, hreceive⟩ := map_fst_eq_some.mp happly
      exact iff_of_true ((receiveRma_filesHome hreceive).filed hfiled) trivial
  | move scope request =>
      obtain ⟨result, hmove⟩ := map_fst_eq_some.mp happly
      exact iff_of_true ((move_filesHome hmove).filed hfiled) trivial
  | confirmPutaway scope request =>
      exact (confirmPutaway_files (toOption_eq_some.mp happly)).filed hfiled
  | stockEntry sha256 scope mayReceive request =>
      obtain ⟨result, henter⟩ := map_fst_eq_some.mp happly
      exact iff_of_true ((stockEntry_filesHome henter).filed hfiled) trivial
  | cancelSalesOrder soId =>
      obtain ⟨result, hcancel⟩ := map_fst_eq_some.mp happly
      exact (cancelSalesOrder_files hcancel).filed hfiled
  | revertSalesOrderStatus soId newStatus releasePickTaskIds =>
      exact (revert_files (toOption_eq_some.mp happly)).filed hfiled
  | fullRevertBatch batchId =>
      obtain ⟨result, hrevert⟩ := map_fst_eq_some.mp happly
      exact (fullRevertBatch_files hrevert).filed hfiled
  | approveTransfer toId approvalId username =>
      have happrove := approve_filesHome (toOption_eq_some.mp happly)
      exact iff_of_true (happrove.filed hfiled) trivial
  | checkout backorderCode tokenWarehouseIds body =>
      obtain ⟨response, hcheckout⟩ := map_fst_eq_some.mp happly
      have hfiles := FilesHome.ofFiles (checkout_files hcheckout)
      exact iff_of_true (hfiles.filed hfiled) trivial
  | refund tokenWarehouseIds body =>
      obtain ⟨response, hrefund⟩ := map_fst_eq_some.mp happly
      have hfiles := FilesHome.ofFiles (refund_files hrefund)
      exact iff_of_true (hfiles.filed hfiled) trivial

/-- In every run whose put-aways, cancellations and reverts open places only in the
warehouse they name, the stock stays properly filed. -/
theorem filed_of_run {first last : Store} {calls : List StockCall}
    (hrun : Run applyStockCall Store.FilesRightly first calls last)
    (hfirst : first.Filed) : last.Filed :=
  hrun.invariant Store.Filed
    (fun hfiled hguard happly => (applyStockCall_filed hfiled happly).mpr hguard) hfirst

/-! ## Two warehouses -/

/-- Two warehouses with one bin each; the first holds five units of an item, the second
has a PICKED order of two. Cancelled stock returns to the bin of the first. -/
def splitWarehouses : Store where
  items := .ofRows [{ sku := "A", upc := none, barcodeAliases := [] }]
  bins := .ofRows
    [{ warehouseId := 1, binCode := "R1", binType := .staging, pickSequence := 1 },
     { warehouseId := 2, binCode := "P2", binType := .pickable, pickSequence := 1 },
     { warehouseId := 1, binCode := "P1", binType := .pickable, pickSequence := 2 }]
  inventory := .ofRows
    [{ itemId := 1, binId := 3, warehouseId := 1, quantityOnHand := 5,
       quantityAllocated := 0, lotNumber := none, updatedAt := 0 }]
  salesOrders := .ofRows
    [{ soNumber := "SO-1", soBarcode := none, status := .picked, warehouseId := 2,
       orderType := .sale, parentSoId := none, cancellationReason := none }]
  salesOrderLines := .ofRows
    [{ soId := 1, itemId := 1, lineNumber := 1, quantityOrdered := 2,
       quantityAllocated := 2, quantityPicked := 2 }]
  appSettings := [("default_receiving_bin", "1")]

theorem putaway_pos : (0 : ℤ) < 2 := by decide

/-- A put-away of two units of the item out of the first warehouse's bin. -/
def putawayTo (toBinId : ℕ) (hbins : 3 ≠ toBinId) : MoveRequest where
  itemId := 1
  fromBinId := 3
  toBinId := toBinId
  binsDiffer := hbins
  quantity := 2
  quantityPos := putaway_pos
  lotNumber := none

/-- The store after a put-away within the first warehouse and the cancellation of the
order, whose units find a row in the receiving bin. -/
def restockedSplit : Store :=
  (execute applyStockCall (fun _ _ => True) splitWarehouses
    [.confirmPutaway ⟨none⟩ (putawayTo 1 (by decide)), .cancelSalesOrder 1]).getD
      splitWarehouses

theorem filed_restockedSplit :
    splitWarehouses.Filed ∧
      Run applyStockCall Store.FilesRightly splitWarehouses
        [.confirmPutaway ⟨none⟩ (putawayTo 1 (by decide)), .cancelSalesOrder 1]
        restockedSplit ∧
      restockedSplit.Filed := by
  have hrun : Run applyStockCall Store.FilesRightly splitWarehouses
      [.confirmPutaway ⟨none⟩ (putawayTo 1 (by decide)), .cancelSalesOrder 1]
      restockedSplit := Run.ofExecute rfl
  have hfiled : splitWarehouses.Filed := by decide
  exact ⟨hfiled, hrun, filed_of_run hrun hfiled⟩

def putAwayAcross : Store :=
  (applyStockCall splitWarehouses
    (.confirmPutaway ⟨none⟩ (putawayTo 2 (by decide)))).getD splitWarehouses

def cancelledAcross : Store :=
  (applyStockCall splitWarehouses (.cancelSalesOrder 1)).getD splitWarehouses

/-- A put-away into the bin of the other warehouse files its stock under the warehouse
it left, and a cancellation files the units of the second warehouse's order in a bin of
the first. -/
theorem misfiles_across_warehouses :
    splitWarehouses.Filed ∧
      applyStockCall splitWarehouses
        (.confirmPutaway ⟨none⟩ (putawayTo 2 (by decide))) = some putAwayAcross ∧
      ¬ putAwayAcross.Filed ∧
      applyStockCall splitWarehouses (.cancelSalesOrder 1) = some cancelledAcross ∧
      ¬ cancelledAcross.Filed :=
  ⟨by decide, rfl, by decide, rfl, by decide⟩

end SentryWms
