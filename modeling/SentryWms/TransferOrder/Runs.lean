import SentryWms.Picking.Promotion
import SentryWms.Store.Stock
import SentryWms.TransferOrder.Lifecycle

/-!
# Runs of transfer orders

The calls that drive transfer orders, and what each of them can do: which tables
it leaves alone, and that orders and lines keep their identity.
-/

namespace SentryWms

open Relational Transition

/-! ## The calls -/

/-- An accepted call on transfer orders. -/
inductive ToCall where
  | importOrder (request : ImportRequest) (username : String)
  | startToPicking (toId : ℕ) (username : String)
  | confirmPick (pickTaskId : ℕ) (scannedBarcode : String) (quantityPicked : ℤ)
  | submitPicks (toId : ℕ) (username : String)
  | completeBatch (batchId : ℕ) (username : String) (sourceTxnId : ℕ)
  | approve (toId approvalId : ℕ) (username : String)
  | reject (toId approvalId : ℕ) (rejectionReason : Option String)
  | shortClose (toId toLineId : ℕ)
  | cancel (toId : ℕ)

def Store.transferTask (store : Store) (pickTaskId : ℕ) : Bool :=
  (store.pickTasks.get? pickTaskId).any fun task =>
    match task.target with
    | .salesOrder _ _ => false
    | .transferOrder _ _ => true

def Store.taskLine (store : Store) (pickTaskId : ℕ) : Option TransferOrderLine :=
  match store.pickTasks.get? pickTaskId with
  | none => none
  | some task =>
      match task.target with
      | .transferOrder _ (some toLineId) => store.transferOrderLines.get? toLineId
      | _ => none

def applyToCall (store : Store) : ToCall → Option Store
  | .importOrder request username =>
      ((importTransferOrder store request username).toOption).map Prod.fst
  | .startToPicking toId username =>
      ((startToPicking store toId username).toOption).map Prod.fst
  | .confirmPick pickTaskId scannedBarcode quantityPicked =>
      if store.transferTask pickTaskId then
        (confirmPick store pickTaskId scannedBarcode quantityPicked).toOption
      else none
  | .submitPicks toId username =>
      ((submitPicks store toId username).toOption).map Prod.fst
  | .completeBatch batchId username sourceTxnId =>
      (completeBatch store batchId username (some sourceTxnId)).toOption
  | .approve toId approvalId username =>
      (approveTransferOrderApproval store toId approvalId username).toOption
  | .reject toId approvalId rejectionReason =>
      (rejectTransferOrderApproval store toId approvalId rejectionReason).toOption
  | .shortClose toId toLineId => (shortCloseToLine store toId toLineId).toOption
  | .cancel toId => (cancelTransferOrder store toId).toOption

/-! ## Specifications of the calls -/

variable {store after : Store} {toId : ℕ} {username : String}

theorem startToPicking_spec {batchId : ℕ}
    (hstart : startToPicking store toId username = .ok (after, batchId)) :
    ∃ pickBatches pickTasks, after = { store with pickBatches, pickTasks } := by
  rw [startToPicking] at hstart
  split at hstart
  · cases hstart
  split at hstart
  · cases hstart
  split at hstart
  · cases hstart
  next header _ _ first rest _ =>
    obtain ⟨⟨started, sequence⟩, hfold, hok⟩ := bind_eq_ok.mp hstart
    cases hok
    have htask : ∀ (batchId toId : ℕ) (line : ℕ × TransferOrderLine)
        (draws : List ((ℕ × Inventory) × ℤ)) (state : Store × ℤ),
        ∃ pickTasks, (draws.foldl (startTask batchId toId line) state).1 =
          { state.1 with pickTasks } := by
      intro batchId toId line draws
      induction draws with
      | nil => exact fun state => ⟨state.1.pickTasks, rfl⟩
      | cons draw draws ih =>
          intro state
          obtain ⟨pickTasks, htasks⟩ := ih (startTask batchId toId line state draw)
          exact ⟨pickTasks, by rw [List.foldl_cons, htasks]; rfl⟩
    have hline : ∀ (batchId warehouseId : ℕ) (lines : List (ℕ × TransferOrderLine))
        (state state' : Store × ℤ),
        lines.foldlM (startLine batchId toId warehouseId) state = .ok state' →
        ∃ pickTasks, state'.1 = { state.1 with pickTasks } := by
      intro batchId warehouseId lines
      induction lines with
      | nil =>
          intro state state' hlines
          cases hlines
          exact ⟨state.1.pickTasks, rfl⟩
      | cons line lines ih =>
          intro state state' hlines
          rw [List.foldlM_cons] at hlines
          obtain ⟨middle, hmiddle, hrest⟩ := bind_eq_ok.mp hlines
          rw [startLine] at hmiddle
          split at hmiddle
          · cases hmiddle
          · cases hmiddle
            obtain ⟨pickTasks, htasks⟩ := ih _ _ hrest
            obtain ⟨pickTasks', htasks'⟩ := htask batchId toId line _ state
            exact ⟨pickTasks, by rw [htasks, htasks']⟩
    obtain ⟨pickTasks, htasks⟩ := hline _ _ _ _ _ hfold
    exact ⟨_, pickTasks, htasks⟩

theorem confirmPick_transfer_spec {pickTaskId : ℕ} {scannedBarcode : String}
    {quantityPicked : ℤ} (htransfer : store.transferTask pickTaskId = true)
    (hconfirm : confirmPick store pickTaskId scannedBarcode quantityPicked = .ok after) :
    ∃ toId toLineId line hdelta hcap pickTasks,
      store.transferOrderLines.get? toLineId = some line ∧
      store.taskLine pickTaskId = some line ∧ line.pickable = true ∧
      after = maybePromoteHeaderToPartiallyPicked
        { store with
          pickTasks
          transferOrderLines := store.transferOrderLines.modify toLineId fun _ =>
            line.pick quantityPicked hdelta hcap } toId := by
  obtain ⟨task, htask, hconfirm⟩ := bind_eq_ok.mp hconfirm
  have hget : store.pickTasks.get? pickTaskId = some task := by
    rw [Store.pendingTask] at htask
    split at htask
    · cases htask
    next task' hget =>
      split at htask
      · cases htask
      · cases htask
        exact hget
  split at hconfirm
  · cases hconfirm
  split at hconfirm
  · cases hconfirm
  split at hconfirm
  · cases hconfirm
  dsimp only at hconfirm
  split at hconfirm
  next toId toLineId htarget =>
    obtain ⟨⟨picked, line⟩, hpick, hconfirm⟩ := bind_eq_ok.mp hconfirm
    cases hconfirm
    rw [updateTransferOrderLinePicked] at hpick
    split at hpick
    · cases hpick
    cases toLineId with
    | none => cases hpick
    | some lineId =>
        dsimp only at hpick
        split at hpick
        · cases hpick
        next line' hline =>
          split at hpick
          next hcap =>
            have htaskLine : store.taskLine pickTaskId = some line' := by
              simp only [Store.taskLine, hget, htarget]
              exact hline
            cases hpick
            exact ⟨toId, lineId, line', _, hcap.1, _, hline, htaskLine, hcap.2, rfl⟩
          · cases hpick
  next soId soLineId htarget =>
    rw [Store.transferTask, hget, Option.any_some, htarget] at htransfer
    cases htransfer

theorem submitPicks_spec {submitted : Submitted}
    (hsubmit : submitPicks store toId username = .ok (after, submitted)) :
    ∃ header, store.transferOrders.get? toId = some header ∧
      (header.status = .partiallyPicked ∨ header.status = .awaitingApproval) ∧
      store.submission toId ≠ [] ∧
      after = Store.setToStatus
        { store with
          transferOrderApprovals := store.transferOrderApprovals.insert
            { toId, submittedBy := username, approvedBy := none,
              rejectionReason := none, linesSnapshot := store.submission toId,
              status := .pending } }
        toId (store.submittedStatus toId) := by
  rw [submitPicks] at hsubmit
  split at hsubmit
  · cases hsubmit
  next header hheader =>
    split at hsubmit
    · cases hsubmit
    next hstatus =>
      split at hsubmit
      · cases hsubmit
      next first rest hsubmission =>
        cases hsubmit
        refine ⟨header, hheader, by tauto, by simp [hsubmission], ?_⟩
        rw [hsubmission]
        rfl

theorem completeBatch_transfer_spec {batchId : ℕ} {sourceTxnId : Option ℕ}
    (hcomplete : completeBatch store batchId username sourceTxnId = .ok after) :
    ∃ pickBatches salesOrders pickConfirmed,
      after = (store.batchTransferOrders batchId).foldl (trySubmitPicks username)
        { store with pickBatches, salesOrders, pickConfirmed } := by
  rw [completeBatch] at hcomplete
  split at hcomplete
  · cases hcomplete
  dsimp only at hcomplete
  split at hcomplete
  · cases hcomplete
  split at hcomplete
  · cases hcomplete
  · cases hcomplete
    have horder : ∀ (orders : List (ℕ × SalesOrder)) (state : Store),
        ∃ salesOrders pickConfirmed,
          orders.foldl (completeOrder sourceTxnId username) state =
            { state with salesOrders, pickConfirmed } := by
      intro orders
      induction orders with
      | nil => exact fun state => ⟨state.salesOrders, state.pickConfirmed, rfl⟩
      | cons order orders ih =>
          intro state
          have hhead : ∃ salesOrders pickConfirmed,
              completeOrder sourceTxnId username state order =
                { state with salesOrders, pickConfirmed } := by
            simp only [completeOrder]
            split
            · exact ⟨_, state.pickConfirmed, rfl⟩
            · rw [emitPickConfirmed]
              split
              · exact ⟨_, state.pickConfirmed, rfl⟩
              · exact ⟨_, _, rfl⟩
          obtain ⟨salesOrders, pickConfirmed, hhead⟩ := hhead
          obtain ⟨salesOrders', pickConfirmed', htail⟩ :=
            ih (completeOrder sourceTxnId username state order)
          exact ⟨salesOrders', pickConfirmed', by rw [List.foldl_cons, htail, hhead]⟩
    obtain ⟨salesOrders, pickConfirmed, hfold⟩ := horder
      ((store.setBatchStatus batchId .completed).batchSalesOrders batchId)
      (store.setBatchStatus batchId .completed)
    refine ⟨(store.setBatchStatus batchId .completed).pickBatches, salesOrders,
      pickConfirmed, ?_⟩
    rw [hfold]
    rfl

variable {approvalId : ℕ}

theorem approval_spec {approval : TransferOrderApproval}
    (happroval : store.approval toId approvalId = .ok approval) :
    store.transferOrderApprovals.get? approvalId = some approval ∧
      approval.toId = toId ∧ approval.status = .pending := by
  rw [Store.approval] at happroval
  split at happroval
  · cases happroval
  next found hget =>
    split at happroval
    · cases happroval
    next htoId =>
      split at happroval
      · cases happroval
      next hstatus =>
        cases happroval
        exact ⟨hget, not_not.mp htoId, not_not.mp hstatus⟩

theorem approve_spec
    (happrove : approveTransferOrderApproval store toId approvalId username = .ok after) :
    ∃ approval header moved, store.approval toId approvalId = .ok approval ∧
      store.transferOrders.get? toId = some header ∧
      (sortSnapshot approval.linesSnapshot).foldlM (approveSnapshotLine header)
        store = .ok moved ∧
      after = closeIfDone
        { moved with
          transferOrderApprovals :=
            moved.transferOrderApprovals.modify approvalId fun approval =>
              { approval with status := .approved, approvedBy := some username } }
        toId := by
  obtain ⟨approval, happroval, happrove⟩ := bind_eq_ok.mp happrove
  split at happrove
  · cases happrove
  split at happrove
  · cases happrove
  next header hheader =>
    split at happrove
    · cases happrove
    · obtain ⟨moved, hmoved, hok⟩ := bind_eq_ok.mp happrove
      cases hok
      exact ⟨approval, header, moved, happroval, hheader, hmoved, rfl⟩

theorem reject_spec {rejectionReason : Option String}
    (hreject : rejectTransferOrderApproval store toId approvalId rejectionReason = .ok after) :
    ∃ approval, store.approval toId approvalId = .ok approval ∧
      after = { store with
        transferOrderApprovals :=
          store.transferOrderApprovals.modify approvalId fun approval =>
            { approval with status := .rejected, rejectionReason } } := by
  obtain ⟨approval, happroval, hok⟩ := bind_eq_ok.mp hreject
  cases hok
  exact ⟨approval, happroval, rfl⟩

theorem shortClose_spec {toLineId : ℕ}
    (hshort : shortCloseToLine store toId toLineId = .ok after) :
    ∃ line header, store.transferOrderLines.get? toLineId = some line ∧
      line.toId = toId ∧ store.transferOrders.get? toId = some header ∧
      line.status ≠ .shortClosed ∧ .shortClosed ∈ lineTransitions line.status ∧
      after = (releaseInventoryAllocation store line.itemId header.sourceWarehouseId
        (line.committedQty - line.approvedQty)).setToLineStatus toLineId
          .shortClosed := by
  rw [shortCloseToLine] at hshort
  split at hshort
  · cases hshort
  next line hline =>
    split at hshort
    · cases hshort
    next htoId =>
      split at hshort
      · cases hshort
      next header hheader =>
        split at hshort
        · cases hshort
        next htransition =>
          cases hshort
          have hedge : .shortClosed ∈ lineTransitions line.status :=
            List.contains_iff_mem.mp (not_not.mp htransition)
          refine ⟨line, header, hline, not_not.mp htoId, hheader, ?_, hedge, rfl⟩
          intro hclosed
          rw [hclosed] at hedge
          cases hedge

theorem cancel_spec (hcancel : cancelTransferOrder store toId = .ok after) :
    ∃ header, store.transferOrders.get? toId = some header ∧
      header.status ≠ .cancelled ∧ .cancelled ∈ headerTransitions header.status ∧
      after = (releaseReservations store toId
        header.sourceWarehouseId).setToStatus toId .cancelled := by
  rw [cancelTransferOrder] at hcancel
  split at hcancel
  · cases hcancel
  next header hheader =>
    split at hcancel
    · cases hcancel
    next htransition =>
      dsimp only at hcancel
      split at hcancel
      · cases hcancel
      · cases hcancel
        have hedge : .cancelled ∈ headerTransitions header.status :=
          List.contains_iff_mem.mp (not_not.mp htransition)
        refine ⟨header, hheader, ?_, hedge, rfl⟩
        intro hcancelled
        rw [hcancelled] at hedge
        cases hedge

theorem length_resolveRows {records : List ImportRecord} {rowIndex : ℕ} {rows : List ImportRow}
    (hresolved : resolveRows store rowIndex records = (rows, [])) :
    rows.length = records.length := by
  induction records generalizing rowIndex rows with
  | nil =>
      cases hresolved
      rfl
  | cons record records ih =>
      simp only [resolveRows] at hresolved
      split at hresolved
      · cases hresolved
      next itemId _ =>
        obtain ⟨rfl, herrors⟩ := Prod.mk.inj hresolved
        rw [List.length_cons, List.length_cons,
          ih (Prod.ext rfl herrors)]

/-- An accepted import knows its source warehouse and all its items, and inserts the
order with the lines it reserved; if the order number was taken, the reservations are
gone. -/
theorem import_resolved {request : ImportRequest}
    (himport : importTransferOrder store request username = .ok (after, toId)) :
    ∃ header rows reserved, header.status = .open ∧
      resolveWarehouseId store request.sourceWarehouseCode =
        some header.sourceWarehouseId ∧
      resolveRows store 0 request.records = (rows, []) ∧
      reserved = reserveRows header.sourceWarehouseId store 1 (sortRows rows) ∧
      toId = store.transferOrders.next ∧
      ((store.toNumberTaken request.toNumber = false ∧
          after = insertLines store.transferOrders.next
            (reserved.1.insertHeader header) reserved.2) ∨
        (store.toNumberTaken request.toNumber = true ∧
          after = insertLines store.transferOrders.next
            (store.insertHeader header) reserved.2)) := by
  rw [importTransferOrder] at himport
  split at himport
  · cases himport
  split at himport
  · cases himport
  next sourceWarehouseId hsource =>
  split at himport
  · cases himport
  next destinationWarehouseId _ =>
  split at himport
  · cases himport
  next rows hresolved =>
  split at himport
  · cases himport
  next hdistinct =>
    let header (toNumber : String) : TransferOrder :=
      { toNumber, sourceWarehouseId, destinationWarehouseId, status := .open,
        createdBy := username, warehousesDistinct := hdistinct }
    dsimp only at himport
    split at himport
    next hfree =>
      cases himport
      exact ⟨header request.toNumber, rows, _, rfl, hsource, hresolved, rfl, rfl,
        .inl ⟨Bool.eq_false_iff.mpr hfree, rfl⟩⟩
    next htaken =>
      split at himport
      next =>
        cases himport
        exact ⟨header request.retryToNumber, rows, _, rfl, hsource, hresolved, rfl, rfl,
          .inr ⟨not_not.mp htaken, rfl⟩⟩
      next => cases himport

theorem import_spec {request : ImportRequest}
    (himport : importTransferOrder store request username = .ok (after, toId)) :
    ∃ header rows reserved, header.status = .open ∧
      rows.length = request.records.length ∧
      reserved = reserveRows header.sourceWarehouseId store 1 rows ∧
      ((store.toNumberTaken request.toNumber = false ∧
          after = insertLines store.transferOrders.next
            (reserved.1.insertHeader header) reserved.2) ∨
        (store.toNumberTaken request.toNumber = true ∧
          after = insertLines store.transferOrders.next
            (store.insertHeader header) reserved.2)) := by
  obtain ⟨header, rows, reserved, hopen, -, hresolved, hreserved, -, hafter⟩ :=
    import_resolved himport
  have hlength : (sortRows rows).length = request.records.length := by
    rw [sortRows, List.length_insertionSort]
    exact length_resolveRows hresolved
  exact ⟨header, sortRows rows, reserved, hopen, hlength, hreserved, hafter⟩

/-! ## Links between orders, lines and approvals -/

/-- Every line belongs to an order, and every approval was made of picked units of
lines of its order. -/
structure Links (orders : Table TransferOrder) (lines : Table TransferOrderLine)
    (approvals : Table TransferOrderApproval) : Prop where
  order : ∀ {toLineId line}, (toLineId, line) ∈ lines.entries →
    ∃ header, (line.toId, header) ∈ orders.entries
  snapshot : ∀ {approvalId approval}, (approvalId, approval) ∈ approvals.entries →
    ∀ snap ∈ approval.linesSnapshot, 0 < snap.pickedInSnapshot ∧
      ∃ line, (snap.toLineId, line) ∈ lines.entries ∧
        line.toId = approval.toId ∧ line.itemId = snap.itemId

abbrev Store.Linked (store : Store) : Prop :=
  Links store.transferOrders store.transferOrderLines store.transferOrderApprovals

namespace Links

variable {orders : Table TransferOrder} {lines : Table TransferOrderLine}
  {approvals : Table TransferOrderApproval}

theorem modifyOrder (hlinks : Links orders lines approvals) (toId : ℕ)
    (change : TransferOrder → TransferOrder) :
    Links (orders.modify toId change) lines approvals where
  order hline := by
    obtain ⟨header, hheader⟩ := hlinks.order hline
    exact ⟨_, (Table.mem_modify _).mpr ⟨header, hheader, rfl⟩⟩
  snapshot := hlinks.snapshot

theorem modifyLine (hlinks : Links orders lines approvals) {toLineId : ℕ}
    {change : TransferOrderLine → TransferOrderLine}
    (hchange : ∀ line, (toLineId, line) ∈ lines.entries →
      (change line).toId = line.toId ∧ (change line).itemId = line.itemId) :
    Links orders (lines.modify toLineId change) approvals where
  order hline := by
    obtain ⟨before, hbefore, rfl⟩ := (Table.mem_modify _).mp hline
    split
    next hkey =>
      subst hkey
      rw [(hchange before hbefore).1]
      exact hlinks.order hbefore
    next => exact hlinks.order hbefore
  snapshot happroval snap hsnap := by
    obtain ⟨hpos, line, hline, htoId, hitem⟩ := hlinks.snapshot happroval snap hsnap
    refine ⟨hpos, _, (Table.mem_modify _).mpr ⟨line, hline, rfl⟩, ?_⟩
    split
    next hkey =>
      obtain ⟨hkeepsTo, hkeepsItem⟩ := hchange line (hkey ▸ hline)
      exact ⟨hkeepsTo.trans htoId, hkeepsItem.trans hitem⟩
    next => exact ⟨htoId, hitem⟩

theorem modifyApproval (hlinks : Links orders lines approvals) (approvalId : ℕ)
    {change : TransferOrderApproval → TransferOrderApproval}
    (hchange : ∀ approval, (change approval).toId = approval.toId ∧
      (change approval).linesSnapshot = approval.linesSnapshot) :
    Links orders lines (approvals.modify approvalId change) where
  order := hlinks.order
  snapshot happroval snap hsnap := by
    obtain ⟨before, hbefore, rfl⟩ := (Table.mem_modify _).mp happroval
    split at hsnap
    · rw [if_pos ‹_›, (hchange before).1]
      rw [(hchange before).2] at hsnap
      exact hlinks.snapshot hbefore snap hsnap
    · rw [if_neg ‹_›]
      exact hlinks.snapshot hbefore snap hsnap

theorem insertApproval (hlinks : Links orders lines approvals)
    {approval : TransferOrderApproval}
    (hsnapshot : ∀ snap ∈ approval.linesSnapshot, 0 < snap.pickedInSnapshot ∧
      ∃ line, (snap.toLineId, line) ∈ lines.entries ∧
        line.toId = approval.toId ∧ line.itemId = snap.itemId) :
    Links orders lines (approvals.insert approval) where
  order := hlinks.order
  snapshot happroval snap hsnap := by
    rcases (Table.mem_insert _).mp happroval with hold | hnew
    · exact hlinks.snapshot hold snap hsnap
    · obtain ⟨-, rfl⟩ := Prod.mk.inj hnew
      exact hsnapshot snap hsnap

theorem insertOrder (hlinks : Links orders lines approvals) (header : TransferOrder) :
    Links (orders.insert header) lines approvals where
  order hline := by
    obtain ⟨found, hfound⟩ := hlinks.order hline
    exact ⟨found, (Table.mem_insert _).mpr (.inl hfound)⟩
  snapshot := hlinks.snapshot

theorem insertLine (hlinks : Links orders lines approvals)
    {line : TransferOrderLine}
    (horder : ∃ header, (line.toId, header) ∈ orders.entries) :
    Links orders (lines.insert line) approvals where
  order hline := by
    rcases (Table.mem_insert _).mp hline with hold | hnew
    · exact hlinks.order hold
    · obtain ⟨-, rfl⟩ := Prod.mk.inj hnew
      exact horder
  snapshot happroval snap hsnap := by
    obtain ⟨hpos, found, hfound, hsame⟩ := hlinks.snapshot happroval snap hsnap
    exact ⟨hpos, found, (Table.mem_insert _).mpr (.inl hfound), hsame⟩

end Links

theorem mem_submission {snap : SnapshotLine} :
    snap ∈ store.submission toId ↔
      ∃ line, (snap.toLineId, line) ∈ store.transferOrderLines.entries ∧
        line.toId = toId ∧ line.approvedQty < line.pickedQty ∧
        snap.itemId = line.itemId ∧
        snap.pickedInSnapshot = line.pickedQty - line.approvedQty := by
  simp only [Store.submission, Store.toLines, List.mem_map, List.mem_filter,
    mem_orderBy, Table.mem_select, beq_iff_eq, decide_eq_true_eq, Prod.exists]
  constructor
  · rintro ⟨toLineId, line, ⟨⟨hline, htoId⟩, hlt⟩, rfl⟩
    exact ⟨line, hline, htoId, hlt, rfl, rfl⟩
  · rintro ⟨line, hline, htoId, hlt, hitem, hquantity⟩
    refine ⟨snap.toLineId, line, ⟨⟨hline, htoId⟩, hlt⟩, ?_⟩
    rw [← hitem, ← hquantity]

theorem releaseReservations_spec (store : Store) (toId sourceWarehouseId : ℕ) :
    ∃ inventory, releaseReservations store toId sourceWarehouseId =
      { store with inventory } := by
  rw [releaseReservations]
  generalize store.releasableLines toId = lines
  induction lines generalizing store with
  | nil => exact ⟨store.inventory, rfl⟩
  | cons line lines ih =>
      obtain ⟨inventory, hrest⟩ := ih (releaseInventoryAllocation store line.2.itemId
        sourceWarehouseId (line.2.committedQty - line.2.approvedQty))
      exact ⟨inventory, by rw [List.foldl_cons, hrest]; rfl⟩

theorem shifts_shipUnits (now : ℕ) : Shifts (shipUnits now) (-1) where
  itemId _ _ := rfl
  warehouseId _ _ := rfl
  quantityAllocated quantity row := by
    rw [shipUnits]
    ring

theorem decrementSourceInventory_spec {itemId warehouseId : ℕ} {quantity : ℤ}
    (hquantity : 0 ≤ quantity)
    (hdecrement : decrementSourceInventory store itemId warehouseId quantity = .ok after) :
    ∃ inventory, after = { store with inventory } ∧
      ∀ itemId' warehouseId', after.warehouseAllocated itemId' warehouseId' =
        store.warehouseAllocated itemId' warehouseId' +
          if itemId' = itemId ∧ warehouseId' = warehouseId then -quantity else 0 := by
  rw [decrementSourceInventory] at hdecrement
  split at hdecrement
  · cases hdecrement
  next hfunded =>
    cases hdecrement
    refine ⟨_, rfl, fun itemId' warehouseId' => ?_⟩
    have hsupply : supply (takes quantity
        (store.reservedBy itemId warehouseId Inventory.shippable)) = quantity :=
      le_antisymm (Walk.supply_takes_le hquantity _) (not_lt.mp hfunded)
    have hdraws : ∀ draw ∈ (takes quantity (store.reservedBy itemId warehouseId
        Inventory.shippable)).filter (fun draw => draw.2 != 0),
        ∃ row, (draw.1, row) ∈ store.inventory.entries ∧
          row.inWarehouse itemId warehouseId = true := by
      intro draw hdraw
      refine takes_select_inWarehouse Inventory.shippable (fun row hrow => ?_)
        (List.mem_of_mem_filter hdraw)
      exact (Bool.and_eq_true_iff.mp hrow).1
    rw [warehouseAllocated_applyTakes (shifts_shipUnits store.now) hdraws,
      Walk.supply_filter_ne_zero, hsupply, neg_one_mul]

theorem approveSnapshotLine_spec {header : TransferOrder} {snap : SnapshotLine}
    {line : TransferOrderLine} (hquantity : 0 < snap.pickedInSnapshot)
    (hline : (snap.toLineId, line) ∈ store.transferOrderLines.entries)
    (happrove : approveSnapshotLine header store snap = .ok after) :
    ∃ hcheck inventory,
      after = { store with
        inventory
        transferOrderLines := store.transferOrderLines.modify snap.toLineId fun _ =>
          line.approve snap.pickedInSnapshot hquantity hcheck } ∧
      ∀ itemId warehouseId, after.warehouseAllocated itemId warehouseId =
        store.warehouseAllocated itemId warehouseId +
          if itemId = snap.itemId ∧ warehouseId = header.sourceWarehouseId then
            -snap.pickedInSnapshot
          else 0 := by
  rw [approveSnapshotLine, dif_neg (not_le.mpr hquantity)] at happrove
  obtain ⟨counted, hcounted, happrove⟩ := bind_eq_ok.mp happrove
  obtain ⟨shipped, hshipped, hcredit⟩ := bind_eq_ok.mp happrove
  rw [approveLineQty, (Table.get?_eq_some _).mpr hline] at hcounted
  dsimp only at hcounted
  split at hcounted
  next hcheck =>
    rw [creditDestinationInventory] at hcredit
    split at hcredit
    · cases hcredit
    next binId _ =>
      cases hcounted
      cases hcredit
      obtain ⟨inventory, rfl, hallocated⟩ :=
        decrementSourceInventory_spec (le_of_lt hquantity) hshipped
      obtain ⟨credited, hcredited⟩ := addInventory_spec _ snap.itemId binId
        header.destinationWarehouseId snap.pickedInSnapshot none
      refine ⟨hcheck, credited, hcredited, fun itemId warehouseId => ?_⟩
      rw [addInventory_warehouseAllocated, hallocated]
      rfl
  next => cases hcounted

/-! ## Every call keeps the links -/

section Linked

variable {store after : Store}

theorem submitPicks_linked {toId : ℕ} {username : String} {submitted : Submitted}
    (hlinked : store.Linked)
    (hsubmit : submitPicks store toId username = .ok (after, submitted)) :
    after.Linked := by
  obtain ⟨header, _, _, _, rfl⟩ := submitPicks_spec hsubmit
  simp only [Store.Linked, Store.setToStatus]
  apply Links.modifyOrder
  apply Links.insertApproval hlinked
  intro snap hsnap
  obtain ⟨line, hline, htoId, hlt, hitem, hquantity⟩ := mem_submission.mp hsnap
  refine ⟨?_, line, hline, htoId, hitem.symm⟩
  omega

theorem trySubmitPicks_linked (username : String) (toId : ℕ)
    (hlinked : store.Linked) : (trySubmitPicks username store toId).Linked := by
  rw [trySubmitPicks]
  split
  · exact hlinked
  next submitted summary hsubmit => exact submitPicks_linked hlinked hsubmit

theorem insertLines_linked {toId : ℕ} {lines : List LineInsert}
    (horder : ∃ header, (toId, header) ∈ store.transferOrders.entries)
    (hlinked : store.Linked) : (insertLines toId store lines).Linked := by
  induction lines generalizing store with
  | nil => exact hlinked
  | cons line lines ih =>
      rw [insertLines, List.foldl_cons]
      exact ih horder (hlinked.insertLine horder)

theorem reserveRows_spec (warehouseId : ℕ) (store : Store) (lineNumber : ℤ)
    (rows : List ImportRow) :
    ∃ inventory, (reserveRows warehouseId store lineNumber rows).1 =
      { store with inventory } := by
  induction rows generalizing store lineNumber with
  | nil => exact ⟨store.inventory, rfl⟩
  | cons row rows ih =>
      obtain ⟨inventory, hrest⟩ :=
        ih (reserveRow store warehouseId lineNumber row).1 (lineNumber + 1)
      exact ⟨inventory, by rw [reserveRows, hrest]; rfl⟩

theorem approveSnapshotLine_linked {header : TransferOrder} {snap : SnapshotLine}
    {approvalId : ℕ} {approval : TransferOrderApproval}
    (happroval : (approvalId, approval) ∈ store.transferOrderApprovals.entries)
    (hsnap : snap ∈ approval.linesSnapshot) (hlinked : store.Linked)
    (happrove : approveSnapshotLine header store snap = .ok after) :
    after.Linked ∧ after.transferOrderApprovals = store.transferOrderApprovals := by
  obtain ⟨hquantity, line, hline, -⟩ := hlinked.snapshot happroval snap hsnap
  obtain ⟨hcheck, inventory, rfl, -⟩ :=
    approveSnapshotLine_spec hquantity hline happrove
  refine ⟨?_, rfl⟩
  simp only [Store.Linked]
  apply Links.modifyLine hlinked
  intro found hfound
  have hsame := store.transferOrderLines.row_unique hline hfound
  subst hsame
  exact ⟨rfl, rfl⟩

theorem applyToCall_linked {call : ToCall} (hlinked : store.Linked)
    (hcall : applyToCall store call = some after) : after.Linked := by
  cases call with
  | importOrder request username =>
      obtain ⟨⟨imported, toId⟩, himport, rfl⟩ := Option.map_eq_some_iff.mp hcall
      obtain ⟨header, rows, reserved, -, -, rfl, ⟨-, rfl⟩ | ⟨-, rfl⟩⟩ :=
        import_spec (toOption_eq_some.mp himport)
      · obtain ⟨inventory, hreserved⟩ :=
          reserveRows_spec header.sourceWarehouseId store 1 rows
        rw [hreserved]
        exact insertLines_linked ⟨header, (Table.mem_insert _).mpr (.inr rfl)⟩
          (hlinked.insertOrder header)
      · exact insertLines_linked ⟨header, (Table.mem_insert _).mpr (.inr rfl)⟩
          (hlinked.insertOrder header)
  | startToPicking toId username =>
      obtain ⟨⟨started, batchId⟩, hstart, rfl⟩ := Option.map_eq_some_iff.mp hcall
      obtain ⟨_, _, rfl⟩ := startToPicking_spec (toOption_eq_some.mp hstart)
      exact hlinked
  | confirmPick pickTaskId scannedBarcode quantityPicked =>
      rw [applyToCall] at hcall
      split at hcall
      next htransfer =>
        obtain ⟨toId, toLineId, line, hdelta, hcap, _, hline, -, -, rfl⟩ :=
          confirmPick_transfer_spec htransfer (toOption_eq_some.mp hcall)
        simp only [Store.Linked, maybePromoteHeaderToPartiallyPicked]
        apply Links.modifyOrder
        apply Links.modifyLine hlinked
        intro found hfound
        have hsame := Table.row_unique _ hfound ((Table.get?_eq_some _).mp hline)
        subst hsame
        exact ⟨rfl, rfl⟩
      next => cases hcall
  | submitPicks toId username =>
      obtain ⟨⟨submitted, summary⟩, hsubmit, rfl⟩ := Option.map_eq_some_iff.mp hcall
      exact submitPicks_linked hlinked (toOption_eq_some.mp hsubmit)
  | completeBatch batchId username sourceTxnId =>
      obtain ⟨pickBatches, salesOrders, pickConfirmed, rfl⟩ :=
        completeBatch_transfer_spec (toOption_eq_some.mp hcall)
      exact foldl_invariant Store.Linked (fun state toId hstate =>
        trySubmitPicks_linked username toId hstate) _ hlinked
  | approve toId approvalId username =>
      obtain ⟨approval, header, moved, happroval, -, hmoved, rfl⟩ :=
        approve_spec (toOption_eq_some.mp hcall)
      obtain ⟨hget, -, -⟩ := approval_spec happroval
      obtain ⟨hmovedLinked, -⟩ := foldlM_invariant
        (fun state => state.Linked ∧
          state.transferOrderApprovals = store.transferOrderApprovals)
        (fun hmem hstate hstep => by
          obtain ⟨hstateLinked, hsame⟩ := hstate
          obtain ⟨hlinked', hsame'⟩ := approveSnapshotLine_linked
            (hsame ▸ (Table.get?_eq_some _).mp hget)
            ((List.mem_insertionSort _).mp hmem) hstateLinked hstep
          exact ⟨hlinked', hsame'.trans hsame⟩) hmoved ⟨hlinked, rfl⟩
      have happroved : Links moved.transferOrders moved.transferOrderLines
          (moved.transferOrderApprovals.modify approvalId fun approval =>
            { approval with status := .approved, approvedBy := some username }) :=
        hmovedLinked.modifyApproval approvalId fun approval => ⟨rfl, rfl⟩
      rw [closeIfDone]
      split
      · exact happroved.modifyOrder toId fun header =>
          { header with status := .closed }
      · exact happroved
  | reject toId approvalId rejectionReason =>
      obtain ⟨approval, -, rfl⟩ := reject_spec (toOption_eq_some.mp hcall)
      simp only [Store.Linked]
      apply Links.modifyApproval hlinked
      exact fun approval => ⟨rfl, rfl⟩
  | shortClose toId toLineId =>
      obtain ⟨line, header, _, _, _, _, _, rfl⟩ :=
        shortClose_spec (toOption_eq_some.mp hcall)
      simp only [Store.Linked, Store.setToLineStatus, releaseInventoryAllocation]
      apply Links.modifyLine hlinked
      exact fun line _ => ⟨rfl, rfl⟩
  | cancel toId =>
      obtain ⟨header, _, _, _, rfl⟩ := cancel_spec (toOption_eq_some.mp hcall)
      obtain ⟨inventory, hreleased⟩ :=
        releaseReservations_spec store toId header.sourceWarehouseId
      rw [hreleased]
      exact hlinked.modifyOrder toId fun header =>
        { header with status := .cancelled }

end Linked

def Store.WithoutTransfers (store : Store) : Prop :=
  store.transferOrders.entries = [] ∧ store.transferOrderLines.entries = [] ∧
    store.transferOrderApprovals.entries = []

theorem linked_of_withoutTransfers (hnone : store.WithoutTransfers) :
    store.Linked := by
  obtain ⟨-, hlines, happrovals⟩ := hnone
  constructor
  · intro toLineId line hline
    rw [hlines] at hline
    cases hline
  · intro approvalId approval happroval
    rw [happrovals] at happroval
    cases happroval

/-! ## Two small warehouses -/

/-- Ten units in the source warehouse, four of them reserved by other callers, and
a staging bin in the destination. -/
def twoWarehouses : Store where
  warehouses := .ofRows [⟨"SRC", true⟩, ⟨"DST", true⟩]
  items := .ofRows [{ sku := "A", upc := some "1", barcodeAliases := [] }]
  bins := .ofRows
    [{ warehouseId := 1, binCode := "P1", binType := .pickable, pickSequence := 1 },
     { warehouseId := 2, binCode := "S1", binType := .staging, pickSequence := 1 }]
  inventory := .ofRows
    [{ itemId := 1, binId := 1, warehouseId := 1, quantityOnHand := 10,
       quantityAllocated := 4, lotNumber := none, updatedAt := 0 }]

def threeUnits : ImportRequest where
  sourceWarehouseCode := "SRC"
  destinationWarehouseCode := "DST"
  records := [⟨"A", 3, by decide⟩]
  toNumber := "TO-1"
  retryToNumber := "TO-2"

end SentryWms
