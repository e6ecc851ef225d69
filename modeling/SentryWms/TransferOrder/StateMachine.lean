import SentryWms.TransferOrder.Reservation
import SentryWms.TransferOrder.Submission

/-!
# The state machines of a transfer order

`_HEADER_TRANSITIONS` and `_LINE_TRANSITIONS` are consulted by the cancel and the
short close only. What the other calls write follows the tables as long as no
line is picked in one scan, no short-closed line is approved, and no approval
closes its order.
-/

namespace SentryWms

open Relational Transition

/-! ## Recorded changes -/

/-- The store with the status changes that led to it. -/
structure ToHistory where
  store : Store
  headerChanges : List (ToStatus × ToStatus) := []
  lineChanges : List (ToLineStatus × ToLineStatus) := []

/-- An accepted call, with the changes it makes. -/
def applyRecorded (history : ToHistory) (call : ToCall) : Option ToHistory :=
  (applyToCall history.store call).map fun after =>
    { store := after
      headerChanges := history.headerChanges ++
        Table.changes TransferOrder.status history.store.transferOrders
          after.transferOrders
      lineChanges := history.lineChanges ++
        Table.changes TransferOrderLine.status history.store.transferOrderLines
          after.transferOrderLines }

/-- Every recorded change is an edge of the tables. -/
structure ToHistory.FollowsTables (history : ToHistory) : Prop where
  headers : ∀ change ∈ history.headerChanges, change.2 ∈ headerTransitions change.1
  lines : ∀ change ∈ history.lineChanges, change.2 ∈ lineTransitions change.1

/-! ## When a call follows the tables -/

/-- The snapshot leaves the line as it is, or approves it from `PICKED`. -/
def TransferOrderLine.approvable (line : TransferOrderLine)
    (quantity : ℤ) : Bool :=
  line.status == .picked || line.status == .approved ||
    decide (line.approvedQty + quantity < line.committedQty)

def TransferOrderLine.keepsOpen (line : TransferOrderLine) (quantity : ℤ) : Bool :=
  line.status != .shortClosed && line.status != .approved &&
    decide (line.approvedQty + quantity < line.committedQty)

/-- Another submission of the order waits for an admin. -/
def Store.otherPending (store : Store) (toId approvalId : ℕ) : Bool :=
  store.transferOrderApprovals.entries.any fun entry =>
    entry.1 != approvalId && entry.2.toId == toId && entry.2.status == .pending

def Store.mayClose (store : Store) (toId approvalId : ℕ) : Bool :=
  ((store.transferOrders.get? toId).all fun header =>
      header.status == .approved || header.status == .closed) ||
    store.otherPending toId approvalId ||
    store.transferOrderLines.entries.any fun entry =>
      entry.2.toId == toId &&
        entry.2.keepsOpen (snapshotQty (store.snapshot approvalId) entry.1)

/-- The statuses that a call writes are edges of the tables. -/
def Store.followsTables (store : Store) : ToCall → Bool
  | .confirmPick pickTaskId _ quantityPicked =>
      (store.taskLine pickTaskId).all fun line =>
        line.status != .pending ||
          decide (line.pickedQty + quantityPicked < line.committedQty)
  | .approve toId approvalId _ =>
      store.mayClose toId approvalId &&
        (store.snapshot approvalId).all fun snap =>
          (store.transferOrderLines.get? snap.toLineId).all fun line =>
            line.approvable (snapshotQty (store.snapshot approvalId) snap.toLineId)
  | _ => true

/-! ## Every guarded call follows the tables -/

/-- The order keeps its status or follows the table. -/
def HeaderFollows (header after : TransferOrder) : Prop :=
  after.status = header.status ∨ after.status ∈ headerTransitions header.status

/-- The line keeps its status or follows the table. -/
def LineFollows (line after : TransferOrderLine) : Prop :=
  after.status = line.status ∨ after.status ∈ lineTransitions line.status

theorem HeaderFollows.refl (header : TransferOrder) : HeaderFollows header header :=
  .inl rfl

theorem LineFollows.refl (line : TransferOrderLine) : LineFollows line line :=
  .inl rfl

/-- Every order and every line of the first store follows the tables to the second. -/
structure StoreFollows (store after : Store) : Prop where
  orders : Table.Persists HeaderFollows store.transferOrders after.transferOrders
  lines : Table.Persists LineFollows store.transferOrderLines after.transferOrderLines

def StaysSubmittable (header after : TransferOrder) : Prop :=
  after = header ∨
    ((header.status = .partiallyPicked ∨ header.status = .awaitingApproval) ∧
      (after.status = .partiallyPicked ∨ after.status = .awaitingApproval))

theorem StaysSubmittable.trans {header middle after : TransferOrder}
    (hfirst : StaysSubmittable header middle) (hnext : StaysSubmittable middle after) :
    StaysSubmittable header after := by
  rcases hfirst with rfl | ⟨hbefore, hmiddle⟩
  · exact hnext
  · rcases hnext with rfl | ⟨-, hafter⟩
    · exact .inr ⟨hbefore, hmiddle⟩
    · exact .inr ⟨hbefore, hafter⟩

theorem StaysSubmittable.follows {header after : TransferOrder}
    (hstays : StaysSubmittable header after) : HeaderFollows header after := by
  rcases hstays with rfl | ⟨hbefore | hbefore, hafter | hafter⟩
  · exact .refl _
  all_goals
    rw [HeaderFollows, hbefore, hafter]
    decide

section Steps

variable {store after : Store}

variable {toId : ℕ}

theorem submitPicks_stays {username : String} {submitted : Submitted}
    (hsubmit : submitPicks store toId username = .ok (after, submitted)) :
    Table.Persists StaysSubmittable store.transferOrders after.transferOrders ∧
      after.transferOrderLines = store.transferOrderLines := by
  obtain ⟨header, hheader, hstatus, -, rfl⟩ := submitPicks_spec hsubmit
  refine ⟨Table.Persists.modify (fun _ => .inl rfl) fun row hrow => .inr ⟨?_, ?_⟩, rfl⟩
  · have hsame := Table.row_unique _ hrow ((Table.get?_eq_some _).mp hheader)
    rwa [hsame]
  · simp only [Store.submittedStatus]
    split
    · exact .inr rfl
    · exact .inl rfl

theorem trySubmitPicks_stays (username : String) (store : Store) (toId : ℕ) :
    Table.Persists StaysSubmittable store.transferOrders
        (trySubmitPicks username store toId).transferOrders ∧
      (trySubmitPicks username store toId).transferOrderLines =
        store.transferOrderLines := by
  rw [trySubmitPicks]
  split
  · exact ⟨Table.Persists.refl (fun _ => .inl rfl) _, rfl⟩
  next submitted summary hsubmit => exact submitPicks_stays hsubmit

/-- A scan that does not complete a line from `PENDING` moves it along an edge. -/
theorem pick_follows {line : TransferOrderLine} {delta : ℤ} (hdelta : 0 < delta)
    (hcap : line.pickedQty + delta ≤ line.committedQty)
    (hpickable : line.pickable = true)
    (hincomplete : line.status ≠ .pending ∨ line.pickedQty + delta < line.committedQty) :
    LineFollows line (line.pick delta hdelta hcap) := by
  have hstatus : line.status = .pending ∨ line.status = .partiallyPicked := by
    simpa [TransferOrderLine.pickable] using hpickable
  rw [LineFollows, TransferOrderLine.pick]
  dsimp only
  rcases hstatus with hpending | hpicking
  · have hshort : line.pickedQty + delta ≠ line.committedQty := by
      rcases hincomplete with hnot | hlt
      · exact absurd hpending hnot
      · exact ne_of_lt hlt
    rw [if_neg hshort, hpending]
    decide
  · rw [hpicking]
    split <;> decide

theorem counts_follows {line line' : TransferOrderLine} {quantity : ℤ}
    (hcounts : Counts line line' quantity)
    (happrovable : line.approvable quantity = true) : LineFollows line line' := by
  simp only [TransferOrderLine.approvable, Bool.or_eq_true, beq_iff_eq,
    decide_eq_true_eq] at happrovable
  rcases happrovable with (hpicked | happroved) | hshort
  · rcases hcounts.status with hstatus | hstatus
    · exact .inl hstatus
    · right
      rw [hstatus, hpicked]
      decide
  · left
    rcases hcounts.status with hstatus | hstatus
    · exact hstatus
    · rw [hstatus, happroved]
  · left
    rcases hcounts.reached with hstatus | hfull
    · exact hstatus
    · have hquantity := hcounts.approvedQty
      have hcommitted := hcounts.committedQty
      omega

theorem evaluateToClosure_eq_false {approvalId : ℕ} {approval : TransferOrderApproval}
    {inventory : Table Inventory} {change : ℕ → TransferOrderLine → TransferOrderLine}
    (decide' : TransferOrderApproval → TransferOrderApproval)
    (hsnapshot : store.snapshot approvalId = approval.linesSnapshot)
    (hcounts : ∀ toLineId line, (toLineId, line) ∈ store.transferOrderLines.entries → Counts line (change toLineId line) (snapshotQty approval.linesSnapshot toLineId))
    (hopen : store.otherPending toId approvalId = true ∨ ∃ entry ∈ store.transferOrderLines.entries, entry.2.toId = toId ∧ entry.2.keepsOpen (snapshotQty (store.snapshot approvalId) entry.1) = true) :
    ¬ evaluateToClosure
      { store with
        inventory
        transferOrderLines := store.transferOrderLines.mapRows change
        transferOrderApprovals :=
          store.transferOrderApprovals.modify approvalId decide' } toId = true := by
  rw [evaluateToClosure_iff]
  rintro ⟨-, hsettled, hnone⟩
  rcases hopen with hother | ⟨⟨toLineId, line⟩, hline, htoId, hkeeps⟩
  · obtain ⟨⟨otherId, other⟩, hmem, hcond⟩ := List.any_eq_true.mp hother
    simp only [Bool.and_eq_true, bne_iff_ne, beq_iff_eq] at hcond
    obtain ⟨⟨hne, htoId⟩, hpending⟩ := hcond
    refine hasPending_eq_false.mp hnone otherId other ?_ htoId hpending
    exact (Table.mem_modify _).mpr ⟨other, hmem, if_neg hne⟩
  · have hcount := hcounts toLineId line hline
    simp only [TransferOrderLine.keepsOpen, Bool.and_eq_true, bne_iff_ne,
      decide_eq_true_eq, hsnapshot] at hkeeps
    obtain ⟨⟨hshort, happroved⟩, hlt⟩ := hkeeps
    have hstatus : (change toLineId line).status = line.status := by
      rcases hcount.reached with hkept | hfull
      · exact hkept
      · have hquantity := hcount.approvedQty
        have hcommitted := hcount.committedQty
        omega
    have hsettles := hsettled toLineId _
      ((Table.mem_mapRows _).mpr ⟨line, hline, rfl⟩) (hcount.toId.trans htoId)
    rw [TransferOrderLine.settled, hstatus] at hsettles
    simp [hshort, happroved] at hsettles

theorem confirmPick_follows {pickTaskId : ℕ} {scannedBarcode : String}
    {quantityPicked : ℤ} (htransfer : store.transferTask pickTaskId = true)
    (hconfirm : confirmPick store pickTaskId scannedBarcode quantityPicked =
      .ok after)
    (hguard : store.followsTables
      (.confirmPick pickTaskId scannedBarcode quantityPicked) = true) :
    StoreFollows store after := by
  obtain ⟨toId, toLineId, line, hdelta, hcap, _, hline, htaskLine, hpickable, rfl⟩ :=
    confirmPick_transfer_spec htransfer hconfirm
  rw [Store.followsTables, htaskLine, Option.all_some, Bool.or_eq_true, bne_iff_ne,
    decide_eq_true_eq] at hguard
  constructor
  · apply Table.Persists.modify HeaderFollows.refl
    intro header _
    rw [HeaderFollows]
    split
    next hopen =>
      rw [hopen]
      exact .inr List.mem_cons_self
    next => exact .inl rfl
  · apply Table.Persists.modify LineFollows.refl
    intro row hrow
    obtain rfl := Table.row_unique _ hrow ((Table.get?_eq_some _).mp hline)
    exact pick_follows hdelta hcap hpickable hguard

theorem approve_follows {approvalId : ℕ} {username : String} (hlinked : store.Linked)
    (happrove : approveTransferOrderApproval store toId approvalId username = .ok after)
    (hguard : store.followsTables (.approve toId approvalId username) = true) :
    StoreFollows store after := by
  obtain ⟨approval, inventory, change, happroval, -, -, hcounts, rfl⟩ :=
    approve_counts happrove hlinked
  have hsnapshot : store.snapshot approvalId = approval.linesSnapshot := by
    rw [Store.snapshot, (Table.get?_eq_some _).mpr happroval]
    rfl
  rw [Store.followsTables, Bool.and_eq_true, List.all_eq_true] at hguard
  obtain ⟨hmayClose, happrovable⟩ := hguard
  have hlines : Table.Persists LineFollows store.transferOrderLines
      (store.transferOrderLines.mapRows change) := by
    apply Table.Persists.mapRows
    intro toLineId line hline
    have hcount := hcounts toLineId line hline
    by_cases hsnap : ∃ snap ∈ approval.linesSnapshot, snap.toLineId = toLineId
    · obtain ⟨snap, hmem, rfl⟩ := hsnap
      have hallowed := happrovable snap (hsnapshot ▸ hmem)
      rw [(Table.get?_eq_some _).mpr hline, Option.all_some, hsnapshot] at hallowed
      exact counts_follows hcount hallowed
    · have hnothing : snapshotQty approval.linesSnapshot toLineId = 0 :=
        snapshotQty_eq_zero fun snap hmem hsame => hsnap ⟨snap, hmem, hsame⟩
      rw [hcount.same hnothing]
      exact .refl line
  rw [closeIfDone]
  split
  next hcloses =>
    refine ⟨Table.Persists.modify HeaderFollows.refl fun header hheader => ?_, hlines⟩
    simp only [Store.mayClose, Bool.or_eq_true] at hmayClose
    rcases hmayClose with (hstatus | hother) | hkeeps
    · rw [(Table.get?_eq_some _).mpr hheader, Option.all_some, Bool.or_eq_true,
        beq_iff_eq, beq_iff_eq] at hstatus
      rw [HeaderFollows]
      rcases hstatus with happroved | hclosed
      · rw [happroved]
        exact .inr List.mem_cons_self
      · exact .inl hclosed.symm
    · exact absurd hcloses
        (evaluateToClosure_eq_false _ hsnapshot hcounts (.inl hother))
    · obtain ⟨entry, hentry, hcond⟩ := List.any_eq_true.mp hkeeps
      rw [Bool.and_eq_true, beq_iff_eq] at hcond
      exact absurd hcloses
        (evaluateToClosure_eq_false _ hsnapshot hcounts (.inr ⟨entry, hentry, hcond⟩))
  next => exact ⟨Table.Persists.refl HeaderFollows.refl _, hlines⟩

theorem insertOrder_follows (header : TransferOrder) (toId : ℕ)
    (lines : List LineInsert) :
    StoreFollows store (insertLines toId (store.insertHeader header) lines) where
  orders := by
    obtain ⟨transferOrderLines, hinserted⟩ :=
      insertLines_spec toId (store.insertHeader header) lines
    rw [hinserted]
    exact Table.Persists.insert HeaderFollows.refl header
  lines := by
    refine foldl_invariant (fun state : Store =>
      Table.Persists LineFollows store.transferOrderLines state.transferOrderLines)
      (fun state line hstate => ?_) lines (Table.Persists.refl LineFollows.refl _)
    intro key row hrow
    obtain ⟨row', hrow', hfollows⟩ := hstate hrow
    exact ⟨row', (Table.mem_insert _).mpr (.inl hrow'), hfollows⟩

theorem applyToCall_follows {call : ToCall} (hlinked : store.Linked)
    (hguard : store.followsTables call = true)
    (hcall : applyToCall store call = some after) : StoreFollows store after := by
  have hsameOrders : Table.Persists HeaderFollows store.transferOrders
      store.transferOrders := Table.Persists.refl HeaderFollows.refl _
  have hsameLines : Table.Persists LineFollows store.transferOrderLines
      store.transferOrderLines := Table.Persists.refl LineFollows.refl _
  cases call with
  | importOrder request username =>
      obtain ⟨⟨imported, toId⟩, himport, rfl⟩ := Option.map_eq_some_iff.mp hcall
      obtain ⟨header, rows, reserved, -, -, rfl, ⟨-, rfl⟩ | ⟨-, rfl⟩⟩ :=
        import_spec (toOption_eq_some.mp himport)
      · obtain ⟨inventory, hreserved⟩ :=
          reserveRows_spec header.sourceWarehouseId store 1 rows
        rw [hreserved]
        have hinserted : StoreFollows { store with inventory } _ :=
          insertOrder_follows header store.transferOrders.next
            (reserveRows header.sourceWarehouseId store 1 rows).2
        exact ⟨hinserted.orders, hinserted.lines⟩
      · exact insertOrder_follows header _ _
  | startToPicking toId username =>
      obtain ⟨⟨started, batchId⟩, hstart, rfl⟩ := Option.map_eq_some_iff.mp hcall
      obtain ⟨_, _, rfl⟩ := startToPicking_spec (toOption_eq_some.mp hstart)
      exact ⟨hsameOrders, hsameLines⟩
  | confirmPick pickTaskId scannedBarcode quantityPicked =>
      rw [applyToCall] at hcall
      split at hcall
      next htransfer =>
        exact confirmPick_follows htransfer (toOption_eq_some.mp hcall) hguard
      next => cases hcall
  | submitPicks toId username =>
      obtain ⟨⟨submitted, summary⟩, hsubmit, rfl⟩ := Option.map_eq_some_iff.mp hcall
      obtain ⟨horders, hlines⟩ := submitPicks_stays (toOption_eq_some.mp hsubmit)
      refine ⟨horders.mono StaysSubmittable.follows, ?_⟩
      rw [hlines]
      exact hsameLines
  | completeBatch batchId username sourceTxnId =>
      obtain ⟨pickBatches, salesOrders, pickConfirmed, rfl⟩ :=
        completeBatch_transfer_spec (toOption_eq_some.mp hcall)
      let start : Store := { store with pickBatches, salesOrders, pickConfirmed }
      have hstart : Table.Persists StaysSubmittable store.transferOrders
            start.transferOrders ∧ start.transferOrderLines = store.transferOrderLines :=
        ⟨Table.Persists.refl (fun _ => .inl rfl) _, rfl⟩
      obtain ⟨horders, hlines⟩ := foldl_invariant
        (fun state : Store =>
          Table.Persists StaysSubmittable store.transferOrders state.transferOrders ∧
            state.transferOrderLines = store.transferOrderLines)
        (fun state toId hstate => by
          obtain ⟨horders, hlines⟩ := trySubmitPicks_stays username state toId
          exact ⟨hstate.1.trans StaysSubmittable.trans horders, hlines.trans hstate.2⟩)
        (store.batchTransferOrders batchId) hstart
      refine ⟨horders.mono StaysSubmittable.follows, ?_⟩
      rw [hlines]
      exact hsameLines
  | approve toId approvalId username =>
      exact approve_follows hlinked (toOption_eq_some.mp hcall) hguard
  | reject toId approvalId rejectionReason =>
      obtain ⟨approval, -, rfl⟩ := reject_spec (toOption_eq_some.mp hcall)
      exact ⟨hsameOrders, hsameLines⟩
  | shortClose toId toLineId =>
      obtain ⟨line, header, hline, -, -, -, hedge, rfl⟩ :=
        shortClose_spec (toOption_eq_some.mp hcall)
      refine ⟨hsameOrders, Table.Persists.modify LineFollows.refl fun row hrow => ?_⟩
      obtain rfl := Table.row_unique _ hrow ((Table.get?_eq_some _).mp hline)
      exact .inr hedge
  | cancel toId =>
      obtain ⟨header, hheader, -, hedge, rfl⟩ := cancel_spec (toOption_eq_some.mp hcall)
      obtain ⟨inventory, hreleased⟩ :=
        releaseReservations_spec store toId header.sourceWarehouseId
      rw [hreleased]
      refine ⟨Table.Persists.modify HeaderFollows.refl fun row hrow => ?_, hsameLines⟩
      obtain rfl := Table.row_unique _ hrow ((Table.get?_eq_some _).mp hheader)
      exact .inr hedge

end Steps

/-! ## Runs -/

theorem StoreFollows.headers {store after : Store} (hfollows : StoreFollows store after)
    {change : ToStatus × ToStatus}
    (hchange : change ∈ Table.changes TransferOrder.status store.transferOrders
      after.transferOrders) : change.2 ∈ headerTransitions change.1 := by
  obtain ⟨header, header', hheader, hne, rfl⟩ := hfollows.orders.changes hchange
  exact hheader.resolve_left hne

theorem StoreFollows.lineChanges {store after : Store}
    (hfollows : StoreFollows store after) {change : ToLineStatus × ToLineStatus}
    (hchange : change ∈ Table.changes TransferOrderLine.status store.transferOrderLines
      after.transferOrderLines) : change.2 ∈ lineTransitions change.1 := by
  obtain ⟨line, line', hline, hne, rfl⟩ := hfollows.lines.changes hchange
  exact hline.resolve_left hne

/-- In every run whose calls meet the condition, every status change of an order or
a line is an edge of the tables. -/
theorem followsTables_of_run {store : Store} {last : ToHistory} {calls : List ToCall}
    (hnone : store.WithoutTransfers)
    (hrun : Run applyRecorded (fun history call => history.store.followsTables call = true)
      { store } calls last) : last.FollowsTables := by
  have hinvariant := hrun.invariant
    (fun history => history.store.Linked ∧ history.FollowsTables)
    (fun {history call next} hhistory hguard hstep => by
      obtain ⟨after, hcall, rfl⟩ := Option.map_eq_some_iff.mp hstep
      obtain ⟨hlinked, hheaders, hlines⟩ := hhistory
      have hfollows := applyToCall_follows hlinked hguard hcall
      refine ⟨applyToCall_linked hlinked hcall, ?_, ?_⟩
      · intro change hchange
        rcases List.mem_append.mp hchange with hold | hnew
        · exact hheaders change hold
        · exact hfollows.headers hnew
      · intro change hchange
        rcases List.mem_append.mp hchange with hold | hnew
        · exact hlines change hold
        · exact hfollows.lineChanges hnew)
    ⟨linked_of_withoutTransfers hnone, List.forall_mem_nil _, List.forall_mem_nil _⟩
  exact hinvariant.2

/-- Two of three units are picked, submitted and approved; the last one is picked,
submitted and rejected, and its line is short-closed. -/
def pickedInTwoScans : List ToCall :=
  [.importOrder threeUnits "ann", .startToPicking 1 "ben", .confirmPick 1 "1" 2,
   .submitPicks 1 "ben", .approve 1 1 "cat", .startToPicking 1 "ben",
   .confirmPick 2 "1" 1, .submitPicks 1 "ben", .reject 1 2 none, .shortClose 1 1]

/-- The changes of that run. -/
def twoScansHistory : ToHistory :=
  (execute applyRecorded (fun history call => history.store.followsTables call = true)
    { store := twoWarehouses } pickedInTwoScans).getD { store := twoWarehouses }

theorem followsTables_twoScansHistory :
    twoScansHistory.headerChanges =
        [(.open, .partiallyPicked), (.partiallyPicked, .awaitingApproval)] ∧
      twoScansHistory.lineChanges =
        [(.pending, .partiallyPicked), (.partiallyPicked, .picked),
          (.picked, .shortClosed)] ∧
      twoScansHistory.FollowsTables := by
  have hrun : Run applyRecorded
      (fun history call => history.store.followsTables call = true)
      { store := twoWarehouses } pickedInTwoScans twoScansHistory := Run.ofExecute rfl
  exact ⟨rfl, rfl, followsTables_of_run ⟨rfl, rfl, rfl⟩ hrun⟩

def oneScanHistory : ToHistory :=
  (execute applyRecorded (fun _ _ => True) { store := twoWarehouses }
    [.importOrder threeUnits "ann", .startToPicking 1 "ben", .confirmPick 1 "1" 3,
      .submitPicks 1 "ben", .approve 1 1 "cat"]).getD { store := twoWarehouses }

/-- The shortest way of a transfer order to its end leaves both tables. -/
theorem oneScan_leaves_tables :
    Run applyRecorded (fun _ _ => True) { store := twoWarehouses }
        [.importOrder threeUnits "ann", .startToPicking 1 "ben", .confirmPick 1 "1" 3,
          .submitPicks 1 "ben", .approve 1 1 "cat"] oneScanHistory ∧
      twoWarehouses.transferOrders.entries = [] ∧
      ((.awaitingApproval, .closed) ∈ oneScanHistory.headerChanges ∧
        .closed ∉ headerTransitions .awaitingApproval) ∧
      (.pending, .picked) ∈ oneScanHistory.lineChanges ∧
        .picked ∉ lineTransitions .pending :=
  ⟨Run.ofExecute rfl, rfl, ⟨by decide, by decide⟩, by decide, by decide⟩

end SentryWms
