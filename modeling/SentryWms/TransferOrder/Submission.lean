import SentryWms.TransferOrder.Runs

/-!
# Every picked unit is submitted once

A submission puts the picked and not yet approved units of an order before an
admin. As long as no order is submitted again while one of its approvals is
pending, pending and approved units of a line stay within its picked units, every
pending approval can be accepted, and an order that is picked can be closed.
-/

namespace SentryWms

open Relational Transition

/-! ## What is pending -/

def snapshotQty (snaps : List SnapshotLine) (toLineId : ℕ) : ℤ :=
  (snaps.map fun snap =>
    if snap.toLineId = toLineId then snap.pickedInSnapshot else 0).sum

/-- The sum of `picked_in_snapshot` over the pending approvals of a line. -/
def pendingQty (approvals : Table TransferOrderApproval) (toLineId : ℕ) : ℤ :=
  approvals.total fun _ approval =>
    if approval.status = .pending then snapshotQty approval.linesSnapshot toLineId
    else 0

def Store.hasPending (store : Store) (toId : ℕ) : Bool :=
  store.transferOrderApprovals.entries.any fun entry =>
    entry.2.toId == toId && entry.2.status == .pending

def Store.isSubmittable (store : Store) (toId : ℕ) : Bool :=
  (store.transferOrders.get? toId).any fun header =>
    header.status == .partiallyPicked || header.status == .awaitingApproval

/-- The calls on transfer orders that are picked, with the check that the code
leaves out: no order is submitted while one of its approvals is pending. -/
def Store.submitsOnce (store : Store) : ToCall → Bool
  | .submitPicks toId _ => !store.isSubmittable toId || !store.hasPending toId
  | .completeBatch batchId _ _ =>
      (store.batchTransferOrders batchId).all fun toId =>
        !store.isSubmittable toId || !store.hasPending toId
  | .confirmPick _ _ _ | .approve _ _ _ | .reject _ _ _ => true
  | .importOrder _ _ | .startToPicking _ _ | .shortClose _ _ | .cancel _ => false

/-- Transfer orders before their first submission: nothing is approved yet, and a
line for which nothing was committed is short-closed. -/
structure Store.Unsubmitted (store : Store) : Prop where
  noApprovals : store.transferOrderApprovals.entries = []
  nothingApproved : ∀ {toLineId line},
    (toLineId, line) ∈ store.transferOrderLines.entries →
    line.approvedQty = 0 ∧ line.status ≠ .approved ∧
      (line.committedQty = 0 → line.status = .shortClosed)

/-- What holds in every state of a run that submits once. -/
structure Store.Submitted (store : Store) : Prop where
  linked : store.Linked
  /-- Pending and approved units are picked. -/
  counted : ∀ {toLineId line},
    (toLineId, line) ∈ store.transferOrderLines.entries →
    pendingQty store.transferOrderApprovals toLineId + line.approvedQty ≤
      line.pickedQty
  /-- At most one approval of an order is pending. -/
  single : ∀ {approvalId approval approvalId' approval'},
    (approvalId, approval) ∈ store.transferOrderApprovals.entries →
    (approvalId', approval') ∈ store.transferOrderApprovals.entries →
    approval.status = .pending → approval'.status = .pending →
    approval.toId = approval'.toId → approvalId = approvalId'
  nonempty : ∀ {approvalId approval},
    (approvalId, approval) ∈ store.transferOrderApprovals.entries →
    approval.linesSnapshot ≠ []
  /-- A line that is approved in full is in a final status. -/
  final : ∀ {toLineId line},
    (toLineId, line) ∈ store.transferOrderLines.entries →
    line.approvedQty = line.committedQty →
    line.status = .approved ∨ line.status = .shortClosed
  /-- An order that is not closed has a line that is not settled, unless all its
  lines are short-closed. -/
  unsettled : ∀ {toId header},
    (toId, header) ∈ store.transferOrders.entries → header.status ≠ .closed →
    (∃ toLineId line, (toLineId, line) ∈ store.transferOrderLines.entries ∧
      line.toId = toId ∧ line.status ≠ .shortClosed) →
    ∃ toLineId line, (toLineId, line) ∈ store.transferOrderLines.entries ∧
      line.toId = toId ∧ line.settled = false

/-! ## Sums over snapshots -/

variable {snaps : List SnapshotLine}

theorem snapshotQty_nonneg (hsnaps : ∀ snap ∈ snaps, 0 < snap.pickedInSnapshot)
    (toLineId : ℕ) :
    0 ≤ snapshotQty snaps toLineId := by
  apply List.sum_nonneg
  intro quantity hquantity
  obtain ⟨snap, hsnap, rfl⟩ := List.mem_map.mp hquantity
  split
  · exact le_of_lt (hsnaps snap hsnap)
  · exact le_refl 0

theorem snapshotQty_cons (snap : SnapshotLine) (snaps : List SnapshotLine)
    (toLineId : ℕ) : snapshotQty (snap :: snaps) toLineId =
      (if snap.toLineId = toLineId then snap.pickedInSnapshot else 0) +
        snapshotQty snaps toLineId := by
  rw [snapshotQty, List.map_cons, List.sum_cons, snapshotQty]

variable {toLineId : ℕ}

theorem snapshotQty_eq_zero (hsnaps : ∀ snap ∈ snaps, snap.toLineId ≠ toLineId) :
    snapshotQty snaps toLineId = 0 := by
  apply List.sum_eq_zero
  intro quantity hquantity
  obtain ⟨snap, hsnap, rfl⟩ := List.mem_map.mp hquantity
  exact if_neg (hsnaps snap hsnap)

theorem snapshotQty_perm {snaps' : List SnapshotLine} (hperm : snaps.Perm snaps')
    (toLineId : ℕ) :
    snapshotQty snaps toLineId = snapshotQty snaps' toLineId :=
  (hperm.map _).sum_eq

theorem sortSnapshot_perm (snaps : List SnapshotLine) :
    (sortSnapshot snaps).Perm snaps :=
  List.perm_insertionSort _ snaps

variable {store : Store}

/-- A submission counts the picked and not yet approved units of each line. -/
theorem snapshotQty_submission {toId : ℕ} {line : TransferOrderLine}
    (hline : (toLineId, line) ∈ store.transferOrderLines.entries) :
    snapshotQty (store.submission toId) toLineId =
      if line.toId = toId then line.pickedQty - line.approvedQty else 0 := by
  have happroved := line.approvedLePicked
  calc snapshotQty (store.submission toId) toLineId
      = (((store.transferOrderLines.select fun line => line.toId == toId).filter
          fun entry => decide (entry.2.approvedQty < entry.2.pickedQty)).map
            fun entry => if entry.1 = toLineId then
              entry.2.pickedQty - entry.2.approvedQty else 0).sum := by
        rw [snapshotQty, Store.submission, Store.toLines, List.map_map]
        exact (((orderBy_perm _ _).filter _).map _).sum_eq
    _ = store.transferOrderLines.total fun key line =>
          if line.toId == toId && decide (line.approvedQty < line.pickedQty) then
            if key = toLineId then line.pickedQty - line.approvedQty else 0
          else 0 := by
        rw [← Table.total_select, Table.select, Table.select, List.filter_filter]
        simp only [Bool.and_comm]
    _ = store.transferOrderLines.total fun key line =>
          if key = toLineId then
            if line.toId = toId then line.pickedQty - line.approvedQty else 0
          else 0 := by
        apply Table.total_congr
        intro key found hfound
        have hle := found.approvedLePicked
        by_cases hkey : key = toLineId
        · by_cases htoId : found.toId = toId
          · by_cases hlt : found.approvedQty < found.pickedQty
            · simp [hkey, htoId, hlt]
            · simp [hkey, htoId, hlt]
              omega
          · simp [hkey, htoId]
        · simp [hkey]
    _ = _ := store.transferOrderLines.total_single hline
        fun _ line => if line.toId = toId then line.pickedQty - line.approvedQty else 0

theorem pendingQty_eq_zero (hlinked : store.Linked) {line : TransferOrderLine}
    (hline : (toLineId, line) ∈ store.transferOrderLines.entries)
    (hnone : store.hasPending line.toId = false) :
    pendingQty store.transferOrderApprovals toLineId = 0 := by
  apply Table.total_eq_zero
  intro approvalId approval happroval
  split
  next hpending =>
    apply snapshotQty_eq_zero
    rintro snap hsnap rfl
    obtain ⟨-, found, hfound, htoId, -⟩ := hlinked.snapshot happroval snap hsnap
    have hsame := Table.row_unique _ hline hfound
    subst hsame
    have hother := List.any_eq_false.mp hnone (approvalId, approval) happroval
    simp [htoId, hpending] at hother
  next => rfl

/-! ## What an approval does to the lines -/

/-- The line with some more approved units. -/
structure Counts (line line' : TransferOrderLine) (quantity : ℤ) : Prop where
  nonneg : 0 ≤ quantity
  toId : line'.toId = line.toId
  itemId : line'.itemId = line.itemId
  pickedQty : line'.pickedQty = line.pickedQty
  committedQty : line'.committedQty = line.committedQty
  approvedQty : line'.approvedQty = line.approvedQty + quantity
  status : line'.status = line.status ∨ line'.status = .approved
  reached : line'.status = line.status ∨ line'.approvedQty = line'.committedQty
  same : quantity = 0 → line' = line
  final : (line.approvedQty = line.committedQty →
      line.status = .approved ∨ line.status = .shortClosed) →
    line'.approvedQty = line'.committedQty →
      line'.status = .approved ∨ line'.status = .shortClosed

namespace Counts

theorem refl (line : TransferOrderLine) : Counts line line 0 where
  nonneg := le_refl 0
  toId := rfl
  itemId := rfl
  pickedQty := rfl
  committedQty := rfl
  approvedQty := (add_zero _).symm
  status := .inl rfl
  reached := .inl rfl
  same _ := rfl
  final hfinal := hfinal

theorem trans {line line' line'' : TransferOrderLine} {quantity quantity' : ℤ}
    (hfirst : Counts line line' quantity) (hnext : Counts line' line'' quantity') :
    Counts line line'' (quantity + quantity') where
  nonneg := add_nonneg hfirst.nonneg hnext.nonneg
  toId := hnext.toId.trans hfirst.toId
  itemId := hnext.itemId.trans hfirst.itemId
  pickedQty := hnext.pickedQty.trans hfirst.pickedQty
  committedQty := hnext.committedQty.trans hfirst.committedQty
  approvedQty := by rw [hnext.approvedQty, hfirst.approvedQty, add_assoc]
  status := by
    rcases hnext.status with hstatus | hstatus
    · rw [hstatus]
      exact hfirst.status
    · exact .inr hstatus
  reached := by
    rcases hnext.reached with hkept | hfull
    · rcases hfirst.reached with hkept' | hfull
      · exact .inl (hkept.trans hkept')
      · right
        have hnonneg := hnext.nonneg
        have happroved := hnext.approvedQty
        have hcommitted := hnext.committedQty
        have hpicked := line''.approvedLePicked
        have hcap := line''.pickedLeCommitted
        omega
    · exact .inr hfull
  same hzero := by
    have hquantity := hfirst.nonneg
    have hquantity' := hnext.nonneg
    rw [hnext.same (by omega), hfirst.same (by omega)]
  final hfinal := hnext.final (hfirst.final hfinal)

theorem approve {line : TransferOrderLine} {quantity : ℤ} (hquantity : 0 < quantity)
    (hcheck : line.approvedQty + quantity ≤ line.pickedQty) :
    Counts line (line.approve quantity hquantity hcheck) quantity where
  nonneg := le_of_lt hquantity
  toId := rfl
  itemId := rfl
  pickedQty := rfl
  committedQty := rfl
  approvedQty := rfl
  status := by
    rw [TransferOrderLine.approve]
    dsimp only
    split
    · exact .inr rfl
    · exact .inl rfl
  reached := by
    rw [TransferOrderLine.approve]
    dsimp only
    split
    next hfull => exact .inr (hfull.1.trans hfull.2)
    next => exact .inl rfl
  same hzero := by omega
  final _ hfull := by
    have hpicked := line.pickedLeCommitted
    have happroved : line.approvedQty + quantity = line.committedQty := hfull
    left
    exact if_pos ⟨by omega, by omega⟩

end Counts

theorem approveFold_spec {header : TransferOrder} {moved : Store}
    (hsnaps : ∀ snap ∈ snaps, 0 < snap.pickedInSnapshot ∧ ∃ line, (snap.toLineId, line) ∈ store.transferOrderLines.entries)
    (hfold : snaps.foldlM (approveSnapshotLine header) store = .ok moved) :
    ∃ inventory change,
      moved = { store with
        inventory
        transferOrderLines := store.transferOrderLines.mapRows change } ∧
      ∀ toLineId line, (toLineId, line) ∈ store.transferOrderLines.entries →
        Counts line (change toLineId line) (snapshotQty snaps toLineId) := by
  induction snaps generalizing store with
  | nil =>
      cases hfold
      refine ⟨moved.inventory, fun _ line => line, ?_, fun _ line _ => Counts.refl line⟩
      rw [Table.mapRows_id]
  | cons snap snaps ih =>
      rw [List.foldlM_cons] at hfold
      obtain ⟨state, hstate, hrest⟩ := bind_eq_ok.mp hfold
      obtain ⟨hquantity, line, hline⟩ := hsnaps snap List.mem_cons_self
      obtain ⟨hcheck, inventory, rfl, -⟩ :=
        approveSnapshotLine_spec hquantity hline hstate
      have hsnaps' : ∀ snap' ∈ snaps, 0 < snap'.pickedInSnapshot ∧
          ∃ line', (snap'.toLineId, line') ∈
            (store.transferOrderLines.modify snap.toLineId fun _ =>
              line.approve snap.pickedInSnapshot hquantity hcheck).entries := by
        intro snap' hsnap'
        obtain ⟨hquantity', line', hline'⟩ :=
          hsnaps snap' (List.mem_cons_of_mem _ hsnap')
        exact ⟨hquantity', _, (Table.mem_modify _).mpr ⟨line', hline', rfl⟩⟩
      obtain ⟨inventory', change, rfl, hcounts⟩ := ih hsnaps' hrest
      refine ⟨inventory', fun key found => change key
        (if key = snap.toLineId then
          line.approve snap.pickedInSnapshot hquantity hcheck else found), ?_, ?_⟩
      · rw [Table.modify, Table.mapRows_mapRows]
      · intro toLineId found hfound
        rw [snapshotQty_cons]
        refine Counts.trans ?_ (hcounts toLineId _
          ((Table.mem_modify _).mpr ⟨found, hfound, rfl⟩))
        by_cases hkey : toLineId = snap.toLineId
        · subst hkey
          have hsame := Table.row_unique _ hline hfound
          subst hsame
          rw [if_pos rfl, if_pos rfl]
          exact Counts.approve hquantity hcheck
        · rw [if_neg hkey, if_neg (Ne.symm hkey)]
          exact Counts.refl found

/-! ## Every call keeps what is submitted -/

section Steps

variable {store after : Store}

theorem submitted_of_unsubmitted (hlinked : store.Linked)
    (hunsubmitted : store.Unsubmitted) : store.Submitted where
  linked := hlinked
  counted := by
    intro toLineId line hline
    have hpicked := line.approvedLePicked
    rw [pendingQty, Table.total, hunsubmitted.noApprovals, List.map_nil, List.sum_nil]
    omega
  single := by
    intro _ _ _ _ happroval
    rw [hunsubmitted.noApprovals] at happroval
    cases happroval
  nonempty := by
    intro _ _ happroval
    rw [hunsubmitted.noApprovals] at happroval
    cases happroval
  final := by
    intro toLineId line hline hfull
    obtain ⟨hnone, -, hclosed⟩ := hunsubmitted.nothingApproved hline
    exact .inr (hclosed (hfull.symm.trans hnone))
  unsettled := by
    rintro toId header - - ⟨toLineId, line, hline, htoId, hopen⟩
    obtain ⟨-, happroved, -⟩ := hunsubmitted.nothingApproved hline
    refine ⟨toLineId, line, hline, htoId, ?_⟩
    simp [TransferOrderLine.settled, hopen, happroved]

theorem confirmPick_submitted {pickTaskId : ℕ} {scannedBarcode : String}
    {quantityPicked : ℤ} (htransfer : store.transferTask pickTaskId = true)
    (hconfirm : confirmPick store pickTaskId scannedBarcode quantityPicked =
      .ok after) (hlinked : after.Linked) (hsubmitted : store.Submitted) :
    after.Submitted := by
  obtain ⟨toId, toLineId, line, hdelta, hcap, pickTasks, hget, -, -, rfl⟩ :=
    confirmPick_transfer_spec htransfer hconfirm
  have hline := (Table.get?_eq_some _).mp hget
  have happroved := line.approvedLePicked
  have hpickedQty : (line.pick quantityPicked hdelta hcap).pickedQty =
      line.pickedQty + quantityPicked := rfl
  refine ⟨hlinked, ?_, hsubmitted.single, hsubmitted.nonempty, ?_, ?_⟩
  · intro toLineId' line' hline'
    obtain ⟨before, hbefore, rfl⟩ := (Table.mem_modify _).mp hline'
    have hcounted := hsubmitted.counted hbefore
    split
    next hkey =>
      subst hkey
      have hsame := Table.row_unique _ hline hbefore
      subst hsame
      refine le_trans hcounted ?_
      rw [hpickedQty]
      omega
    next => exact hcounted
  · intro toLineId' line' hline' hfull
    obtain ⟨before, hbefore, rfl⟩ := (Table.mem_modify _).mp hline'
    split at hfull
    next hkey =>
      have happrovedQty : (line.pick quantityPicked hdelta hcap).approvedQty =
          line.approvedQty := rfl
      have hcommitted : (line.pick quantityPicked hdelta hcap).committedQty =
          line.committedQty := rfl
      omega
    next hkey =>
      rw [if_neg hkey]
      exact hsubmitted.final hbefore hfull
  · intro toId' header' hheader' hopen hexists
    obtain ⟨before, hbefore, rfl⟩ := (Table.mem_modify _).mp hheader'
    have hbeforeOpen : before.status ≠ .closed := by
      intro hclosed
      refine hopen ?_
      split
      · rw [if_neg (by rw [hclosed]; decide)]
        exact hclosed
      · exact hclosed
    by_cases hmine : line.toId = toId'
    · refine ⟨toLineId, _, (Table.mem_modify _).mpr ⟨line, hline, if_pos rfl⟩, hmine, ?_⟩
      have hstatus : (line.pick quantityPicked hdelta hcap).status = .picked ∨
          (line.pick quantityPicked hdelta hcap).status = .partiallyPicked := by
        rw [TransferOrderLine.pick]
        dsimp only
        split
        · exact .inl rfl
        · exact .inr rfl
      rcases hstatus with hstatus | hstatus <;>
        simp [TransferOrderLine.settled, hstatus]
    · have hexists' : ∃ toLineId line,
          (toLineId, line) ∈ store.transferOrderLines.entries ∧
            line.toId = toId' ∧ line.status ≠ .shortClosed := by
        obtain ⟨key, found, hfound, htoId, hstatus⟩ := hexists
        obtain ⟨first, hfirst, rfl⟩ := (Table.mem_modify _).mp hfound
        split at htoId
        next => exact absurd htoId hmine
        next hkey =>
          rw [if_neg hkey] at hstatus
          exact ⟨key, first, hfirst, htoId, hstatus⟩
      obtain ⟨key, found, hfound, htoId, hsettled⟩ :=
        hsubmitted.unsettled hbefore hbeforeOpen hexists'
      refine ⟨key, found, (Table.mem_modify _).mpr ⟨found, hfound, if_neg ?_⟩, htoId,
        hsettled⟩
      rintro rfl
      have hsame := Table.row_unique _ hline hfound
      subst hsame
      exact hmine htoId

variable {toId : ℕ}

theorem hasPending_eq_false :
    store.hasPending toId = false ↔
      ∀ approvalId approval,
        (approvalId, approval) ∈ store.transferOrderApprovals.entries →
        approval.toId = toId → approval.status ≠ .pending := by
  simp only [Store.hasPending, List.any_eq_false, Bool.and_eq_true, beq_iff_eq,
    not_and, Prod.forall]

theorem unsettled_setToStatus {status : ToStatus} (hopen : store.isSubmittable toId = true)
    (hsubmitted : store.Submitted) {toId' : ℕ} {header' : TransferOrder}
    (hheader' : (toId', header') ∈ (store.setToStatus toId status).transferOrders.entries)
    (hstatus : header'.status ≠ .closed)
    (hexists : ∃ toLineId line, (toLineId, line) ∈ store.transferOrderLines.entries ∧ line.toId = toId' ∧ line.status ≠ .shortClosed) :
    ∃ toLineId line, (toLineId, line) ∈ store.transferOrderLines.entries ∧
      line.toId = toId' ∧ line.settled = false := by
  obtain ⟨before, hbefore, rfl⟩ := (Table.mem_modify _).mp hheader'
  apply hsubmitted.unsettled hbefore _ hexists
  split at hstatus
  next hkey =>
    subst hkey
    rw [Store.isSubmittable, (Table.get?_eq_some _).mpr hbefore] at hopen
    intro hclosed
    simp [hclosed] at hopen
  next => exact hstatus

variable {username : String}

theorem submitPicks_submitted {summary : Submitted}
    (hsubmit : submitPicks store toId username = .ok (after, summary))
    (hallowed : (!store.isSubmittable toId || !store.hasPending toId) = true)
    (hsubmitted : store.Submitted) : after.Submitted := by
  have hlinked := submitPicks_linked hsubmitted.linked hsubmit
  obtain ⟨header, hget, hstatus, hsubmission, rfl⟩ := submitPicks_spec hsubmit
  have hopen : store.isSubmittable toId = true := by
    rw [Store.isSubmittable, hget]
    simpa using hstatus
  have hnone : store.hasPending toId = false := by
    simpa [hopen] using hallowed
  refine ⟨hlinked, ?_, ?_, ?_, hsubmitted.final,
    fun hheader hstatus hexists => unsettled_setToStatus hopen hsubmitted hheader
      hstatus hexists⟩
  · intro toLineId line hline
    replace hline : (toLineId, line) ∈ store.transferOrderLines.entries := hline
    have hcounted := hsubmitted.counted hline
    have hpending : pendingQty (store.transferOrderApprovals.insert
        { toId, submittedBy := username, approvedBy := none, rejectionReason := none,
          linesSnapshot := store.submission toId, status := .pending }) toLineId =
        pendingQty store.transferOrderApprovals toLineId +
          if line.toId = toId then line.pickedQty - line.approvedQty else 0 := by
      rw [pendingQty, Table.total_insert, if_pos rfl, snapshotQty_submission hline]
      rfl
    refine le_trans (le_of_eq (congrArg (· + line.approvedQty) hpending)) ?_
    split
    next hmine =>
      subst hmine
      rw [pendingQty_eq_zero hsubmitted.linked hline hnone]
      omega
    next => omega
  · intro approvalId approval approvalId' approval' happroval happroval' hpending
      hpending' htoId
    rcases (Table.mem_insert _).mp happroval with hold | hnew
    · rcases (Table.mem_insert _).mp happroval' with hold' | hnew'
      · exact hsubmitted.single hold hold' hpending hpending' htoId
      · obtain ⟨-, rfl⟩ := Prod.mk.inj hnew'
        exact absurd hpending (hasPending_eq_false.mp hnone _ _ hold htoId)
    · rcases (Table.mem_insert _).mp happroval' with hold' | hnew'
      · obtain ⟨-, rfl⟩ := Prod.mk.inj hnew
        exact absurd hpending' (hasPending_eq_false.mp hnone _ _ hold' htoId.symm)
      · rw [(Prod.mk.inj hnew).1, (Prod.mk.inj hnew').1]
  · intro approvalId approval happroval
    rcases (Table.mem_insert _).mp happroval with hold | hnew
    · exact hsubmitted.nonempty hold
    · obtain ⟨-, rfl⟩ := Prod.mk.inj hnew
      exact hsubmission

theorem trySubmitPicks_other (store : Store) (username : String) {toId' : ℕ}
    (hother : toId' ≠ toId) :
    (trySubmitPicks username store toId).isSubmittable toId' =
        store.isSubmittable toId' ∧
      (trySubmitPicks username store toId).hasPending toId' =
        store.hasPending toId' := by
  rw [trySubmitPicks]
  split
  · exact ⟨rfl, rfl⟩
  next submitted summary hsubmit =>
    obtain ⟨header, -, -, -, rfl⟩ := submitPicks_spec hsubmit
    constructor
    · rw [Store.isSubmittable, Store.isSubmittable, Store.setToStatus, Table.modify,
        Table.get?_mapRows]
      simp [hother]
    · simp [Store.hasPending, Store.setToStatus, Table.insert, Ne.symm hother]

theorem trySubmitPicks_submitted
    (hallowed : (!store.isSubmittable toId || !store.hasPending toId) = true)
    (hsubmitted : store.Submitted) :
    (trySubmitPicks username store toId).Submitted := by
  rw [trySubmitPicks]
  split
  · exact hsubmitted
  next submitted summary hsubmit =>
    exact submitPicks_submitted hsubmit hallowed hsubmitted

theorem submitOrders_submitted {orders : List ℕ} (hnodup : orders.Nodup)
    (hallowed : ∀ toId ∈ orders, (!store.isSubmittable toId || !store.hasPending toId) = true)
    (hsubmitted : store.Submitted) :
    (orders.foldl (trySubmitPicks username) store).Submitted := by
  induction orders generalizing store with
  | nil => exact hsubmitted
  | cons toId orders ih =>
      rw [List.nodup_cons] at hnodup
      apply ih hnodup.2
      · intro toId' htoId'
        have hother : toId' ≠ toId := fun heq => hnodup.1 (heq ▸ htoId')
        obtain ⟨hsubmittable, hpending⟩ :=
          trySubmitPicks_other store username hother
        rw [hsubmittable, hpending]
        exact hallowed toId' (List.mem_cons_of_mem _ htoId')
      · exact trySubmitPicks_submitted (hallowed toId List.mem_cons_self) hsubmitted

variable {approvalId : ℕ}

theorem pendingQty_modify {approvals : Table TransferOrderApproval}
    {approval : TransferOrderApproval} (happroval : (approvalId, approval) ∈ approvals.entries)
    (hpending : approval.status = .pending)
    {change : TransferOrderApproval → TransferOrderApproval}
    (hdecided : (change approval).status ≠ .pending) (toLineId : ℕ) :
    pendingQty (approvals.modify approvalId change) toLineId =
      pendingQty approvals toLineId - snapshotQty approval.linesSnapshot toLineId := by
  rw [pendingQty, approvals.total_modify happroval, if_neg hdecided, if_pos hpending,
    pendingQty]
  ring

theorem single_modify (change : TransferOrderApproval → TransferOrderApproval)
    (hkeeps : ∀ approval, (change approval).toId = approval.toId ∧ (change approval).linesSnapshot = approval.linesSnapshot ∧ (change approval).status ≠ .pending)
    (hsubmitted : store.Submitted) {approvalId₁ approvalId₂ : ℕ}
    {approval₁ approval₂ : TransferOrderApproval}
    (happroval₁ : (approvalId₁, approval₁) ∈ (store.transferOrderApprovals.modify approvalId change).entries)
    (happroval₂ : (approvalId₂, approval₂) ∈ (store.transferOrderApprovals.modify approvalId change).entries)
    (hpending₁ : approval₁.status = .pending) (hpending₂ : approval₂.status = .pending)
    (htoId : approval₁.toId = approval₂.toId) : approvalId₁ = approvalId₂ := by
  have hbefore : ∀ {key row}, (key, row) ∈
      (store.transferOrderApprovals.modify approvalId change).entries →
      row.status = .pending → (key, row) ∈ store.transferOrderApprovals.entries := by
    intro key row hrow hpending
    obtain ⟨before, hbefore, rfl⟩ := (Table.mem_modify _).mp hrow
    split at hpending
    next => exact absurd hpending (hkeeps before).2.2
    next hkey =>
      rw [if_neg hkey]
      exact hbefore
  exact hsubmitted.single (hbefore happroval₁ hpending₁) (hbefore happroval₂ hpending₂)
    hpending₁ hpending₂ htoId

theorem nonempty_modify (change : TransferOrderApproval → TransferOrderApproval)
    (hkeeps : ∀ approval, (change approval).linesSnapshot = approval.linesSnapshot)
    (hsubmitted : store.Submitted) {approvalId' : ℕ} {approval' : TransferOrderApproval}
    (happroval' : (approvalId', approval') ∈ (store.transferOrderApprovals.modify approvalId change).entries) :
    approval'.linesSnapshot ≠ [] := by
  obtain ⟨before, hbefore, rfl⟩ := (Table.mem_modify _).mp happroval'
  split
  · rw [hkeeps]
    exact hsubmitted.nonempty hbefore
  · exact hsubmitted.nonempty hbefore

theorem reject_submitted {rejectionReason : Option String}
    (hreject : rejectTransferOrderApproval store toId approvalId rejectionReason = .ok after)
    (hlinked : after.Linked) (hsubmitted : store.Submitted) :
    after.Submitted := by
  obtain ⟨approval, happroval, rfl⟩ := reject_spec hreject
  obtain ⟨hget, -, hpending⟩ := approval_spec happroval
  rw [Table.get?_eq_some] at hget
  let rejected (approval : TransferOrderApproval) : TransferOrderApproval :=
    { approval with status := .rejected, rejectionReason }
  have hdecided : ∀ approval, (rejected approval).status ≠ .pending :=
    fun approval => by simp [rejected]
  refine ⟨hlinked, ?_, single_modify rejected
    (fun approval => ⟨rfl, rfl, hdecided approval⟩) hsubmitted,
    nonempty_modify rejected (fun _ => rfl) hsubmitted, hsubmitted.final,
    hsubmitted.unsettled⟩
  intro toLineId line hline
  have hcounted := hsubmitted.counted hline
  have hsnapshot : 0 ≤ snapshotQty approval.linesSnapshot toLineId :=
    snapshotQty_nonneg (fun snap hsnap =>
      (hsubmitted.linked.snapshot hget snap hsnap).1) toLineId
  have hleft := pendingQty_modify hget hpending (hdecided approval) toLineId
  refine le_trans (le_of_eq (congrArg (· + line.approvedQty) hleft)) ?_
  omega

theorem evaluateToClosure_iff :
    evaluateToClosure store toId = true ↔
      (∃ toLineId line, (toLineId, line) ∈ store.transferOrderLines.entries ∧
        line.toId = toId) ∧
      (∀ toLineId line, (toLineId, line) ∈ store.transferOrderLines.entries →
        line.toId = toId → line.settled = true) ∧
      store.hasPending toId = false := by
  rw [evaluateToClosure, hasPending_eq_false]
  simp only [Bool.and_eq_true, Bool.not_eq_true', List.isEmpty_eq_false_iff_exists_mem,
    List.all_eq_true, List.isEmpty_iff, Table.select, List.mem_filter,
    List.filter_eq_nil_iff, beq_iff_eq, Prod.exists, Prod.forall, not_and, and_imp,
    and_assoc]

theorem decided_modify {approval : TransferOrderApproval}
    (change : TransferOrderApproval → TransferOrderApproval)
    (hdecided : ∀ approval, (change approval).status ≠ .pending)
    (happroval : (approvalId, approval) ∈ store.transferOrderApprovals.entries)
    (hpending : approval.status = .pending) (hsubmitted : store.Submitted) :
    ∀ approvalId' approval', (approvalId', approval') ∈
      (store.transferOrderApprovals.modify approvalId change).entries →
      approval'.toId = approval.toId → approval'.status ≠ .pending := by
  intro approvalId' approval' happroval' htoId
  obtain ⟨before, hbefore, rfl⟩ := (Table.mem_modify _).mp happroval'
  split at htoId
  next hkey =>
    rw [if_pos hkey]
    exact hdecided before
  next hkey =>
    rw [if_neg hkey]
    intro hother
    exact hkey (hsubmitted.single hbefore happroval hother hpending htoId)

theorem approve_counts
    (happrove : approveTransferOrderApproval store toId approvalId username = .ok after)
    (hlinked : store.Linked) :
    ∃ approval inventory change,
      (approvalId, approval) ∈ store.transferOrderApprovals.entries ∧
      approval.toId = toId ∧ approval.status = .pending ∧
      (∀ toLineId line, (toLineId, line) ∈ store.transferOrderLines.entries →
        Counts line (change toLineId line)
          (snapshotQty approval.linesSnapshot toLineId)) ∧
      after = closeIfDone
        { store with
          inventory
          transferOrderLines := store.transferOrderLines.mapRows change
          transferOrderApprovals :=
            store.transferOrderApprovals.modify approvalId fun approval =>
              { approval with status := .approved, approvedBy := some username } }
        toId := by
  obtain ⟨approval, header, moved, happroval, -, hfold, rfl⟩ := approve_spec happrove
  obtain ⟨hget, htoId, hpending⟩ := approval_spec happroval
  rw [Table.get?_eq_some] at hget
  have hsnaps : ∀ snap ∈ sortSnapshot approval.linesSnapshot,
      0 < snap.pickedInSnapshot ∧
        ∃ line, (snap.toLineId, line) ∈ store.transferOrderLines.entries := by
    intro snap hsnap
    obtain ⟨hquantity, line, hline, -⟩ :=
      hlinked.snapshot hget snap ((sortSnapshot_perm _).mem_iff.mp hsnap)
    exact ⟨hquantity, line, hline⟩
  obtain ⟨inventory, change, rfl, hcounts⟩ := approveFold_spec hsnaps hfold
  refine ⟨approval, inventory, change, hget, htoId, hpending, ?_, rfl⟩
  intro toLineId line hline
  rw [← snapshotQty_perm (sortSnapshot_perm approval.linesSnapshot)]
  exact hcounts toLineId line hline

theorem approve_submitted
    (happrove : approveTransferOrderApproval store toId approvalId username = .ok after)
    (hlinked : after.Linked) (hsubmitted : store.Submitted) :
    after.Submitted := by
  obtain ⟨approval, inventory, change, hget, rfl, hpending, hcounts, rfl⟩ :=
    approve_counts happrove hsubmitted.linked
  -- Lines of other orders are not in the snapshot.
  have hother : ∀ {toLineId line},
      (toLineId, line) ∈ store.transferOrderLines.entries →
      line.toId ≠ approval.toId → change toLineId line = line := by
    intro toLineId line hline htoId
    apply (hcounts toLineId line hline).same
    apply snapshotQty_eq_zero
    rintro snap hsnap rfl
    obtain ⟨-, found, hfound, hfoundTo, -⟩ := hsubmitted.linked.snapshot hget snap hsnap
    have hsame := Table.row_unique _ hline hfound
    subst hsame
    exact htoId hfoundTo
  let approved (approval : TransferOrderApproval) : TransferOrderApproval :=
    { approval with status := .approved, approvedBy := some username }
  have hdecided : ∀ approval, (approved approval).status ≠ .pending :=
    fun approval => by simp [approved]
  have hnone := decided_modify approved hdecided hget hpending hsubmitted
  have hcounted : ∀ {toLineId line}, (toLineId, line) ∈
      (store.transferOrderLines.mapRows change).entries →
      pendingQty (store.transferOrderApprovals.modify approvalId approved) toLineId +
        line.approvedQty ≤ line.pickedQty := by
    intro toLineId line' hline'
    obtain ⟨line, hline, rfl⟩ := (Table.mem_mapRows _).mp hline'
    have hbefore := hsubmitted.counted hline
    have hline := hcounts toLineId line hline
    rw [pendingQty_modify hget hpending (hdecided approval), hline.approvedQty,
      hline.pickedQty]
    omega
  have hfinal : ∀ {toLineId line}, (toLineId, line) ∈
      (store.transferOrderLines.mapRows change).entries →
      line.approvedQty = line.committedQty →
      line.status = .approved ∨ line.status = .shortClosed := by
    intro toLineId line' hline'
    obtain ⟨line, hline, rfl⟩ := (Table.mem_mapRows _).mp hline'
    exact (hcounts toLineId line hline).final (hsubmitted.final hline)
  have hunsettled : ∀ {toId header}, (toId, header) ∈ store.transferOrders.entries →
      toId ≠ approval.toId → header.status ≠ .closed →
      (∃ toLineId line, (toLineId, line) ∈
        (store.transferOrderLines.mapRows change).entries ∧
          line.toId = toId ∧ line.status ≠ .shortClosed) →
      ∃ toLineId line, (toLineId, line) ∈
        (store.transferOrderLines.mapRows change).entries ∧
          line.toId = toId ∧ line.settled = false := by
    rintro toId header' hheader' hne hopen ⟨key, line', hline', htoId, hstatus⟩
    obtain ⟨line, hline, rfl⟩ := (Table.mem_mapRows _).mp hline'
    have hlineTo : line.toId = toId := (hcounts key line hline).toId.symm.trans htoId
    rw [hother hline (hlineTo.trans_ne hne)] at hstatus
    obtain ⟨key', found, hfound, hfoundTo, hsettled⟩ :=
      hsubmitted.unsettled hheader' hopen ⟨key, line, hline, hlineTo, hstatus⟩
    exact ⟨key', found, (Table.mem_mapRows _).mpr
      ⟨found, hfound, hother hfound (hfoundTo.trans_ne hne)⟩, hfoundTo, hsettled⟩
  rw [closeIfDone] at hlinked ⊢
  split at hlinked
  next hclosed =>
    rw [if_pos hclosed]
    refine ⟨hlinked, hcounted,
      single_modify approved (fun approval => ⟨rfl, rfl, hdecided approval⟩) hsubmitted,
      nonempty_modify approved (fun _ => rfl) hsubmitted, hfinal, ?_⟩
    intro toId header' hheader' hopen hexists
    obtain ⟨before, hbefore, rfl⟩ := (Table.mem_modify _).mp hheader'
    by_cases hkey : toId = approval.toId
    · rw [if_pos hkey] at hopen
      exact absurd rfl hopen
    · rw [if_neg hkey] at hopen
      exact hunsettled hbefore hkey hopen hexists
  next hopenOrder =>
    rw [if_neg hopenOrder]
    refine ⟨hlinked, hcounted,
      single_modify approved (fun approval => ⟨rfl, rfl, hdecided approval⟩) hsubmitted,
      nonempty_modify approved (fun _ => rfl) hsubmitted, hfinal, ?_⟩
    intro toId header' hheader' hopen hexists
    by_cases hkey : toId = approval.toId
    · subst hkey
      rw [evaluateToClosure_iff, hasPending_eq_false] at hopenOrder
      obtain ⟨key, line, hline, htoId, -⟩ := hexists
      by_contra hall
      refine hopenOrder ⟨⟨key, line, hline, htoId⟩, ?_, hnone⟩
      intro key' line' hline' htoId'
      by_contra hunsettledLine
      exact hall ⟨key', line', hline', htoId', Bool.eq_false_iff.mpr hunsettledLine⟩
    · exact hunsettled hheader' hkey hopen hexists

theorem applyToCall_submitted {call : ToCall}
    (hallowed : store.submitsOnce call = true)
    (hcall : applyToCall store call = some after) (hsubmitted : store.Submitted) :
    after.Submitted := by
  have hlinked := applyToCall_linked hsubmitted.linked hcall
  cases call with
  | confirmPick pickTaskId scannedBarcode quantityPicked =>
      rw [applyToCall] at hcall
      split at hcall
      next htransfer =>
        exact confirmPick_submitted htransfer (toOption_eq_some.mp hcall) hlinked
          hsubmitted
      next => cases hcall
  | submitPicks toId username =>
      obtain ⟨⟨submitted, summary⟩, hsubmit, rfl⟩ := Option.map_eq_some_iff.mp hcall
      exact submitPicks_submitted (toOption_eq_some.mp hsubmit) hallowed hsubmitted
  | completeBatch batchId username sourceTxnId =>
      obtain ⟨pickBatches, salesOrders, pickConfirmed, rfl⟩ :=
        completeBatch_transfer_spec (toOption_eq_some.mp hcall)
      have hstart : Store.Submitted
          { store with pickBatches, salesOrders, pickConfirmed } :=
        ⟨hsubmitted.linked, hsubmitted.counted, hsubmitted.single, hsubmitted.nonempty,
          hsubmitted.final, hsubmitted.unsettled⟩
      exact submitOrders_submitted (List.nodup_dedup _)
        (fun toId htoId => List.all_eq_true.mp hallowed toId htoId) hstart
  | approve toId approvalId username =>
      exact approve_submitted (toOption_eq_some.mp hcall) hlinked hsubmitted
  | reject toId approvalId rejectionReason =>
      exact reject_submitted (toOption_eq_some.mp hcall) hlinked hsubmitted
  | _ => cases hallowed

end Steps

/-! ## Pending approvals are accepted -/

def snapshotUnits (snaps : List SnapshotLine) (itemId : ℕ) : ℤ :=
  (snaps.map fun snap => if snap.itemId = itemId then snap.pickedInSnapshot else 0).sum

def Store.shippableUnits (store : Store) (itemId warehouseId : ℕ) : ℤ :=
  supply (store.reservedBy itemId warehouseId Inventory.shippable)

/-- What an approval needs besides its counts: a staging bin in the destination and
reserved stock in the source. -/
structure Store.Ships (store : Store) (header : TransferOrder) (needs : ℕ → ℤ) :
    Prop where
  staging : (store.stagingBin header.destinationWarehouseId).isSome = true
  onHand : ∀ entry ∈ store.inventory.entries,
    entry.2.warehouseId = header.sourceWarehouseId → 0 < entry.2.quantityAllocated →
    0 ≤ entry.2.quantityOnHand
  reserved : ∀ itemId, needs itemId ≤
    store.shippableUnits itemId header.sourceWarehouseId

section Acceptance

variable {store after : Store}

theorem snapshotUnits_cons (snap : SnapshotLine) (snaps : List SnapshotLine)
    (itemId : ℕ) : snapshotUnits (snap :: snaps) itemId =
      (if snap.itemId = itemId then snap.pickedInSnapshot else 0) +
        snapshotUnits snaps itemId := by
  rw [snapshotUnits, List.map_cons, List.sum_cons, snapshotUnits]

variable {snaps : List SnapshotLine}

theorem snapshotUnits_nonneg (hsnaps : ∀ snap ∈ snaps, 0 < snap.pickedInSnapshot)
    (itemId : ℕ) :
    0 ≤ snapshotUnits snaps itemId := by
  apply List.sum_nonneg
  intro quantity hquantity
  obtain ⟨snap, hsnap, rfl⟩ := List.mem_map.mp hquantity
  split
  · exact le_of_lt (hsnaps snap hsnap)
  · exact le_refl 0

theorem shippableUnits_eq_total (itemId warehouseId : ℕ) :
    store.shippableUnits itemId warehouseId =
      store.inventory.total fun _ row =>
        if row.inWarehouse itemId warehouseId && decide (0 < row.quantityAllocated) then
          row.shippable
        else 0 :=
  Table.supply_select _ _ _

variable {quantity : ℤ}

theorem mem_takes_reservedBy {itemId warehouseId : ℕ}
    (honHand : ∀ entry ∈ store.inventory.entries, entry.2.warehouseId = warehouseId → 0 < entry.2.quantityAllocated → 0 ≤ entry.2.quantityOnHand)
    {draw : ℕ × ℤ}
    (hdraw : draw ∈ takes quantity (store.reservedBy itemId warehouseId Inventory.shippable)) :
    ∃ row, (draw.1, row) ∈ store.inventory.entries ∧
      row.inWarehouse itemId warehouseId = true ∧ 0 < row.quantityAllocated ∧
      0 ≤ draw.2 ∧ draw.2 ≤ row.quantityAllocated ∧ draw.2 ≤ row.quantityOnHand := by
  have hsources : ∀ source ∈ store.reservedBy itemId warehouseId Inventory.shippable,
      0 ≤ source.2 := by
    intro source hsource
    obtain ⟨entry, hentry, rfl⟩ := List.mem_map.mp hsource
    obtain ⟨hmem, hcond⟩ := (Table.mem_select _).mp hentry
    obtain ⟨hin, hpos⟩ := Bool.and_eq_true_iff.mp hcond
    have hpos := of_decide_eq_true hpos
    exact le_min (le_of_lt hpos)
      (honHand entry hmem (inWarehouse_iff.mp hin).2 hpos)
  obtain ⟨available, hsource, hnonneg, hle, -⟩ := Walk.mem_takes hsources hdraw
  obtain ⟨entry, hentry, heq⟩ := List.mem_map.mp hsource
  obtain ⟨hmem, hcond⟩ := (Table.mem_select _).mp hentry
  obtain ⟨hin, hpos⟩ := Bool.and_eq_true_iff.mp hcond
  obtain ⟨hkey, rfl⟩ := Prod.mk.inj heq
  exact ⟨entry.2, hkey ▸ hmem, hin, of_decide_eq_true hpos, hnonneg,
    le_trans hle (min_le_left _ _), le_trans hle (min_le_right _ _)⟩

theorem decrementSourceInventory_ships (store : Store) {itemId warehouseId : ℕ}
    (hquantity : 0 ≤ quantity)
    (honHand : ∀ entry ∈ store.inventory.entries, entry.2.warehouseId = warehouseId → 0 < entry.2.quantityAllocated → 0 ≤ entry.2.quantityOnHand)
    (hle : quantity ≤ store.shippableUnits itemId warehouseId) :
    ∃ inventory,
      decrementSourceInventory store itemId warehouseId quantity =
        .ok { store with inventory } ∧
      (∀ entry ∈ inventory.entries, entry.2.warehouseId = warehouseId →
        0 < entry.2.quantityAllocated → 0 ≤ entry.2.quantityOnHand) ∧
      ∀ itemId', Store.shippableUnits { store with inventory } itemId' warehouseId =
        store.shippableUnits itemId' warehouseId -
          if itemId' = itemId then quantity else 0 := by
  let draws := (takes quantity (store.reservedBy itemId warehouseId
    Inventory.shippable)).filter fun draw => draw.2 != 0
  have hdraw : ∀ draw ∈ draws, ∃ row, (draw.1, row) ∈ store.inventory.entries ∧
      row.inWarehouse itemId warehouseId = true ∧ 0 < row.quantityAllocated ∧
      0 ≤ draw.2 ∧ draw.2 ≤ row.quantityAllocated ∧ draw.2 ≤ row.quantityOnHand :=
    fun draw hmem => mem_takes_reservedBy honHand (List.mem_of_mem_filter hmem)
  have hnodup : (draws.map Prod.fst).Nodup := by
    have hkeys : ((store.reservedBy itemId warehouseId
        Inventory.shippable).map Prod.fst).Nodup := by
      rw [Store.reservedBy, List.map_map]
      exact store.inventory.select_nodup _
    exact (Walk.takes_keys_nodup hkeys quantity).sublist
      (List.filter_sublist.map Prod.fst)
  have hsupply : supply draws = quantity := by
    rw [Walk.supply_filter_ne_zero]
    apply Walk.supply_takes_of_le hquantity _ hle
    intro source hsource
    obtain ⟨entry, hentry, rfl⟩ := List.mem_map.mp hsource
    obtain ⟨hmem, hcond⟩ := (Table.mem_select _).mp hentry
    obtain ⟨hin, hpos⟩ := Bool.and_eq_true_iff.mp hcond
    have hpos := of_decide_eq_true hpos
    exact le_min (le_of_lt hpos)
      (honHand entry hmem (inWarehouse_iff.mp hin).2 hpos)
  refine ⟨store.inventory.applyTakes (shipUnits store.now) draws, ?_, ?_, ?_⟩
  · rw [decrementSourceInventory]
    rw [Walk.supply_filter_ne_zero] at hsupply
    exact if_neg (not_lt.mpr (le_of_eq hsupply.symm))
  · rintro ⟨key, row⟩ hentry hwarehouse hpos
    rcases Table.mem_applyTakes _ _ hnodup hentry with
      hkept | ⟨before, taken, hbefore, hmem, rfl⟩
    · exact honHand (key, row) hkept hwarehouse hpos
    · obtain ⟨found, hfound, -, -, -, -, htaken⟩ := hdraw (key, taken) hmem
      have hsame := Table.row_unique _ hbefore hfound
      subst hsame
      exact sub_nonneg.mpr htaken
  · intro itemId'
    rw [shippableUnits_eq_total, shippableUnits_eq_total]
    by_cases hitem : itemId' = itemId
    · subst hitem
      rw [Table.total_applyTakes_of_nodup _ _ (-1) hnodup, hsupply, if_pos rfl]
      · ring
      · intro draw hmem
        obtain ⟨row, hrow, hin, hpos, hnonneg, hallocated, honhand⟩ := hdraw draw hmem
        refine ⟨row, hrow, ?_⟩
        have hin' : (shipUnits store.now draw.2 row).inWarehouse itemId' warehouseId =
            true := hin
        rw [hin, hin']
        have hshippable : (shipUnits store.now draw.2 row).shippable =
            row.shippable - draw.2 := min_sub_sub_right _ _ _
        have hleft : (shipUnits store.now draw.2 row).quantityAllocated =
            row.quantityAllocated - draw.2 := rfl
        simp only [Bool.true_and, decide_eq_true_eq, hshippable, hleft, if_pos hpos]
        split
        · ring
        · -- The row is drawn on for all that it has reserved.
          have hall : draw.2 = row.quantityAllocated := by omega
          have hmin : row.shippable = row.quantityAllocated :=
            min_eq_left (hall ▸ honhand)
          rw [hmin, hall]
          ring
    · rw [Table.total_applyTakes_of_nodup _ _ 0 hnodup, if_neg hitem]
      · ring
      · intro draw hmem
        obtain ⟨row, hrow, hin, -⟩ := hdraw draw hmem
        refine ⟨row, hrow, ?_⟩
        have hout : ∀ row : Inventory, row.inWarehouse itemId warehouseId = true →
            row.inWarehouse itemId' warehouseId = false := by
          intro row hin
          rw [Bool.eq_false_iff]
          intro hin'
          exact hitem ((inWarehouse_iff.mp hin').1.symm.trans (inWarehouse_iff.mp hin).1)
        have hin' : (shipUnits store.now draw.2 row).inWarehouse itemId warehouseId =
            true := hin
        rw [hout row hin, hout _ hin']
        simp

/-- Stock that arrives takes nothing from what can be shipped. -/
theorem addInventory_ships (store : Store) (itemId binId warehouseId : ℕ) {warehouseId' : ℕ}
    (hquantity : 0 ≤ quantity)
    (honHand : ∀ entry ∈ store.inventory.entries, entry.2.warehouseId = warehouseId' → 0 < entry.2.quantityAllocated → 0 ≤ entry.2.quantityOnHand) :
    ∃ inventory,
      (addInventory store itemId binId warehouseId quantity none).1 =
        { store with inventory } ∧
      (∀ entry ∈ inventory.entries, entry.2.warehouseId = warehouseId' →
        0 < entry.2.quantityAllocated → 0 ≤ entry.2.quantityOnHand) ∧
      ∀ itemId', store.shippableUnits itemId' warehouseId' ≤
        Store.shippableUnits { store with inventory } itemId' warehouseId' := by
  rw [addInventory]
  split
  next inventoryId existing _ =>
    refine ⟨_, rfl, ?_, ?_⟩
    · rintro ⟨key, row⟩ hentry hwarehouse hpos
      obtain ⟨before, hbefore, rfl⟩ := (Table.mem_modify _).mp hentry
      split at hwarehouse
      next hkey =>
        rw [if_pos hkey] at hpos ⊢
        exact add_nonneg (honHand _ hbefore hwarehouse hpos) hquantity
      next hkey =>
        rw [if_neg hkey] at hpos ⊢
        exact honHand _ hbefore hwarehouse hpos
    · intro itemId'
      rw [shippableUnits_eq_total, shippableUnits_eq_total, Table.modify,
        Table.total_mapRows]
      apply Table.total_le_total
      intro key row _
      by_cases hkey : key = inventoryId
      · rw [if_pos hkey]
        change (if row.inWarehouse itemId' warehouseId' &&
            decide (0 < row.quantityAllocated) then row.shippable else 0) ≤
          if row.inWarehouse itemId' warehouseId' &&
            decide (0 < row.quantityAllocated) then
              min row.quantityAllocated (row.quantityOnHand + quantity) else 0
        split
        · exact min_le_min_left _ (le_add_of_nonneg_right hquantity)
        · exact le_refl 0
      · rw [if_neg hkey]
  next =>
    refine ⟨_, rfl, ?_, ?_⟩
    · rintro ⟨key, row⟩ hentry hwarehouse hpos
      rcases (Table.mem_insert _).mp hentry with hold | hnew
      · exact honHand _ hold hwarehouse hpos
      · obtain ⟨-, rfl⟩ := Prod.mk.inj hnew
        exact absurd hpos (lt_irrefl 0)
    · intro itemId'
      rw [shippableUnits_eq_total, shippableUnits_eq_total, Table.total_insert]
      simp

variable {header : TransferOrder}

theorem approveSnapshotLine_accepted {snap : SnapshotLine} {line : TransferOrderLine}
    (hquantity : 0 < snap.pickedInSnapshot)
    (hsnaps : ∀ snap ∈ snaps, 0 < snap.pickedInSnapshot)
    (hline : (snap.toLineId, line) ∈ store.transferOrderLines.entries)
    (hcheck : line.approvedQty + snap.pickedInSnapshot ≤ line.pickedQty)
    (hships : store.Ships header (snapshotUnits (snap :: snaps))) :
    ∃ after, approveSnapshotLine header store snap = .ok after ∧
      after.Ships header (snapshotUnits snaps) := by
  have hrest := snapshotUnits_nonneg hsnaps
  have hle : snap.pickedInSnapshot ≤
      store.shippableUnits snap.itemId header.sourceWarehouseId := by
    have hunits := hships.reserved snap.itemId
    rw [snapshotUnits_cons, if_pos rfl] at hunits
    have hothers := hrest snap.itemId
    omega
  let counted : Store :=
    { store with
      transferOrderLines := store.transferOrderLines.modify snap.toLineId fun _ =>
        line.approve snap.pickedInSnapshot hquantity hcheck }
  have hcounted : approveLineQty store snap.toLineId snap.pickedInSnapshot hquantity =
      .ok counted := by
    rw [approveLineQty, (Table.get?_eq_some _).mpr hline]
    exact dif_pos hcheck
  have honHand : ∀ entry ∈ counted.inventory.entries,
      entry.2.warehouseId = header.sourceWarehouseId →
      0 < entry.2.quantityAllocated → 0 ≤ entry.2.quantityOnHand := hships.onHand
  obtain ⟨inventory, hshipped, honHand', hunits⟩ :=
    decrementSourceInventory_ships counted (le_of_lt hquantity) honHand hle
  obtain ⟨binId, hbin⟩ := Option.isSome_iff_exists.mp hships.staging
  have hstaging : Store.stagingBin { counted with inventory }
      header.destinationWarehouseId = some binId := hbin
  obtain ⟨inventory', hcredited, honHand'', hunits'⟩ :=
    addInventory_ships { counted with inventory } snap.itemId binId
      header.destinationWarehouseId (le_of_lt hquantity) honHand'
  refine ⟨{ counted with inventory := inventory' }, ?_, ?_, honHand'', ?_⟩
  · rw [approveSnapshotLine, dif_neg (not_le.mpr hquantity)]
    refine bind_eq_ok.mpr ⟨counted, hcounted, bind_eq_ok.mpr ⟨_, hshipped, ?_⟩⟩
    rw [creditDestinationInventory, hstaging]
    exact congrArg Except.ok hcredited
  · exact hships.staging
  · intro itemId
    refine le_trans ?_ (hunits' itemId)
    rw [hunits]
    have hneeds := hships.reserved itemId
    rw [snapshotUnits_cons] at hneeds
    have hsame : counted.shippableUnits itemId header.sourceWarehouseId =
        store.shippableUnits itemId header.sourceWarehouseId := rfl
    rw [hsame]
    by_cases hitem : itemId = snap.itemId
    · rw [if_pos hitem]
      rw [if_pos hitem.symm] at hneeds
      omega
    · rw [if_neg hitem]
      rw [if_neg (Ne.symm hitem)] at hneeds
      omega

theorem approveFold_accepted
    (hsnaps : ∀ snap ∈ snaps, 0 < snap.pickedInSnapshot ∧ ∃ line, (snap.toLineId, line) ∈ store.transferOrderLines.entries)
    (hcounted : ∀ toLineId line, (toLineId, line) ∈ store.transferOrderLines.entries → line.approvedQty + snapshotQty snaps toLineId ≤ line.pickedQty)
    (hships : store.Ships header (snapshotUnits snaps)) :
    ∃ moved, snaps.foldlM (approveSnapshotLine header) store = .ok moved := by
  induction snaps generalizing store with
  | nil => exact ⟨store, rfl⟩
  | cons snap snaps ih =>
      obtain ⟨hquantity, line, hline⟩ := hsnaps snap List.mem_cons_self
      have hpositive : ∀ snap ∈ snaps, 0 < snap.pickedInSnapshot := fun snap' hsnap' =>
        (hsnaps snap' (List.mem_cons_of_mem _ hsnap')).1
      have hcheck : line.approvedQty + snap.pickedInSnapshot ≤ line.pickedQty := by
        have hline := hcounted snap.toLineId line hline
        have hothers := snapshotQty_nonneg hpositive snap.toLineId
        rw [snapshotQty_cons, if_pos rfl] at hline
        omega
      obtain ⟨state, hstate, hshipsState⟩ :=
        approveSnapshotLine_accepted hquantity hpositive hline hcheck hships
      obtain ⟨hcheck', inventory, rfl, -⟩ :=
        approveSnapshotLine_spec hquantity hline hstate
      obtain ⟨moved, hmoved⟩ := ih
        (fun snap' hsnap' => by
          obtain ⟨hquantity', line', hline'⟩ :=
            hsnaps snap' (List.mem_cons_of_mem _ hsnap')
          exact ⟨hquantity', _, (Table.mem_modify _).mpr ⟨line', hline', rfl⟩⟩)
        (fun toLineId found' hfound' => by
          obtain ⟨found, hfound, rfl⟩ := (Table.mem_modify _).mp hfound'
          have hbound := hcounted toLineId found hfound
          rw [snapshotQty_cons] at hbound
          split
          next hkey =>
            subst hkey
            have hsame := Table.row_unique _ hline hfound
            subst hsame
            rw [if_pos rfl] at hbound
            have happroved : (line.approve snap.pickedInSnapshot hquantity
                hcheck').approvedQty = line.approvedQty + snap.pickedInSnapshot := rfl
            have hpicked : (line.approve snap.pickedInSnapshot hquantity
                hcheck').pickedQty = line.pickedQty := rfl
            omega
          next hkey =>
            rw [if_neg (Ne.symm hkey)] at hbound
            omega)
        hshipsState
      exact ⟨moved, by rw [List.foldlM_cons]; exact bind_eq_ok.mpr ⟨_, hstate, hmoved⟩⟩

/-- In a state in which pending units are picked, a pending approval is accepted from
an admin whom the settings do not block, once its units can be shipped. -/
theorem approve_accepted {approvalId : ℕ} {approval : TransferOrderApproval}
    (username : String) (hsubmitted : store.Submitted)
    (happroval : (approvalId, approval) ∈ store.transferOrderApprovals.entries)
    (hpending : approval.status = .pending)
    (hheader : (approval.toId, header) ∈ store.transferOrders.entries)
    (hblocked : selfApprovalBlocked store = false ∨ approval.submittedBy ≠ username)
    (hships : store.Ships header (snapshotUnits approval.linesSnapshot)) :
    ∃ after, approveTransferOrderApproval store approval.toId approvalId username =
      .ok after := by
  have hsorted := sortSnapshot_perm approval.linesSnapshot
  have hsnaps : ∀ snap ∈ sortSnapshot approval.linesSnapshot,
      0 < snap.pickedInSnapshot ∧
        ∃ line, (snap.toLineId, line) ∈ store.transferOrderLines.entries := by
    intro snap hsnap
    obtain ⟨hquantity, line, hline, -⟩ :=
      hsubmitted.linked.snapshot happroval snap (hsorted.mem_iff.mp hsnap)
    exact ⟨hquantity, line, hline⟩
  have hcounted : ∀ toLineId line,
      (toLineId, line) ∈ store.transferOrderLines.entries →
      line.approvedQty + snapshotQty (sortSnapshot approval.linesSnapshot) toLineId ≤
        line.pickedQty := by
    intro toLineId line hline
    have hbound := hsubmitted.counted hline
    have hpart : snapshotQty approval.linesSnapshot toLineId ≤
        pendingQty store.transferOrderApprovals toLineId := by
      rw [pendingQty]
      refine le_trans (le_of_eq ?_)
        (Table.le_total _ (fun key other hother => ?_) happroval)
      · rw [if_pos hpending]
      · split
        · exact snapshotQty_nonneg (fun snap hsnap =>
            (hsubmitted.linked.snapshot hother snap hsnap).1) toLineId
        · exact le_refl 0
    rw [snapshotQty_perm hsorted]
    omega
  have hneeds : snapshotUnits (sortSnapshot approval.linesSnapshot) =
      snapshotUnits approval.linesSnapshot := by
    funext itemId
    exact (hsorted.map _).sum_eq
  obtain ⟨moved, hmoved⟩ := approveFold_accepted hsnaps hcounted (hneeds ▸ hships)
  have hget : store.approval approval.toId approvalId = .ok approval := by
    rw [Store.approval, (Table.get?_eq_some _).mpr happroval]
    simp [hpending]
  have hnotBlocked : ¬ (selfApprovalBlocked store &&
      approval.submittedBy == username) = true := by
    rcases hblocked with hblocked | hother
    · simp [hblocked]
    · simp [hother]
  have hnonempty : ¬ approval.linesSnapshot.isEmpty = true := by
    rw [List.isEmpty_iff]
    exact hsubmitted.nonempty happroval
  have happrove : approveTransferOrderApproval store approval.toId approvalId username =
      .ok (closeIfDone
        { moved with
          transferOrderApprovals :=
            moved.transferOrderApprovals.modify approvalId fun approval =>
              { approval with status := .approved, approvedBy := some username } }
        approval.toId) := by
    refine bind_eq_ok.mpr ⟨approval, hget, ?_⟩
    rw [if_neg hnotBlocked, (Table.get?_eq_some _).mpr hheader]
    dsimp only
    rw [if_neg hnonempty]
    exact bind_eq_ok.mpr ⟨moved, hmoved, rfl⟩
  exact ⟨_, happrove⟩

end Acceptance

/-! ## A picked order can be closed -/

section Closing

variable {store after : Store}

/-- Every line of the order is short-closed or picked in full, and not all of them
are short-closed. -/
structure Store.FullyPicked (store : Store) (toId : ℕ) : Prop where
  lines : ∀ toLineId line, (toLineId, line) ∈ store.transferOrderLines.entries →
    line.toId = toId → line.status = .shortClosed ∨ line.pickedQty = line.committedQty
  nonempty : ∃ toLineId line, (toLineId, line) ∈ store.transferOrderLines.entries ∧
    line.toId = toId ∧ line.status ≠ .shortClosed

variable {toId : ℕ} {header : TransferOrder}

theorem submission_ne_nil (hheader : (toId, header) ∈ store.transferOrders.entries)
    (hopen : header.status ≠ .closed) (hpicked : store.FullyPicked toId)
    (hsubmitted : store.Submitted) : store.submission toId ≠ [] := by
  obtain ⟨toLineId, line, hline, htoId, hsettled⟩ :=
    hsubmitted.unsettled hheader hopen hpicked.nonempty
  have hle := line.approvedLePicked
  have hlineOpen : line.status ≠ .shortClosed := by
    intro hclosed
    simp [TransferOrderLine.settled, hclosed] at hsettled
  have hfull : line.pickedQty = line.committedQty :=
    (hpicked.lines toLineId line hline htoId).resolve_left hlineOpen
  have hlt : line.approvedQty < line.pickedQty := by
    by_contra hnot
    have heq : line.approvedQty = line.pickedQty := by omega
    have hstatus := (hsubmitted.final hline (heq.trans hfull)).resolve_right hlineOpen
    simp [TransferOrderLine.settled, hstatus, heq] at hsettled
  let snap : SnapshotLine :=
    { toLineId, itemId := line.itemId,
      pickedInSnapshot := line.pickedQty - line.approvedQty }
  have hmem : snap ∈ store.submission toId :=
    mem_submission.mpr ⟨line, hline, htoId, hlt, rfl, rfl⟩
  exact List.ne_nil_of_mem hmem

theorem approve_closes {approvalId : ℕ} {approval : TransferOrderApproval} {username : String}
    (hsubmitted : store.Submitted)
    (happroval : (approvalId, approval) ∈ store.transferOrderApprovals.entries)
    (hsnapshot : approval.linesSnapshot = store.submission toId)
    (hheader : (toId, header) ∈ store.transferOrders.entries)
    (hpicked : store.FullyPicked toId)
    (happrove : approveTransferOrderApproval store toId approvalId username = .ok after) :
    ∃ header', (toId, header') ∈ after.transferOrders.entries ∧
      header'.status = .closed := by
  obtain ⟨found, inventory, change, hfound, rfl, hpending, hcounts, rfl⟩ :=
    approve_counts happrove hsubmitted.linked
  have hsame := Table.row_unique _ happroval hfound
  subst hsame
  rw [closeIfDone, if_pos]
  · exact ⟨{ header with status := .closed },
      (Table.mem_modify _).mpr ⟨header, hheader, if_pos rfl⟩, rfl⟩
  · rw [evaluateToClosure_iff]
    refine ⟨?_, ?_, ?_⟩
    · obtain ⟨toLineId, line, hline, htoId, -⟩ := hpicked.nonempty
      exact ⟨toLineId, change toLineId line, (Table.mem_mapRows _).mpr ⟨line, hline, rfl⟩,
        (hcounts toLineId line hline).toId.trans htoId⟩
    · intro toLineId line' hline' htoId'
      obtain ⟨line, hline, rfl⟩ := (Table.mem_mapRows _).mp hline'
      have hline' := hcounts toLineId line hline
      have htoId : line.toId = approval.toId := hline'.toId.symm.trans htoId'
      have happroved : (change toLineId line).approvedQty =
          (change toLineId line).pickedQty := by
        rw [hline'.approvedQty, hline'.pickedQty, hsnapshot,
          snapshotQty_submission hline, if_pos htoId]
        ring
      rcases hpicked.lines toLineId line hline htoId with hclosed | hfull
      · rcases hline'.status with hstatus | hstatus
        · simp [TransferOrderLine.settled, hstatus, hclosed]
        · simp [TransferOrderLine.settled, hstatus, happroved]
      · have hcommitted : (change toLineId line).approvedQty =
            (change toLineId line).committedQty := by
          rw [happroved, hline'.pickedQty, hline'.committedQty, hfull]
        rcases hline'.final (hsubmitted.final hline) hcommitted with hstatus | hstatus
        · simp [TransferOrderLine.settled, hstatus, happroved]
        · simp [TransferOrderLine.settled, hstatus]
    · rw [hasPending_eq_false]
      exact decided_modify _ (fun _ => by simp) happroval hpending hsubmitted

theorem submitPicks_accepted (username : String)
    (hheader : (toId, header) ∈ store.transferOrders.entries)
    (hstatus : header.status = .partiallyPicked ∨ header.status = .awaitingApproval)
    (hsubmission : store.submission toId ≠ []) :
    ∃ after summary, submitPicks store toId username = .ok (after, summary) := by
  have hopen : ¬ (header.status ≠ .partiallyPicked ∧
      header.status ≠ .awaitingApproval) := by
    tauto
  rw [submitPicks, (Table.get?_eq_some _).mpr hheader]
  dsimp only
  rw [if_neg hopen]
  cases hsubmits : store.submission toId with
  | nil => exact absurd hsubmits hsubmission
  | cons first rest => exact ⟨_, _, rfl⟩

theorem closes_of_nothingPending {picker admin : String} (hsubmitted : store.Submitted)
    (hnone : store.hasPending toId = false)
    (hheader : (toId, header) ∈ store.transferOrders.entries)
    (hstatus : header.status = .partiallyPicked ∨ header.status = .awaitingApproval)
    (hpicked : store.FullyPicked toId)
    (hblocked : selfApprovalBlocked store = false ∨ picker ≠ admin)
    (hships : store.Ships header (snapshotUnits (store.submission toId))) :
    ∃ calls closed, Run applyToCall (fun store call => store.submitsOnce call = true)
        store calls closed ∧
      ∃ header', (toId, header') ∈ closed.transferOrders.entries ∧
        header'.status = .closed := by
  have hopen : header.status ≠ .closed := by
    rcases hstatus with hstatus | hstatus <;> rw [hstatus] <;> decide
  obtain ⟨submitted, summary, hsubmit⟩ := submitPicks_accepted picker hheader hstatus
    (submission_ne_nil hheader hopen hpicked hsubmitted)
  have hallowed : (!store.isSubmittable toId || !store.hasPending toId) = true := by
    simp [hnone]
  have hafter := submitPicks_submitted hsubmit hallowed hsubmitted
  have hcall : applyToCall store (.submitPicks toId picker) = some submitted := by
    rw [applyToCall, hsubmit]
    rfl
  obtain ⟨-, -, -, -, rfl⟩ := submitPicks_spec hsubmit
  obtain ⟨after, happrove⟩ := approve_accepted admin hafter
    ((Table.mem_insert _).mpr (.inr rfl)) rfl
    ((Table.mem_modify _).mpr ⟨header, hheader, if_pos rfl⟩) hblocked
    ⟨hships.staging, hships.onHand, hships.reserved⟩
  have hclosed := approve_closes hafter ((Table.mem_insert _).mpr (.inr rfl)) rfl
    ((Table.mem_modify _).mpr ⟨header, hheader, if_pos rfl⟩)
    ⟨hpicked.lines, hpicked.nonempty⟩ happrove
  refine ⟨[.submitPicks toId picker, .approve toId store.transferOrderApprovals.next
    admin], after, ?_, hclosed⟩
  refine Run.cons hallowed hcall (Run.cons rfl ?_ (Run.nil after))
  exact toOption_eq_some.mpr happrove

end Closing

/-! ## Runs -/

def ToCall.beforeSubmission : ToCall → Bool
  | .importOrder _ _ | .startToPicking _ _ | .confirmPick _ _ _ | .shortClose _ _
  | .cancel _ => true
  | .submitPicks _ _ | .completeBatch _ _ _ | .approve _ _ _ | .reject _ _ _ => false

theorem Store.Unsubmitted.modifyLine (hunsubmitted : store.Unsubmitted) (toLineId : ℕ)
    (change : TransferOrderLine → TransferOrderLine)
    (hchange : ∀ line, (toLineId, line) ∈ store.transferOrderLines.entries → (change line).approvedQty = line.approvedQty ∧ (change line).status ≠ .approved ∧ ((change line).committedQty = 0 → (change line).status = .shortClosed)) :
    Store.Unsubmitted
      { store with
        transferOrderLines := store.transferOrderLines.modify toLineId change } where
  noApprovals := hunsubmitted.noApprovals
  nothingApproved hline := by
    obtain ⟨before, hbefore, rfl⟩ := (Table.mem_modify _).mp hline
    obtain ⟨hnone, hstatus⟩ := hunsubmitted.nothingApproved hbefore
    split
    next hkey =>
      subst hkey
      obtain ⟨happroved, hstatus'⟩ := hchange before hbefore
      exact ⟨happroved.trans hnone, hstatus'⟩
    next => exact ⟨hnone, hstatus⟩

theorem insertLines_unsubmitted (toId : ℕ) (lines : List LineInsert)
    (hunsubmitted : store.Unsubmitted) :
    (insertLines toId store lines).Unsubmitted := by
  induction lines generalizing store with
  | nil => exact hunsubmitted
  | cons line lines ih =>
      have hinserted : Store.Unsubmitted
          { store with
            transferOrderLines :=
              store.transferOrderLines.insert (line.toLine toId) } := by
        refine ⟨hunsubmitted.noApprovals, ?_⟩
        intro toLineId line' hline'
        rcases (Table.mem_insert _).mp hline' with hold | hnew
        · exact hunsubmitted.nothingApproved hold
        · obtain ⟨-, rfl⟩ := Prod.mk.inj hnew
          refine ⟨rfl, ?_, ?_⟩
          · dsimp only [LineInsert.toLine]
            split <;> decide
          · intro hzero
            dsimp only [LineInsert.toLine] at hzero ⊢
            rw [if_neg (by omega)]
      exact ih hinserted

theorem unsubmitted_of_run {start last : Store} {calls : List ToCall}
    (hnone : start.WithoutTransfers)
    (hrun : Run applyToCall (fun _ call => call.beforeSubmission = true) start calls
      last) : last.Linked ∧ last.Unsubmitted := by
  refine hrun.invariant (fun store => store.Linked ∧ store.Unsubmitted) ?_
    ⟨linked_of_withoutTransfers hnone, hnone.2.2, fun hline => ?_⟩
  · rintro store call after ⟨hlinked, hunsubmitted⟩ hbefore hcall
    refine ⟨applyToCall_linked hlinked hcall, ?_⟩
    cases call with
    | importOrder request username =>
        obtain ⟨⟨imported, toId⟩, himport, rfl⟩ := Option.map_eq_some_iff.mp hcall
        obtain ⟨header, rows, reserved, -, -, rfl, hafter⟩ :=
          import_spec (toOption_eq_some.mp himport)
        obtain ⟨inventory, hreserved⟩ :=
          reserveRows_spec header.sourceWarehouseId store 1 rows
        rw [hreserved] at hafter
        obtain ⟨-, rfl⟩ | ⟨-, rfl⟩ := hafter
        · exact insertLines_unsubmitted _ _
            ⟨hunsubmitted.noApprovals, hunsubmitted.nothingApproved⟩
        · exact insertLines_unsubmitted _ _
            ⟨hunsubmitted.noApprovals, hunsubmitted.nothingApproved⟩
    | startToPicking toId username =>
        obtain ⟨⟨started, batchId⟩, hstart, rfl⟩ := Option.map_eq_some_iff.mp hcall
        obtain ⟨_, _, rfl⟩ := startToPicking_spec (toOption_eq_some.mp hstart)
        exact ⟨hunsubmitted.noApprovals, hunsubmitted.nothingApproved⟩
    | confirmPick pickTaskId scannedBarcode quantityPicked =>
        rw [applyToCall] at hcall
        split at hcall
        next htransfer =>
          obtain ⟨toId, toLineId, line, hdelta, hcap, pickTasks, hline, -, -, rfl⟩ :=
            confirmPick_transfer_spec htransfer (toOption_eq_some.mp hcall)
          rw [Table.get?_eq_some] at hline
          have hpicked := hunsubmitted.modifyLine toLineId
            (fun _ => line.pick quantityPicked hdelta hcap) (by
              intro found hfound
              have hsame := Table.row_unique _ hline hfound
              subst hsame
              refine ⟨rfl, ?_, fun hzero => ?_⟩
              · rw [TransferOrderLine.pick]
                dsimp only
                split <;> decide
              · -- A line that is picked has something committed.
                have hcommitted : line.committedQty = 0 := hzero
                have happroved := line.approvedNonneg
                have hle := line.approvedLePicked
                omega)
          exact ⟨hpicked.noApprovals, hpicked.nothingApproved⟩
        next => cases hcall
    | shortClose toId toLineId =>
        obtain ⟨line, header, -, -, -, -, -, rfl⟩ :=
          shortClose_spec (toOption_eq_some.mp hcall)
        have hclosed := hunsubmitted.modifyLine toLineId
          (fun line => { line with status := .shortClosed })
          fun line _ => ⟨rfl, by simp, fun _ => rfl⟩
        exact ⟨hclosed.noApprovals, hclosed.nothingApproved⟩
    | cancel toId =>
        obtain ⟨header, -, -, -, rfl⟩ := cancel_spec (toOption_eq_some.mp hcall)
        obtain ⟨inventory, hreleased⟩ :=
          releaseReservations_spec store toId header.sourceWarehouseId
        rw [hreleased]
        exact ⟨hunsubmitted.noApprovals, hunsubmitted.nothingApproved⟩
    | _ => cases hbefore
  · rw [hnone.2.1] at hline
    cases hline

/-- In every run on transfer orders before their first submission that submits no
order while one of its approvals is pending, pending and approved units of a line
are picked, every pending approval is accepted, and a picked order can be closed. -/
theorem countedOnce_of_submitsOnce {start last : Store} {calls : List ToCall}
    (hlinked : start.Linked) (hunsubmitted : start.Unsubmitted)
    (hrun : Run applyToCall (fun store call => store.submitsOnce call = true) start
      calls last) :
    (∀ toLineId line, (toLineId, line) ∈ last.transferOrderLines.entries →
      pendingQty last.transferOrderApprovals toLineId + line.approvedQty ≤
        line.pickedQty) ∧
    (∀ approvalId approval header username,
      (approvalId, approval) ∈ last.transferOrderApprovals.entries →
      approval.status = .pending →
      (approval.toId, header) ∈ last.transferOrders.entries →
      selfApprovalBlocked last = false ∨ approval.submittedBy ≠ username →
      last.Ships header (snapshotUnits approval.linesSnapshot) →
      ∃ after, applyToCall last (.approve approval.toId approvalId username) =
        some after) ∧
    ∀ toId header (picker admin : String),
      (toId, header) ∈ last.transferOrders.entries →
      header.status = .partiallyPicked ∨ header.status = .awaitingApproval →
      last.FullyPicked toId →
      selfApprovalBlocked last = false ∨ picker ≠ admin →
      last.Ships header (snapshotUnits (last.submission toId)) →
      ∃ later closed, Run applyToCall (fun store call => store.submitsOnce call = true)
          last later closed ∧
        ∃ header', (toId, header') ∈ closed.transferOrders.entries ∧
          header'.status = .closed := by
  have hsubmitted : last.Submitted := hrun.invariant Store.Submitted
    (fun hsubmitted hallowed hcall => applyToCall_submitted hallowed hcall hsubmitted)
    (submitted_of_unsubmitted hlinked hunsubmitted)
  refine ⟨fun toLineId line => hsubmitted.counted, ?_, ?_⟩
  · intro approvalId approval header username happroval hpending hheader hblocked hships
    obtain ⟨after, happrove⟩ := approve_accepted username hsubmitted happroval hpending
      hheader hblocked hships
    exact ⟨after, toOption_eq_some.mpr happrove⟩
  · intro toId header picker admin hheader hstatus hpicked hblocked hships
    cases hpending : last.hasPending toId with
    | false =>
        exact closes_of_nothingPending hsubmitted hpending hheader hstatus hpicked
          hblocked hships
    | true =>
        obtain ⟨⟨approvalId, approval⟩, happroval, hcond⟩ := List.any_eq_true.mp hpending
        obtain ⟨htoId, hstatus'⟩ := Bool.and_eq_true_iff.mp hcond
        replace htoId : approval.toId = toId := beq_iff_eq.mp htoId
        replace hstatus' : approval.status = .pending := beq_iff_eq.mp hstatus'
        subst htoId
        let rejected (approval : TransferOrderApproval) : TransferOrderApproval :=
          { approval with status := .rejected, rejectionReason := none }
        let after : Store :=
          { last with
            transferOrderApprovals :=
              last.transferOrderApprovals.modify approvalId rejected }
        have hget : last.approval approval.toId approvalId = .ok approval := by
          rw [Store.approval, (Table.get?_eq_some _).mpr happroval]
          simp [hstatus']
        have hcall : applyToCall last (.reject approval.toId approvalId none) =
            some after :=
          toOption_eq_some.mpr (bind_eq_ok.mpr ⟨approval, hget, rfl⟩)
        have hafter := applyToCall_submitted rfl hcall hsubmitted
        have hnone : after.hasPending approval.toId = false :=
          hasPending_eq_false.mpr
            (decided_modify rejected (fun _ => by simp [rejected]) happroval hstatus'
              hsubmitted)
        obtain ⟨later, closed, hlater, hclosed⟩ := closes_of_nothingPending hafter hnone
          hheader hstatus ⟨hpicked.lines, hpicked.nonempty⟩ hblocked
          ⟨hships.staging, hships.onHand, hships.reserved⟩
        exact ⟨_, closed, Run.cons rfl hcall hlater, hclosed⟩

/-! ## Runs between two small warehouses -/

def startedStore : Store :=
  (execute applyToCall (fun _ call => call.beforeSubmission = true) twoWarehouses
    [.importOrder threeUnits "ann", .startToPicking 1 "ben"]).getD twoWarehouses

def pickedOnce : List ToCall := [.confirmPick 1 "1" 3, .submitPicks 1 "ben"]

def pendingStore : Store :=
  (execute applyToCall (fun store call => store.submitsOnce call = true) startedStore
    pickedOnce).getD startedStore

theorem fullyPicked_pendingStore : pendingStore.FullyPicked 1 where
  lines toLineId line hline := by
    have hall : ∀ entry ∈ pendingStore.transferOrderLines.entries,
        entry.2.toId = 1 →
          entry.2.status = .shortClosed ∨ entry.2.pickedQty = entry.2.committedQty := by
      decide
    exact hall (toLineId, line) hline
  nonempty := by
    have hany : ∃ entry ∈ pendingStore.transferOrderLines.entries,
        entry.2.toId = 1 ∧ entry.2.status ≠ .shortClosed := by decide
    obtain ⟨entry, hentry, htoId, hopen⟩ := hany
    exact ⟨entry.1, entry.2, hentry, htoId, hopen⟩

theorem ships_pendingStore {header : TransferOrder}
    (hsource : header.sourceWarehouseId = 1)
    (hdestination : header.destinationWarehouseId = 2) :
    pendingStore.Ships header (snapshotUnits (pendingStore.submission 1)) where
  staging := by
    rw [hdestination]
    rfl
  onHand entry hentry _ _ := by
    have hall : ∀ entry ∈ pendingStore.inventory.entries,
        0 ≤ entry.2.quantityOnHand := by decide
    exact hall entry hentry
  reserved itemId := by
    have hsubmission : pendingStore.submission 1 = [⟨1, 1, 3⟩] := rfl
    rw [hsubmission, hsource, snapshotUnits_cons]
    by_cases hitem : itemId = 1
    · subst hitem
      decide
    · have hnothing : 0 ≤ pendingStore.shippableUnits itemId 1 := by
        have hall : ∀ entry ∈ pendingStore.inventory.entries,
            0 ≤ entry.2.shippable := by decide
        apply Walk.supply_nonneg
        intro source hsource
        obtain ⟨entry, hentry, rfl⟩ := List.mem_map.mp hsource
        exact hall entry ((Table.mem_select _).mp hentry).1
      simpa [snapshotUnits, Ne.symm hitem] using hnothing

theorem countedOnce_pendingStore :
    pendingQty pendingStore.transferOrderApprovals 1 = 3 ∧
    (∀ toLineId line, (toLineId, line) ∈ pendingStore.transferOrderLines.entries →
      pendingQty pendingStore.transferOrderApprovals toLineId + line.approvedQty ≤
        line.pickedQty) ∧
    ∃ later closed, Run applyToCall (fun store call => store.submitsOnce call = true)
        pendingStore later closed ∧
      ∃ header', (1, header') ∈ closed.transferOrders.entries ∧
        header'.status = .closed := by
  have hsetup : Run applyToCall (fun _ call => call.beforeSubmission = true)
      twoWarehouses [.importOrder threeUnits "ann", .startToPicking 1 "ben"]
      startedStore := Run.ofExecute rfl
  obtain ⟨hlinked, hunsubmitted⟩ := unsubmitted_of_run ⟨rfl, rfl, rfl⟩ hsetup
  have hrun : Run applyToCall (fun store call => store.submitsOnce call = true)
      startedStore pickedOnce pendingStore := Run.ofExecute rfl
  obtain ⟨hcounted, -, hcloses⟩ :=
    countedOnce_of_submitsOnce hlinked hunsubmitted hrun
  obtain ⟨entry, hentry, hid, hsource, hdestination, hstatus⟩ :
      ∃ entry ∈ pendingStore.transferOrders.entries, entry.1 = 1 ∧
        entry.2.sourceWarehouseId = 1 ∧ entry.2.destinationWarehouseId = 2 ∧
        entry.2.status = .awaitingApproval := by decide
  exact ⟨rfl, hcounted, hcloses 1 entry.2 "ben" "cat" (hid ▸ hentry) (.inr hstatus)
    fullyPicked_pendingStore (.inl rfl) (ships_pendingStore hsource hdestination)⟩

/-- The picks are submitted again while their approval is pending, and the first
approval is accepted. -/
def submittedTwice : Store :=
  (execute applyToCall (fun _ _ => True) startedStore
    (pickedOnce ++ [.submitPicks 1 "ben"])).getD startedStore

def approvedOnce : Store :=
  (applyToCall submittedTwice (.approve 1 1 "cat")).getD submittedTwice

/-- A second submission counts the same picked units again. Its approval can never
be accepted, and as long as it is pending the order does not close. -/
theorem submitPicks_countsTwice :
    Run applyToCall (fun _ _ => True) startedStore
        (pickedOnce ++ [.submitPicks 1 "ben"]) submittedTwice ∧
      pendingQty submittedTwice.transferOrderApprovals 1 = 6 ∧
      (submittedTwice.transferOrderLines.get? 1).map
        TransferOrderLine.pickedQty = some 3 ∧
      applyToCall submittedTwice (.approve 1 1 "cat") = some approvedOnce ∧
      (approvedOnce.transferOrders.get? 1).map TransferOrder.status =
        some .awaitingApproval ∧
      approveTransferOrderApproval approvedOnce 1 2 "cat" =
        .error (.approvedQtyCheck 1) :=
  ⟨Run.ofExecute rfl, rfl, rfl, rfl, rfl, rfl⟩

end SentryWms
