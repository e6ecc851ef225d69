import SentryWms.Receiving.Cancel
import SentryWms.Receiving.ReceivedInFull

/-!
# What receiving does to a purchase order

The status of a purchase order and of its lines as a function of what they have ordered
and received, and what `receive_items`, `cancel_receiving` and `record_unreceive` do to
the rows it is read from.
-/

namespace SentryWms

open Relational Transition

/-! ## The derived statuses -/

def Store.linesOfPo (store : Store) (poId : ℕ) : List (ℕ × PurchaseOrderLine) :=
  store.purchaseOrderLines.select fun line => line.poId == poId

def PurchaseOrderLine.Settled (line : PurchaseOrderLine) : Prop :=
  line.status = line.countedStatus

instance (line : PurchaseOrderLine) : Decidable line.Settled :=
  inferInstanceAs (Decidable (line.status = line.countedStatus))

def Store.poCounts (store : Store) (poId : ℕ) : List (ℤ × ℤ) :=
  (store.linesOfPo poId).map fun entry =>
    (entry.2.quantityOrdered, entry.2.quantityReceived)

/-- The status of a purchase order as a function of what its lines have ordered and
received. -/
def derivePoStatus (counts : List (ℤ × ℤ)) : PoStatus :=
  if counts = [] then .open
  else if counts.all fun count => decide (count.1 ≤ count.2) then .received
  else if counts.any fun count => decide (0 < count.2) then .partiallyReceived
  else .open

/-- The purchase order and its lines have the statuses that the counts give. -/
structure Store.PoDerived (store : Store) (poId : ℕ) : Prop where
  lines : ∀ entry ∈ store.linesOfPo poId, entry.2.Settled
  header : ∀ order, store.purchaseOrders.get? poId = some order →
    order.status = derivePoStatus (store.poCounts poId)

def Store.poStatuses (store : Store) (poId : ℕ) :
    Option PoStatus × List (ℕ × PoLineStatus) :=
  ((store.purchaseOrders.get? poId).map PurchaseOrder.status,
    (store.linesOfPo poId).map fun entry => (entry.1, entry.2.status))

/-- What every writer of `purchase_order_lines` keeps: a line orders something and has
received no less than nothing. -/
def Store.PoLinesOrder (store : Store) : Prop :=
  ∀ entry ∈ store.purchaseOrderLines.entries,
    0 < entry.2.quantityOrdered ∧ 0 ≤ entry.2.quantityReceived

def Store.Reverses (store : Store) (scope : WarehouseScope)
    (request : CancelReceivingRequest) (poLineId : ℕ) : Prop :=
  ∃ receiptId ∈ request.receiptIds, ∃ receipt,
    store.visibleReceipt scope receiptId = some receipt ∧
      receipt.source.poLineId = some poLineId

/-- `record_unreceive` on one receipt after the other. -/
def unreceiveAll (store : Store) (calls : List (Option ℕ × ℕ)) :
    Except UnreceiveError Store :=
  calls.foldlM (fun store call => (recordUnreceive call.1 store call.2).map Prod.fst) store

section Lines

variable {store after : Store} {poId : ℕ}

theorem mem_linesOfPo {entry : ℕ × PurchaseOrderLine} :
    entry ∈ store.linesOfPo poId ↔
      entry ∈ store.purchaseOrderLines.entries ∧ entry.2.poId = poId := by
  rw [Store.linesOfPo, Table.mem_select, beq_iff_eq]

theorem linesOfPo_mapRows (poId : ℕ) {change : ℕ → PurchaseOrderLine → PurchaseOrderLine}
    (hlines : after.purchaseOrderLines = store.purchaseOrderLines.mapRows change)
    (hpoId : ∀ poLineId line, (change poLineId line).poId = line.poId) :
    after.linesOfPo poId =
      (store.linesOfPo poId).map fun entry => (entry.1, change entry.1 entry.2) := by
  rw [Store.linesOfPo, hlines, Table.select_mapRows]
  · rfl
  · intro poLineId line
    rw [hpoId]

theorem countedStatus_eq (store : Store) (poId : ℕ) :
    store.countedStatus poId =
      if store.linesOfPo poId = [] then .received
      else derivePoStatus (store.poCounts poId) := by
  rw [Store.countedStatus, ← Store.linesOfPo]
  by_cases hnil : store.linesOfPo poId = []
  · rw [if_pos hnil, hnil]
    rfl
  · have hcounts : store.poCounts poId ≠ [] := by
      rw [Store.poCounts]
      exact mt List.map_eq_nil_iff.mp hnil
    rw [if_neg hnil, derivePoStatus, if_neg hcounts, Store.poCounts, List.all_map,
      List.any_map]
    rfl

theorem derivePoStatus_map (lines : List (ℕ × PurchaseOrderLine)) :
    (if lines ≠ [] ∧ (lines.all fun line =>
        decide (line.2.quantityOrdered ≤ line.2.quantityReceived)) = true then .received
      else if (lines.any fun line => decide (0 < line.2.quantityReceived)) = true then
        .partiallyReceived
      else .open) =
      derivePoStatus (lines.map fun entry =>
        (entry.2.quantityOrdered, entry.2.quantityReceived)) := by
  cases lines with
  | nil => rfl
  | cons line lines =>
      simp only [derivePoStatus, List.all_map, List.any_map, Function.comp_def, ne_eq,
        reduceCtorEq, not_false_eq_true, true_and, List.map_eq_nil_iff, if_false]

/-- The lines that `recompute_po_status` leaves. -/
theorem recomputePoStatus_lines (store : Store) (poId : ℕ) :
    (recomputePoStatus store poId).1.purchaseOrderLines =
      store.purchaseOrderLines.mapRows fun _ line =>
        if (line.poId == poId) = true then { line with status := line.countedStatus }
        else line := rfl

theorem settle_poId (poId : ℕ) (_ : ℕ) (line : PurchaseOrderLine) :
    (if (line.poId == poId) = true then { line with status := line.countedStatus }
      else line).poId = line.poId := by
  split <;> rfl

/-- The status that `recompute_po_status` writes. -/
theorem recomputePoStatus_orders (store : Store) (poId : ℕ) :
    (recomputePoStatus store poId).1.purchaseOrders =
      store.purchaseOrders.modify poId fun order =>
        { order with
          status := derivePoStatus ((recomputePoStatus store poId).1.poCounts poId) } := by
  rw [Store.poCounts, ← derivePoStatus_map]
  rfl

/-- `recompute_po_status` gives a purchase order the derived statuses. -/
theorem recomputePoStatus_derived (store : Store) (poId : ℕ) :
    (recomputePoStatus store poId).1.PoDerived poId := by
  have hlines := linesOfPo_mapRows poId (recomputePoStatus_lines store poId)
    (settle_poId poId)
  constructor
  · intro entry hentry
    rw [hlines] at hentry
    obtain ⟨before, hbefore, rfl⟩ := List.mem_map.mp hentry
    rw [if_pos (beq_iff_eq.mpr (mem_linesOfPo.mp hbefore).2)]
    rfl
  · intro order horder
    rw [recomputePoStatus_orders, Table.modify, Table.get?_mapRows] at horder
    obtain ⟨before, -, rfl⟩ := Option.map_eq_some_iff.mp horder
    rw [if_pos rfl]

end Lines

/-! ## Taking units off a line -/

def PurchaseOrderLine.recount (line : PurchaseOrderLine) (quantityReceived : ℤ) :
    PurchaseOrderLine :=
  { line with
    quantityReceived
    status := { line with quantityReceived }.countedStatus }

theorem unreceive_eq_recount (quantity : ℤ) (line : PurchaseOrderLine) :
    line.unreceive quantity = line.recount (max 0 (line.quantityReceived - quantity)) := rfl

/-- Several reversals leave the line with some count. -/
theorem foldl_unreceive_recount {quantities : List ℤ} (hne : quantities ≠ [])
    (line : PurchaseOrderLine) :
    ∃ quantityReceived,
      quantities.foldl (fun line quantity => line.unreceive quantity) line =
        line.recount quantityReceived := by
  induction quantities generalizing line with
  | nil => exact absurd rfl hne
  | cons quantity quantities ih =>
      rw [List.foldl_cons]
      by_cases hnil : quantities = []
      · rw [hnil]
        exact ⟨_, unreceive_eq_recount quantity line⟩
      · obtain ⟨quantityReceived, hfold⟩ := ih hnil (line.unreceive quantity)
        exact ⟨quantityReceived, hfold⟩

theorem foldl_unreceive {quantities : List ℤ} (hne : quantities ≠ [])
    (hpos : ∀ quantity ∈ quantities, 0 ≤ quantity) {line : PurchaseOrderLine}
    (hsum : quantities.sum ≤ line.quantityReceived) :
    quantities.foldl (fun line quantity => line.unreceive quantity) line =
      line.recount (line.quantityReceived - quantities.sum) := by
  induction quantities generalizing line with
  | nil => exact absurd rfl hne
  | cons quantity quantities ih =>
      obtain ⟨hquantity, hothers⟩ := List.forall_mem_cons.mp hpos
      have hrest : 0 ≤ quantities.sum := List.sum_nonneg hothers
      rw [List.sum_cons] at hsum ⊢
      have hfloor : max 0 (line.quantityReceived - quantity) =
          line.quantityReceived - quantity := max_eq_right (by omega)
      rw [List.foldl_cons]
      by_cases hnil : quantities = []
      · rw [hnil, List.foldl_nil, unreceive_eq_recount, hfloor, List.sum_nil, add_zero]
      · have hleft : quantities.sum ≤ (line.unreceive quantity).quantityReceived := by
          rw [unreceive_eq_recount, hfloor, PurchaseOrderLine.recount]
          dsimp only
          omega
        rw [ih hnil hothers hleft, unreceive_eq_recount, hfloor, ← sub_sub]
        rfl

/-! ## A session cancelled -/

def bookedOn (receipts : List (ℕ × ItemReceipt)) (poLineId : ℕ) : List ℤ :=
  (receipts.filter fun entry => entry.2.source.poLineId == some poLineId).map
    fun entry => entry.2.quantityReceived

theorem bookedOn_cons (entry : ℕ × ItemReceipt) (receipts : List (ℕ × ItemReceipt))
    (poLineId : ℕ) :
    bookedOn (entry :: receipts) poLineId =
      if entry.2.source.poLineId = some poLineId then
        entry.2.quantityReceived :: bookedOn receipts poLineId
      else bookedOn receipts poLineId := by
  rw [bookedOn, List.filter_cons]
  split
  next hline => rw [if_pos (beq_iff_eq.mp hline)]; rfl
  next hline => rw [if_neg fun heq => hline (beq_iff_eq.mpr heq)]; rfl

theorem bookedOn_eq_nil {receipts : List (ℕ × ItemReceipt)} {poLineId : ℕ} :
    bookedOn receipts poLineId = [] ↔
      ∀ entry ∈ receipts, entry.2.source.poLineId ≠ some poLineId := by
  simp [bookedOn]

/-- What the loop of `cancel_receiving` does with the receipts it finds. -/
structure Cancelled (scope : WarehouseScope) (receiptIds : List ℕ)
    (state final : Cancelling) (receipts : List (ℕ × ItemReceipt)) : Prop where
  nodup : (receipts.map Prod.fst).Nodup
  found : ∀ entry, entry ∈ receipts ↔
    entry.1 ∈ receiptIds ∧ state.store.visibleReceipt scope entry.1 = some entry.2
  orders : final.store.purchaseOrders = state.store.purchaseOrders
  lines : final.store.purchaseOrderLines =
    state.store.purchaseOrderLines.mapRows fun poLineId line =>
      (bookedOn receipts poLineId).foldl (fun line quantity => line.unreceive quantity) line
  poIds : final.poIds = state.poIds ++ receipts.filterMap fun entry => entry.2.source.poId
  reversed : final.reversed = state.reversed ++ receipts.map Prod.fst

section Cancel

variable {store after : Store} {scope : WarehouseScope}

theorem reverseReceipt_lines (store : Store) (receiptId : ℕ) (receipt : ItemReceipt) :
    (reverseReceipt store receiptId receipt).purchaseOrderLines =
      store.purchaseOrderLines.mapRows fun poLineId line =>
        if receipt.source.poLineId = some poLineId then
          line.unreceive receipt.quantityReceived
        else line := by
  cases hline : receipt.source.poLineId with
  | none =>
      simp only [reverseReceipt, hline, Store.updatePoLine, Store.reverseStock,
        reduceCtorEq, if_false]
      exact store.purchaseOrderLines.mapRows_id.symm
  | some poLineId =>
      simp only [reverseReceipt, hline, Store.updatePoLine, Store.reverseStock, Table.modify,
        Option.some.injEq]
      apply Table.mapRows_congr
      intro key line _
      by_cases hkey : key = poLineId
      · rw [if_pos hkey, if_pos hkey.symm]
      · rw [if_neg hkey, if_neg (Ne.symm hkey)]

theorem reverseReceipt_orders (store : Store) (receiptId : ℕ) (receipt : ItemReceipt) :
    (reverseReceipt store receiptId receipt).purchaseOrders = store.purchaseOrders := by
  cases hline : receipt.source.poLineId with
  | none => simp only [reverseReceipt, hline, Store.updatePoLine, Store.reverseStock]
  | some poLineId => simp only [reverseReceipt, hline, Store.updatePoLine, Store.reverseStock]

theorem reverseReceipt_visible (store : Store) (receiptId : ℕ) (receipt : ItemReceipt)
    (receiptId' : ℕ) :
    (reverseReceipt store receiptId receipt).visibleReceipt scope receiptId' =
      if receiptId' = receiptId then none else store.visibleReceipt scope receiptId' := by
  have hreceipts : (reverseReceipt store receiptId receipt).itemReceipts =
      store.itemReceipts.delete receiptId := by
    cases hline : receipt.source.poLineId with
    | none => simp only [reverseReceipt, hline, Store.updatePoLine, Store.reverseStock]
    | some poLineId =>
        simp only [reverseReceipt, hline, Store.updatePoLine, Store.reverseStock]
  rw [Store.visibleReceipt, hreceipts, Table.get?_delete, Store.visibleReceipt]
  split <;> rfl

theorem cancelLoop (scope : WarehouseScope) (receiptIds : List ℕ) (state : Cancelling) :
    ∃ receipts, Cancelled scope receiptIds state
      (receiptIds.foldl (cancelReceipt scope) state) receipts := by
  induction receiptIds generalizing state with
  | nil =>
      refine ⟨[], List.nodup_nil, by simp, rfl, ?_, by simp, by simp⟩
      exact state.store.purchaseOrderLines.mapRows_id.symm
  | cons receiptId receiptIds ih =>
      rw [List.foldl_cons, cancelReceipt]
      split
      next hnone =>
        obtain ⟨receipts, hrest⟩ := ih state
        refine ⟨receipts, { hrest with found := ?_ }⟩
        intro entry
        rw [hrest.found, List.mem_cons]
        constructor
        · rintro ⟨hmem, hvisible⟩
          exact ⟨.inr hmem, hvisible⟩
        · rintro ⟨hid | hmem, hvisible⟩
          · rw [hid, hnone] at hvisible
            cases hvisible
          · exact ⟨hmem, hvisible⟩
      next receipt hsome =>
        obtain ⟨receipts, hrest⟩ := ih
          { store := reverseReceipt state.store receiptId receipt
            poIds := state.poIds ++ receipt.source.poId.toList
            reversed := state.reversed ++ [receiptId] }
        have hfresh : receiptId ∉ receipts.map Prod.fst := by
          intro hmem
          obtain ⟨entry, hentry, rfl⟩ := List.mem_map.mp hmem
          have hvisible := ((hrest.found entry).mp hentry).2
          rw [reverseReceipt_visible, if_pos rfl] at hvisible
          cases hvisible
        refine ⟨(receiptId, receipt) :: receipts, ?_, ?_, ?_, ?_, ?_, ?_⟩
        · exact List.nodup_cons.mpr ⟨hfresh, hrest.nodup⟩
        · intro entry
          rw [List.mem_cons, hrest.found, List.mem_cons]
          dsimp only
          rw [reverseReceipt_visible]
          constructor
          · rintro (rfl | ⟨hmem, hvisible⟩)
            · exact ⟨.inl rfl, hsome⟩
            · by_cases hid : entry.1 = receiptId
              · rw [if_pos hid] at hvisible
                cases hvisible
              · rw [if_neg hid] at hvisible
                exact ⟨.inr hmem, hvisible⟩
          · rintro ⟨hmem, hvisible⟩
            by_cases hid : entry.1 = receiptId
            · left
              rw [hid, hsome] at hvisible
              exact Prod.ext hid (Option.some.inj hvisible).symm
            · right
              rw [if_neg hid]
              exact ⟨hmem.resolve_left hid, hvisible⟩
        · rw [hrest.orders]
          exact reverseReceipt_orders state.store receiptId receipt
        · rw [hrest.lines]
          dsimp only
          rw [reverseReceipt_lines, Table.mapRows_mapRows]
          apply Table.mapRows_congr
          intro poLineId line _
          rw [bookedOn_cons]
          split <;> rfl
        · rw [hrest.poIds, List.filterMap_cons]
          dsimp only
          cases receipt.source.poId with
          | none => rw [Option.toList_none, List.append_nil]
          | some poId => rw [Option.toList_some, List.append_assoc]; rfl
        · rw [hrest.reversed, List.map_cons, List.append_assoc]
          rfl

theorem foldl_setCountedStatus (poIds : List ℕ) (store : Store) :
    (poIds.foldl setCountedStatus store).purchaseOrderLines = store.purchaseOrderLines ∧
      (poIds.foldl setCountedStatus store).purchaseOrders =
        store.purchaseOrders.mapRows fun poId order =>
          if poId ∈ poIds then { order with status := store.countedStatus poId }
          else order := by
  induction poIds generalizing store with
  | nil =>
      refine ⟨rfl, ?_⟩
      simp only [List.not_mem_nil, if_false]
      exact store.purchaseOrders.mapRows_id.symm
  | cons first poIds ih =>
      rw [List.foldl_cons]
      obtain ⟨hlines, horders⟩ := ih (setCountedStatus store first)
      refine ⟨hlines, ?_⟩
      have hcounted : ∀ poId, (setCountedStatus store first).countedStatus poId =
          store.countedStatus poId := fun _ => rfl
      have hfirst : (setCountedStatus store first).purchaseOrders =
          store.purchaseOrders.modify first fun order =>
            { order with status := store.countedStatus first } := rfl
      simp only [horders, hcounted]
      rw [hfirst, Table.modify, Table.mapRows_mapRows]
      apply Table.mapRows_congr
      intro poId order _
      by_cases hsame : poId = first
      · subst hsame
        simp
      · simp [hsame]

theorem cancelReceiving_spec {request : CancelReceivingRequest} {reversed : List ℕ}
    (hcancel : cancelReceiving store scope request = .ok (after, reversed))
    (hne : request.receiptIds ≠ []) :
    ∃ receipts : List (ℕ × ItemReceipt),
      (∀ entry, entry ∈ receipts ↔ entry.1 ∈ request.receiptIds ∧
        store.visibleReceipt scope entry.1 = some entry.2) ∧
      (receipts.map Prod.fst).Nodup ∧
      reversed = receipts.map Prod.fst ∧
      after.purchaseOrderLines = store.purchaseOrderLines.mapRows (fun poLineId line =>
        (bookedOn receipts poLineId).foldl
          (fun line quantity => line.unreceive quantity) line) ∧
      after.purchaseOrders = store.purchaseOrders.mapRows fun poId order =>
        if poId ∈ request.poId :: receipts.filterMap (fun entry => entry.2.source.poId)
        then { order with status := after.countedStatus poId } else order := by
  rw [cancelReceiving, if_neg (by simpa using hne)] at hcancel
  split at hcancel
  · cases hcancel
  obtain ⟨receipts, hloop⟩ := cancelLoop scope request.receiptIds
    { store, poIds := [request.poId], reversed := [] }
  dsimp only at hcancel
  generalize request.receiptIds.foldl (cancelReceipt scope)
    { store, poIds := [request.poId], reversed := [] } = state at hcancel hloop
  cases hcancel
  obtain ⟨hlines, horders⟩ := foldl_setCountedStatus state.poIds state.store
  have hcounted : ∀ poId, (state.poIds.foldl setCountedStatus state.store).countedStatus poId =
      state.store.countedStatus poId := by
    intro poId
    rw [Store.countedStatus, Store.countedStatus, hlines]
  refine ⟨receipts, hloop.found, hloop.nodup, hloop.reversed, ?_, ?_⟩
  · rw [hlines, hloop.lines]
  · simp only [hcounted]
    rw [horders, hloop.orders, hloop.poIds]
    rfl

end Cancel

/-! ## Receipts taken back one by one -/

/-- One receipt taken back, as the lines see it: the units leave its line, and the lines
of its order are settled. -/
def takeBack (receipt : ItemReceipt) (poLineId : ℕ) (line : PurchaseOrderLine) :
    PurchaseOrderLine :=
  if receipt.source.poId = some line.poId then
    line.recount
      (if receipt.source.poLineId = some poLineId then
        max 0 (line.quantityReceived - receipt.quantityReceived)
      else line.quantityReceived)
  else if receipt.source.poLineId = some poLineId then
    { line with
      quantityReceived := max 0 (line.quantityReceived - receipt.quantityReceived) }
  else line

section Unreceive

variable {store after : Store} {choice : Option ℕ} {receiptId : ℕ} {status : PoStatus}

theorem recordUnreceive_spec
    (hunreceive : recordUnreceive choice store receiptId = .ok (after, status)) :
    ∃ poId receipt, store.itemReceipts.get? receiptId = some receipt ∧
      receipt.source.poId = some poId ∧
      after.itemReceipts = store.itemReceipts.delete receiptId ∧
      after.purchaseOrderLines =
        store.purchaseOrderLines.mapRows (takeBack receipt) ∧
      after.purchaseOrders = store.purchaseOrders.modify poId (fun order =>
        { order with status := derivePoStatus (after.poCounts poId) }) ∧
      after.PoDerived poId := by
  rw [recordUnreceive] at hunreceive
  split at hunreceive
  · cases hunreceive
  next receipt hreceipt =>
    split at hunreceive
    · cases hunreceive
    next poId poLineId hsource =>
      dsimp only at hunreceive
      split at hunreceive
      · cases hunreceive
      split at hunreceive
      · cases hunreceive
      have hok := Except.ok.inj hunreceive
      have hafter := congrArg Prod.fst hok
      dsimp only at hafter
      refine ⟨poId, receipt, hreceipt, by rw [hsource]; rfl, ?_, ?_, ?_, ?_⟩
      · rw [← hafter]
        rfl
      · rw [← hafter, recomputePoStatus_lines]
        dsimp only [Store.updatePoLine, Table.modify]
        rw [Table.mapRows_mapRows]
        apply Table.mapRows_congr
        intro key line _
        rw [takeBack, hsource, ReceiptSource.poLineId, ReceiptSource.poId]
        by_cases hkey : key = poLineId
        · subst hkey
          by_cases hpo : line.poId = poId
          · simp [hpo, PurchaseOrderLine.recount]
          · simp [hpo, Ne.symm hpo]
        · by_cases hpo : line.poId = poId
          · subst hpo
            simp [hkey, Ne.symm hkey, PurchaseOrderLine.recount]
          · simp [hpo, Ne.symm hpo, hkey, Ne.symm hkey]
      · rw [← hafter]
        exact recomputePoStatus_orders _ poId
      · rw [← hafter]
        exact recomputePoStatus_derived _ poId

theorem takeBack_poId (receipt : ItemReceipt) (poLineId : ℕ) (line : PurchaseOrderLine) :
    (takeBack receipt poLineId line).poId = line.poId := by
  rw [takeBack]
  split
  · rfl
  · split <;> rfl

theorem foldl_takeBack {receipts : List (ℕ × ItemReceipt)} (hne : receipts ≠ [])
    (hpos : ∀ entry ∈ receipts, 0 ≤ entry.2.quantityReceived) {line : PurchaseOrderLine}
    (hpoId : ∀ entry ∈ receipts, entry.2.source.poId = some line.poId) {poLineId : ℕ}
    (hsum : (bookedOn receipts poLineId).sum ≤ line.quantityReceived) :
    receipts.foldl (fun line entry => takeBack entry.2 poLineId line) line =
      line.recount (line.quantityReceived - (bookedOn receipts poLineId).sum) := by
  induction receipts generalizing line with
  | nil => exact absurd rfl hne
  | cons entry receipts ih =>
      obtain ⟨hquantity, hothers⟩ := List.forall_mem_cons.mp hpos
      obtain ⟨hfirst, hrest⟩ := List.forall_mem_cons.mp hpoId
      have hnonneg : 0 ≤ (bookedOn receipts poLineId).sum := by
        apply List.sum_nonneg
        intro quantity hmem
        obtain ⟨other, hother, rfl⟩ := List.mem_map.mp hmem
        exact hothers other (List.mem_of_mem_filter hother)
      have hhead : ∃ taken, (bookedOn (entry :: receipts) poLineId).sum =
          taken + (bookedOn receipts poLineId).sum ∧
          takeBack entry.2 poLineId line = line.recount (line.quantityReceived - taken) := by
        rw [bookedOn_cons, takeBack, if_pos hfirst]
        by_cases hline : entry.2.source.poLineId = some poLineId
        · rw [bookedOn_cons, if_pos hline, List.sum_cons] at hsum
          have hfloor : max 0 (line.quantityReceived - entry.2.quantityReceived) =
              line.quantityReceived - entry.2.quantityReceived := max_eq_right (by omega)
          rw [if_pos hline, if_pos hline, hfloor]
          exact ⟨_, List.sum_cons, rfl⟩
        · rw [if_neg hline, if_neg hline]
          exact ⟨0, (zero_add _).symm, by rw [sub_zero]⟩
      obtain ⟨taken, htaken, hstep⟩ := hhead
      rw [htaken] at hsum ⊢
      rw [List.foldl_cons, hstep]
      by_cases hnil : receipts = []
      · rw [hnil]
        have hzero : (bookedOn [] poLineId).sum = 0 := rfl
        rw [List.foldl_nil, hzero, add_zero]
      · have hleft : (bookedOn receipts poLineId).sum ≤
            (line.recount (line.quantityReceived - taken)).quantityReceived := by
          rw [PurchaseOrderLine.recount]
          dsimp only
          omega
        have hpo : ∀ entry ∈ receipts, entry.2.source.poId =
            some (line.recount (line.quantityReceived - taken)).poId := hrest
        rw [ih hnil hothers hpo hleft, ← sub_sub]
        rfl

theorem unreceiveAll_spec {calls : List (Option ℕ × ℕ)}
    (hcalls : unreceiveAll store calls = .ok after) :
    ∃ receipts : List (ℕ × ItemReceipt),
      receipts.map Prod.fst = calls.map Prod.snd ∧
      (∀ entry ∈ receipts, store.itemReceipts.get? entry.1 = some entry.2) ∧
      after.purchaseOrderLines = store.purchaseOrderLines.mapRows (fun poLineId line =>
        receipts.foldl (fun line entry => takeBack entry.2 poLineId line) line) ∧
      ∀ poId, receipts ≠ [] → (∀ entry ∈ receipts, entry.2.source.poId = some poId) →
        after.PoDerived poId ∧
        after.purchaseOrders.get? poId = (store.purchaseOrders.get? poId).map fun order =>
          { order with status := derivePoStatus (after.poCounts poId) } := by
  rw [unreceiveAll] at hcalls
  induction calls generalizing store with
  | nil =>
      cases hcalls
      refine ⟨[], rfl, by simp, ?_, ?_⟩
      · exact after.purchaseOrderLines.mapRows_id.symm
      · intro poId hne
        exact absurd rfl hne
  | cons call calls ih =>
      rw [List.foldlM_cons] at hcalls
      obtain ⟨middle, hmiddle, hrest⟩ := bind_eq_ok.mp hcalls
      cases hfirst : recordUnreceive call.1 store call.2 with
      | error error =>
          rw [hfirst] at hmiddle
          cases hmiddle
      | ok result =>
          rw [hfirst] at hmiddle
          cases hmiddle
          obtain ⟨poId, receipt, hreceipt, hpoId, hreceipts, hlines, horders, hderived⟩ :=
            recordUnreceive_spec hfirst
          obtain ⟨receipts, hids, hfound, hlines', horders'⟩ := ih hrest
          refine ⟨(call.2, receipt) :: receipts, ?_, ?_, ?_, ?_⟩
          · rw [List.map_cons, List.map_cons, hids]
          · rw [List.forall_mem_cons]
            refine ⟨hreceipt, ?_⟩
            intro entry hentry
            have hget := hfound entry hentry
            rw [hreceipts, Table.get?_delete] at hget
            split at hget
            · cases hget
            · exact hget
          · rw [hlines', hlines, Table.mapRows_mapRows]
            rfl
          · intro poId' _ hall
            obtain ⟨hhead, htail⟩ := List.forall_mem_cons.mp hall
            have hsame : poId = poId' := Option.some.inj (hpoId.symm.trans hhead)
            subst hsame
            by_cases hnil : receipts = []
            · have hdone : calls = [] := by
                rw [hnil] at hids
                exact List.map_eq_nil_iff.mp hids.symm
              subst hdone
              cases hrest
              refine ⟨hderived, ?_⟩
              rw [horders, Table.modify, Table.get?_mapRows]
              congr 1
              funext order
              rw [if_pos rfl]
            · obtain ⟨hderived', hget⟩ := horders' poId hnil htail
              refine ⟨hderived', ?_⟩
              rw [hget, horders, Table.modify, Table.get?_mapRows, Option.map_map]
              congr 1
              funext order
              rw [Function.comp_apply, if_pos rfl]

end Unreceive

/-! ## Receiving -/

/-- The receipts that a request has booked so far, and what they left of the lines. -/
structure Bookings (store : Store) (poId : ℕ) (booked : List (ℕ × ItemReceipt))
    (state : Receiving) : Prop where
  ids : state.receiptIds = booked.map Prod.fst
  found : ∀ entry ∈ booked, entry ∈ state.store.itemReceipts.entries
  source : ∀ entry ∈ booked, entry.2.source.poId = some poId
  positive : ∀ entry ∈ booked, 0 < entry.2.quantityReceived
  orders : state.store.purchaseOrders = store.purchaseOrders
  lines : state.store.purchaseOrderLines =
    store.sharedLines fun poLineId => (bookedOn booked poLineId).sum

section Receive

variable {store after : Store} {poId warehouseId : ℕ} {choices : ℕ → Option ℕ}

theorem bookedOn_append (booked : List (ℕ × ItemReceipt)) (entry : ℕ × ItemReceipt)
    (poLineId : ℕ) :
    (bookedOn (booked ++ [entry]) poLineId).sum =
      (bookedOn booked poLineId).sum +
        if entry.2.source.poLineId = some poLineId then entry.2.quantityReceived else 0 := by
  rw [bookedOn, List.filter_append, List.map_append, List.sum_append, ← bookedOn,
    ← bookedOn, bookedOn_cons]
  split <;> simp [bookedOn]

variable {booked : List (ℕ × ItemReceipt)} {state : Receiving}

theorem Bookings.nonneg (hbookings : Bookings store poId booked state) (poLineId : ℕ) :
    0 ≤ (bookedOn booked poLineId).sum := by
  apply List.sum_nonneg
  intro quantity hmem
  obtain ⟨entry, hentry, rfl⟩ := List.mem_map.mp hmem
  exact (hbookings.positive entry (List.mem_of_mem_filter hentry)).le

theorem Bookings.step {next : Receiving} {entry : ReceiveItem × ℕ}
    (hbookings : Bookings store poId booked state)
    (hnext : receiveItemOn (choices entry.2) poId warehouseId state entry.1 = .ok next) :
    (∃ chosen, store.chosenLine poId choices entry = some chosen) ∧
      ∃ booked', Bookings store poId booked' next ∧ ∀ poLineId,
        (bookedOn booked' poLineId).sum = (bookedOn booked poLineId).sum +
          if (store.chosenLine poId choices entry).map Prod.fst = some poLineId then
            entry.1.quantity else 0 := by
  obtain ⟨picked, hpicked, hstore, hids⟩ := receiveItemOn_spec hnext
  rw [limitOne_sharedLines hbookings.lines, ← Store.chosenLine] at hpicked
  obtain ⟨chosen, hchosen, rfl⟩ := Option.map_eq_some_iff.mp hpicked
  obtain ⟨inventory, salesOrders, hbook⟩ :=
    bookItem_spec poId warehouseId state.store entry.1 chosen.1
  obtain ⟨receipt, hreceipt⟩ : ∃ receipt : ItemReceipt, receipt =
      { source := .purchaseOrder poId chosen.1, itemId := entry.1.itemId,
        quantityReceived := entry.1.quantity, binId := entry.1.binId, warehouseId,
        lotNumber := entry.1.lotNumber, externalId := entry.1.externalId } := ⟨_, rfl⟩
  dsimp only at hstore
  rw [← hreceipt] at hbook
  have hquantity : receipt.quantityReceived = entry.1.quantity := by rw [hreceipt]
  have hline : receipt.source.poLineId = some chosen.1 := by rw [hreceipt]; rfl
  have hsums : ∀ poLineId,
      (bookedOn (booked ++ [(state.store.itemReceipts.next, receipt)]) poLineId).sum =
        (bookedOn booked poLineId).sum +
          if some chosen.1 = some poLineId then entry.1.quantity else 0 := by
    intro poLineId
    rw [bookedOn_append, hline, hquantity]
  refine ⟨⟨chosen, hchosen⟩, booked ++ [(state.store.itemReceipts.next, receipt)], ?_, ?_⟩
  · constructor
    · rw [hids, hbookings.ids, List.map_append]
      rfl
    · rw [hstore, hbook]
      intro other hother
      rw [Table.mem_insert]
      rcases List.mem_append.mp hother with hold | hnew
      · exact .inl (hbookings.found other hold)
      · exact .inr (List.mem_singleton.mp hnew)
    · intro other hother
      rcases List.mem_append.mp hother with hold | hnew
      · exact hbookings.source other hold
      · rw [List.mem_singleton.mp hnew, hreceipt]
        rfl
    · intro other hother
      rcases List.mem_append.mp hother with hold | hnew
      · exact hbookings.positive other hold
      · rw [List.mem_singleton.mp hnew, hquantity]
        exact entry.1.quantityPos
    · rw [hstore, hbook]
      exact hbookings.orders
    · rw [hstore, hbook]
      dsimp only
      rw [hbookings.lines, Store.sharedLines, Store.sharedLines, Table.modify,
        Table.mapRows_mapRows]
      apply Table.mapRows_congr
      intro key line _
      rw [hsums]
      by_cases hkey : key = chosen.1
      · rw [if_pos hkey, if_pos (congrArg some hkey.symm)]
        exact withShare_receive (hbookings.nonneg key) entry.1.quantityPos line
      · rw [if_neg hkey, if_neg fun hsome => hkey (Option.some.inj hsome).symm, add_zero]
  · intro poLineId
    rw [hsums, hchosen, Option.map_some]

theorem Bookings.loop {final : Receiving} {entries : List (ReceiveItem × ℕ)}
    (hbookings : Bookings store poId booked state)
    (hloop : entries.foldlM (fun state entry => receiveItemOn (choices entry.2) poId warehouseId state entry.1) state = .ok final) :
    (∀ entry ∈ entries, ∃ chosen, store.chosenLine poId choices entry = some chosen) ∧
      ∃ booked', Bookings store poId booked' final ∧ ∀ poLineId,
        (bookedOn booked' poLineId).sum =
          (bookedOn booked poLineId).sum + store.sentOn poId choices entries poLineId := by
  induction entries generalizing state booked with
  | nil =>
      cases hloop
      exact ⟨by simp, booked, hbookings, fun poLineId => (add_zero _).symm⟩
  | cons entry entries ih =>
      rw [List.foldlM_cons] at hloop
      obtain ⟨middle, hmiddle, hrest⟩ := bind_eq_ok.mp hloop
      obtain ⟨hfirst, booked', hbookings', hsum⟩ := hbookings.step hmiddle
      obtain ⟨hothers, booked'', hbookings'', hsum'⟩ := ih hbookings' hrest
      refine ⟨List.forall_mem_cons.mpr ⟨hfirst, hothers⟩, booked'', hbookings'', ?_⟩
      intro poLineId
      rw [hsum', hsum, sentOn_cons, add_assoc]

theorem Bookings.start (store : Store) (poId : ℕ) :
    Bookings store poId [] { store, receiptIds := [], warnings := [] } where
  ids := rfl
  found := by simp
  source := by simp
  positive := by simp
  orders := rfl
  lines := store.purchaseOrderLines.mapRows_id.symm

/-- What an accepted request books. -/
structure Received (store : Store) (choices : ℕ → Option ℕ) (request : ReceiveItemsRequest)
    (after : Store) (receiptIds : List ℕ) (booked : List (ℕ × ItemReceipt)) : Prop where
  order : ∃ order, store.purchaseOrders.get? request.poId = some order
  line : ∃ entry ∈ store.linesOfPo request.poId,
    0 < store.sentOn request.poId choices request.items.zipIdx entry.1
  ids : receiptIds = booked.map Prod.fst
  found : ∀ entry ∈ booked, entry ∈ after.itemReceipts.entries
  source : ∀ entry ∈ booked, entry.2.source.poId = some request.poId
  positive : ∀ entry ∈ booked, 0 < entry.2.quantityReceived
  sum : ∀ poLineId, (bookedOn booked poLineId).sum =
    store.sentOn request.poId choices request.items.zipIdx poLineId
  lines : after.purchaseOrderLines =
    store.sharedLines (store.sentOn request.poId choices request.items.zipIdx)
  orders : after.purchaseOrders = store.purchaseOrders.modify request.poId fun order =>
    { order with status := after.receivedStatus request.poId }

theorem receiveItemsOn_spec {scope : WarehouseScope} {request : ReceiveItemsRequest}
    {result : ReceiveResult}
    (hreceive : receiveItemsOn choices store scope request = .ok (after, result)) :
    ∃ booked, Received store choices request after result.receiptIds booked := by
  rw [receiveItemsOn] at hreceive
  split at hreceive
  · cases hreceive
  next order horder =>
    split at hreceive
    · cases hreceive
    obtain ⟨received, hloop, hok⟩ := bind_eq_ok.mp hreceive
    cases hok
    obtain ⟨hchosen, booked, hbookings, hsum⟩ :=
      (Bookings.start store request.poId).loop hloop
    have hsent : ∀ poLineId, (bookedOn booked poLineId).sum =
        store.sentOn request.poId choices request.items.zipIdx poLineId := by
      intro poLineId
      rw [hsum]
      exact zero_add _
    refine ⟨booked, ⟨order, (Option.filter_eq_some_iff.mp horder).1⟩, ?_, hbookings.ids,
      hbookings.found, hbookings.source, hbookings.positive, hsent, ?_, ?_⟩
    · obtain ⟨item, items, hitems⟩ := List.exists_cons_of_ne_nil request.itemsNonempty
      have hfirst : (item, 0) ∈ request.items.zipIdx := by
        rw [hitems, List.zipIdx_cons]
        exact List.mem_cons_self
      obtain ⟨chosen, hline⟩ := hchosen _ hfirst
      obtain ⟨hmem, hcond⟩ := (Table.mem_select _).mp (mem_of_limitOne hline)
      rw [Bool.and_eq_true, beq_iff_eq] at hcond
      refine ⟨chosen, mem_linesOfPo.mpr ⟨hmem, hcond.1⟩, ?_⟩
      have hpos := item.quantityPos
      have hothers : 0 ≤ store.sentOn request.poId choices (items.zipIdx (0 + 1)) chosen.1 :=
        sentOn_nonneg choices _ _
      rw [hitems, List.zipIdx_cons, sentOn_cons, hline, Option.map_some, if_pos rfl]
      dsimp only
      omega
    · dsimp only
      rw [hbookings.lines, funext hsent]
    · dsimp only
      rw [hbookings.orders]
      rfl

theorem bookedOn_perm {table : Table ItemReceipt} {receipts : List (ℕ × ItemReceipt)}
    (hreceipts : ∀ entry ∈ receipts, table.get? entry.1 = some entry.2)
    (hbooked : ∀ entry ∈ booked, table.get? entry.1 = some entry.2)
    (hperm : (receipts.map Prod.fst).Perm (booked.map Prod.fst)) : receipts.Perm booked := by
  have hentries : ∀ entries : List (ℕ × ItemReceipt),
      (∀ entry ∈ entries, table.get? entry.1 = some entry.2) →
        ((entries.map Prod.fst).filterMap fun receiptId =>
          (table.get? receiptId).map fun receipt => (receiptId, receipt)) = entries := by
    intro entries hentries
    induction entries with
    | nil => rfl
    | cons entry entries ih =>
        obtain ⟨hfirst, hothers⟩ := List.forall_mem_cons.mp hentries
        rw [List.map_cons, List.filterMap_cons, hfirst, Option.map_some, ih hothers]
  have hfiltered := hperm.filterMap fun receiptId =>
    (table.get? receiptId).map fun receipt => (receiptId, receipt)
  rwa [hentries receipts hreceipts, hentries booked hbooked] at hfiltered

end Receive

end SentryWms
