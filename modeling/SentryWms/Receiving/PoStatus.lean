import SentryWms.Receiving.PoCounts

/-!
# The status of a purchase order

`receive_items`, `cancel_receiving` and `recompute_po_status` each set the status of a
purchase order and of its lines. They agree as far as the lines they leave alone were
settled before, and a cancellation recounts the order that the request names even if it
reverses nothing.
-/

namespace SentryWms

open Relational Transition

/-! ## The three paths -/

section Paths

variable {store after final : Store} {scope : WarehouseScope} {choices : ℕ → Option ℕ}

theorem withShare_settled {share : ℤ} {line : PurchaseOrderLine} (hshare : 0 ≤ share)
    (hreceived : 0 ≤ line.quantityReceived) :
    (line.withShare share).Settled ↔ (share = 0 → line.Settled) := by
  rw [PurchaseOrderLine.withShare]
  by_cases hzero : share = 0
  · rw [if_pos hzero]
    exact ⟨fun hsettled _ => hsettled, fun hsettled => hsettled hzero⟩
  · have hcount : line.quantityReceived + share ≠ 0 := by omega
    rw [if_neg hzero, PurchaseOrderLine.Settled, PurchaseOrderLine.countedStatus,
      PurchaseOrderLine.receive]
    dsimp only
    rw [if_neg hcount]
    exact ⟨fun _ hnot => absurd hnot hzero, fun _ => rfl⟩

theorem receivedStatus_eq {poId : ℕ}
    (hordered : ∀ entry ∈ store.linesOfPo poId, 0 < entry.2.quantityOrdered)
    (hsettled : ∀ entry ∈ store.linesOfPo poId, entry.2.Settled)
    (hsome : ∃ entry ∈ store.linesOfPo poId, 0 < entry.2.quantityReceived) :
    store.receivedStatus poId = derivePoStatus (store.poCounts poId) := by
  obtain ⟨entry, hentry, hpos⟩ := hsome
  have hcounts : store.poCounts poId ≠ [] := by
    rw [Store.poCounts]
    exact mt List.map_eq_nil_iff.mp (List.ne_nil_of_mem hentry)
  have hany : (store.poCounts poId).any (fun count => decide (0 < count.2)) = true := by
    rw [Store.poCounts, List.any_map, List.any_eq_true]
    exact ⟨entry, hentry, decide_eq_true hpos⟩
  have hall : ((store.linesOfPo poId).all fun line => line.2.status == .received) =
      (store.poCounts poId).all fun count => decide (count.1 ≤ count.2) := by
    rw [Store.poCounts, List.all_map, Bool.eq_iff_iff, List.all_eq_true, List.all_eq_true]
    apply forall₂_congr
    intro line hline
    have hline_ordered := hordered line hline
    rw [Function.comp_apply, beq_iff_eq, decide_eq_true_iff, hsettled line hline,
      PurchaseOrderLine.countedStatus]
    by_cases hzero : line.2.quantityReceived = 0
    · rw [if_pos hzero]
      constructor
      · intro hpending
        cases hpending
      · intro hle
        omega
    · rw [if_neg hzero]
      by_cases hle : line.2.quantityOrdered ≤ line.2.quantityReceived
      · rw [if_pos hle]
        exact iff_of_true rfl hle
      · rw [if_neg hle]
        exact iff_of_false (by rintro ⟨⟩) hle
  rw [Store.receivedStatus, ← Store.linesOfPo, hall, derivePoStatus, if_neg hcounts, hany,
    if_pos rfl]

variable {result : ReceiveResult}

/-- `receive_items` leaves the derived statuses if the lines it books nothing on had
theirs. -/
theorem receiveItemsOn_derived {request : ReceiveItemsRequest} (hordered : store.PoLinesOrder)
    (hreceive : receiveItemsOn choices store scope request = .ok (after, result)) :
    after.PoDerived request.poId ↔ ∀ entry ∈ store.linesOfPo request.poId,
      store.sentOn request.poId choices request.items.zipIdx entry.1 = 0 →
        entry.2.Settled := by
  obtain ⟨booked, hreceived⟩ := receiveItemsOn_spec hreceive
  have hlines := linesOfPo_mapRows request.poId hreceived.lines
    fun _ line => withShare_poId _ line
  have hiff : (∀ entry ∈ after.linesOfPo request.poId, entry.2.Settled) ↔
      ∀ entry ∈ store.linesOfPo request.poId,
        store.sentOn request.poId choices request.items.zipIdx entry.1 = 0 →
          entry.2.Settled := by
    rw [hlines, List.forall_mem_map]
    apply forall₂_congr
    intro entry hentry
    exact withShare_settled (sentOn_nonneg choices _ entry.1)
      (hordered entry (mem_linesOfPo.mp hentry).1).2
  rw [← hiff]
  constructor
  · exact Store.PoDerived.lines
  · intro hsettled
    refine ⟨hsettled, ?_⟩
    intro order horder
    rw [hreceived.orders, Table.modify, Table.get?_mapRows] at horder
    obtain ⟨before, -, rfl⟩ := Option.map_eq_some_iff.mp horder
    rw [if_pos rfl]
    apply receivedStatus_eq _ hsettled
    · obtain ⟨entry, hentry, hsent⟩ := hreceived.line
      refine ⟨_, hlines ▸ List.mem_map_of_mem hentry, ?_⟩
      have hnonneg := (hordered entry (mem_linesOfPo.mp hentry).1).2
      dsimp only
      rw [withShare_quantityReceived]
      omega
    · rw [hlines, List.forall_mem_map]
      intro entry hentry
      rw [withShare_quantityOrdered]
      exact (hordered entry (mem_linesOfPo.mp hentry).1).1

theorem foldl_unreceive_settled (quantities : List ℤ) (line : PurchaseOrderLine) :
    (quantities.foldl (fun line quantity => line.unreceive quantity) line).Settled ↔
      (quantities = [] → line.Settled) := by
  by_cases hnil : quantities = []
  · rw [hnil]
    exact ⟨fun hsettled _ => hsettled, fun hsettled => hsettled rfl⟩
  · obtain ⟨quantityReceived, hfold⟩ := foldl_unreceive_recount hnil line
    rw [hfold]
    exact iff_of_true rfl fun hnot => absurd hnot hnil

theorem foldl_unreceive_poId (quantities : List ℤ) (line : PurchaseOrderLine) :
    (quantities.foldl (fun line quantity => line.unreceive quantity) line).poId =
      line.poId := by
  by_cases hnil : quantities = []
  · rw [hnil]
    rfl
  · obtain ⟨quantityReceived, hfold⟩ := foldl_unreceive_recount hnil line
    rw [hfold]
    rfl

/-- `cancel_receiving` leaves the derived statuses if the order has lines and those that
no reversed receipt names had theirs. -/
theorem cancelReceiving_derived {request : CancelReceivingRequest} {reversed : List ℕ}
    (hcancel : cancelReceiving store scope request = .ok (after, reversed))
    (hne : request.receiptIds ≠ []) :
    after.PoDerived request.poId ↔
      ((∃ order, store.purchaseOrders.get? request.poId = some order) →
        store.linesOfPo request.poId ≠ []) ∧
      ∀ entry ∈ store.linesOfPo request.poId,
        ¬ store.Reverses scope request entry.1 → entry.2.Settled := by
  obtain ⟨receipts, hfound, -, -, hafter, horders⟩ := cancelReceiving_spec hcancel hne
  have hlines := linesOfPo_mapRows request.poId hafter
    fun _ line => foldl_unreceive_poId _ line
  have hnamed : ∀ poLineId, bookedOn receipts poLineId = [] ↔
      ¬ store.Reverses scope request poLineId := by
    intro poLineId
    rw [bookedOn_eq_nil]
    constructor
    · rintro hnone ⟨receiptId, hmem, receipt, hvisible, hline⟩
      exact hnone (receiptId, receipt) ((hfound _).mpr ⟨hmem, hvisible⟩) hline
    · intro hnone entry hentry hline
      obtain ⟨hmem, hvisible⟩ := (hfound entry).mp hentry
      exact hnone ⟨entry.1, hmem, entry.2, hvisible, hline⟩
  have hsettled : (∀ entry ∈ after.linesOfPo request.poId, entry.2.Settled) ↔
      ∀ entry ∈ store.linesOfPo request.poId,
        ¬ store.Reverses scope request entry.1 → entry.2.Settled := by
    rw [hlines, List.forall_mem_map]
    apply forall₂_congr
    intro entry _
    rw [foldl_unreceive_settled, hnamed]
  have hheader : (∀ order, after.purchaseOrders.get? request.poId = some order →
      order.status = derivePoStatus (after.poCounts request.poId)) ↔
      ((∃ order, store.purchaseOrders.get? request.poId = some order) →
        store.linesOfPo request.poId ≠ []) := by
    have hempty : after.linesOfPo request.poId = [] ↔
        store.linesOfPo request.poId = [] := by
      rw [hlines, List.map_eq_nil_iff]
    rw [horders, Table.get?_mapRows, ne_eq, ← hempty]
    cases hget : store.purchaseOrders.get? request.poId with
    | none => simp
    | some order =>
        simp only [Option.map_some, Option.some.injEq, forall_eq', List.mem_cons, true_or,
          if_true, countedStatus_eq]
        by_cases hnil : after.linesOfPo request.poId = []
        · rw [if_pos hnil, Store.poCounts, hnil]
          simp [derivePoStatus]
        · rw [if_neg hnil]
          exact iff_of_true rfl fun _ => hnil
  rw [← hsettled, ← hheader]
  exact ⟨fun hderived => ⟨hderived.header, hderived.lines⟩,
    fun hboth => ⟨hboth.2, hboth.1⟩⟩

theorem cancelReceiving_idle {request : CancelReceivingRequest}
    (hcancel : cancelReceiving store scope request = .ok (after, [])) :
    (after.purchaseOrders = store.purchaseOrders ∧
        after.purchaseOrderLines = store.purchaseOrderLines) ↔
      request.receiptIds = [] ∨ ∀ order,
        store.purchaseOrders.get? request.poId = some order →
          order.status = store.countedStatus request.poId := by
  by_cases hnil : request.receiptIds = []
  · rw [cancelReceiving, hnil] at hcancel
    cases hcancel
    exact iff_of_true ⟨rfl, rfl⟩ (.inl hnil)
  · obtain ⟨receipts, -, -, hreversed, hafter, horders⟩ :=
      cancelReceiving_spec hcancel hnil
    have hnone : receipts = [] := List.map_eq_nil_iff.mp hreversed.symm
    subst hnone
    have hlines : after.purchaseOrderLines = store.purchaseOrderLines := by
      rw [hafter]
      exact store.purchaseOrderLines.mapRows_id
    have hcounted : after.countedStatus request.poId =
        store.countedStatus request.poId := by
      rw [Store.countedStatus, Store.countedStatus, hlines]
    constructor
    · rintro ⟨hsame, -⟩
      right
      intro order horder
      have hget := congrArg (fun table : Table PurchaseOrder => table.get? request.poId) horders
      rw [Table.get?_mapRows, hsame, horder, Option.map_some, if_pos List.mem_cons_self,
        hcounted] at hget
      exact congrArg PurchaseOrder.status (Option.some.inj hget)
    · rintro (hempty | hheader)
      · exact absurd hempty hnil
      · refine ⟨?_, hlines⟩
        rw [horders]
        refine (Table.mapRows_congr _ ?_).trans store.purchaseOrders.mapRows_id
        intro poId order horder
        split
        next hmem =>
          have hpoId : poId = request.poId := List.mem_singleton.mp hmem
          subst hpoId
          rw [hcounted, ← hheader order ((store.purchaseOrders.get?_eq_some).mpr horder)]
        · rfl

/-! ## There and back -/

theorem recount_self_status (line : PurchaseOrderLine) :
    (line.recount line.quantityReceived).status = line.status ↔ line.Settled :=
  eq_comm

/-- Where the counts are back and some lines have been settled on the way, the statuses
are back exactly when these lines and the order had the derived ones. -/
theorem poStatuses_eq_iff {poId : ℕ} {touched : ℕ → Prop}
    {change : ℕ → PurchaseOrderLine → PurchaseOrderLine}
    (hfinal : final.purchaseOrderLines = store.purchaseOrderLines.mapRows change)
    (hpoId : ∀ poLineId line, (change poLineId line).poId = line.poId)
    (htouched : ∀ entry ∈ store.linesOfPo poId, touched entry.1 →
      change entry.1 entry.2 = entry.2.recount entry.2.quantityReceived)
    (hother : ∀ entry ∈ store.linesOfPo poId, ¬ touched entry.1 →
      change entry.1 entry.2 = entry.2)
    (hheader : (final.purchaseOrders.get? poId).map PurchaseOrder.status =
      (store.purchaseOrders.get? poId).map fun _ => derivePoStatus (final.poCounts poId)) :
    final.poStatuses poId = store.poStatuses poId ↔
      (∀ entry ∈ store.linesOfPo poId, touched entry.1 → entry.2.Settled) ∧
        ∀ order, store.purchaseOrders.get? poId = some order →
          order.status = derivePoStatus (store.poCounts poId) := by
  have hlines := linesOfPo_mapRows poId hfinal hpoId
  have hcounts : final.poCounts poId = store.poCounts poId := by
    rw [Store.poCounts, hlines, List.map_map, Store.poCounts]
    apply List.map_congr_left
    intro entry hentry
    rw [Function.comp_apply]
    by_cases hline : touched entry.1
    · rw [htouched entry hentry hline]
      rfl
    · rw [hother entry hentry hline]
  have hstatuses : ((final.linesOfPo poId).map fun entry => (entry.1, entry.2.status)) =
        ((store.linesOfPo poId).map fun entry => (entry.1, entry.2.status)) ↔
      ∀ entry ∈ store.linesOfPo poId, touched entry.1 → entry.2.Settled := by
    rw [hlines, List.map_map, List.map_inj_left]
    apply forall₂_congr
    intro entry hentry
    rw [Function.comp_apply, Prod.mk.injEq]
    by_cases hline : touched entry.1
    · rw [htouched entry hentry hline, recount_self_status]
      exact ⟨fun hsettled _ => hsettled.2, fun hsettled => ⟨rfl, hsettled hline⟩⟩
    · rw [hother entry hentry hline]
      exact iff_of_true ⟨rfl, rfl⟩ fun hnot => absurd hnot hline
  rw [Store.poStatuses, Store.poStatuses, Prod.mk.injEq, hheader, hstatuses, hcounts,
    and_comm]
  apply and_congr_right'
  cases store.purchaseOrders.get? poId with
  | none => simp
  | some order =>
      simp only [Option.map_some, Option.some.injEq, forall_eq']
      exact eq_comm

theorem recount_withShare (share quantity : ℤ) (line : PurchaseOrderLine) :
    (line.withShare share).recount quantity = line.recount quantity := by
  rw [PurchaseOrderLine.withShare]
  split <;> rfl

variable {request : ReceiveItemsRequest} {receiptIds : List ℕ}
  {booked : List (ℕ × ItemReceipt)}

theorem Received.ne_nil (hreceived : Received store choices request after receiptIds booked) :
    booked ≠ [] := by
  obtain ⟨entry, -, hsent⟩ := hreceived.line
  rintro rfl
  rw [← hreceived.sum] at hsent
  exact absurd hsent (lt_irrefl 0)

theorem Received.get? (hreceived : Received store choices request after receiptIds booked)
    (entry : ℕ × ItemReceipt) (hentry : entry ∈ booked) :
    after.itemReceipts.get? entry.1 = some entry.2 :=
  (after.itemReceipts.get?_eq_some).mpr (hreceived.found entry hentry)

theorem Received.bookedOn_eq_nil
    (hreceived : Received store choices request after receiptIds booked) (poLineId : ℕ) :
    bookedOn booked poLineId = [] ↔
      store.sentOn request.poId choices request.items.zipIdx poLineId = 0 := by
  rw [← hreceived.sum]
  constructor
  · intro hnil
    rw [hnil]
    rfl
  · intro hzero
    by_contra hne
    have hpos : ∀ quantity ∈ bookedOn booked poLineId, 0 < quantity := by
      intro quantity hmem
      obtain ⟨entry, hentry, rfl⟩ := List.mem_map.mp hmem
      exact hreceived.positive entry (List.mem_of_mem_filter hentry)
    have hsum := List.sum_pos _ hpos hne
    omega

/-- Receiving and cancelling the same receipts brings the statuses back exactly when the
lines that were booked on, and the order, had the derived ones. -/
theorem receive_cancel_iff {scope' : WarehouseScope} {cancelled reversed : List ℕ}
    (hordered : store.PoLinesOrder)
    (hreceive : receiveItemsOn choices store scope request = .ok (after, result))
    (hcancel : cancelReceiving after scope' ⟨request.poId, cancelled⟩ = .ok (final, reversed))
    (hsame : reversed.Perm result.receiptIds) :
    final.poStatuses request.poId = store.poStatuses request.poId ↔
      (∀ entry ∈ store.linesOfPo request.poId,
        store.sentOn request.poId choices request.items.zipIdx entry.1 ≠ 0 →
          entry.2.Settled) ∧
        ∀ order, store.purchaseOrders.get? request.poId = some order →
          order.status = derivePoStatus (store.poCounts request.poId) := by
  obtain ⟨booked, hreceived⟩ := receiveItemsOn_spec hreceive
  have hne : cancelled ≠ [] := by
    rintro rfl
    cases hcancel
    rw [hreceived.ids] at hsame
    exact hreceived.ne_nil (List.map_eq_nil_iff.mp hsame.symm.eq_nil)
  obtain ⟨receipts, hfound, -, hreversed, hfinal, horders⟩ := cancelReceiving_spec hcancel hne
  have hget : ∀ entry ∈ receipts, after.itemReceipts.get? entry.1 = some entry.2 :=
    fun entry hentry => (Option.filter_eq_some_iff.mp ((hfound entry).mp hentry).2).1
  rw [hreversed, hreceived.ids] at hsame
  have hperm := bookedOn_perm hget hreceived.get? hsame
  have hbooked : ∀ poLineId, (bookedOn receipts poLineId).Perm (bookedOn booked poLineId) :=
    fun poLineId => (hperm.filter _).map _
  rw [hreceived.lines, Store.sharedLines, Table.mapRows_mapRows] at hfinal
  have hlines := linesOfPo_mapRows request.poId hfinal fun poLineId line =>
    (foldl_unreceive_poId _ _).trans (withShare_poId _ line)
  refine @poStatuses_eq_iff store final request.poId
    (fun poLineId => store.sentOn request.poId choices request.items.zipIdx poLineId ≠ 0)
    _ hfinal (fun _ line => (foldl_unreceive_poId _ _).trans (withShare_poId _ line))
    ?_ ?_ ?_
  · intro entry hentry hsent
    have hnonneg := (hordered entry (mem_linesOfPo.mp hentry).1).2
    have hsum := (hbooked entry.1).sum_eq
    rw [hreceived.sum] at hsum
    have hline : bookedOn receipts entry.1 ≠ [] := by
      intro hnil
      have hbookedNil := hbooked entry.1
      rw [hnil] at hbookedNil
      exact hsent ((hreceived.bookedOn_eq_nil entry.1).mp hbookedNil.symm.eq_nil)
    have hpos : ∀ quantity ∈ bookedOn receipts entry.1, 0 ≤ quantity := by
      intro quantity hmem
      obtain ⟨other, hother, rfl⟩ := List.mem_map.mp hmem
      exact (hreceived.positive other
        (hperm.mem_iff.mp (List.mem_of_mem_filter hother))).le
    rw [foldl_unreceive hline hpos, hsum, withShare_quantityReceived, recount_withShare,
      add_sub_cancel_right]
    rw [hsum, withShare_quantityReceived]
    omega
  · intro entry hentry hsent
    rw [not_not] at hsent
    have hnil := hbooked entry.1
    rw [(hreceived.bookedOn_eq_nil entry.1).mpr hsent] at hnil
    rw [hnil.eq_nil, hsent, List.foldl_nil, PurchaseOrderLine.withShare, if_pos rfl]
  · have hlinesNe : final.linesOfPo request.poId ≠ [] := by
      obtain ⟨entry, hentry, -⟩ := hreceived.line
      rw [hlines]
      exact mt List.map_eq_nil_iff.mp (List.ne_nil_of_mem hentry)
    rw [horders, hreceived.orders, Table.modify, Table.get?_mapRows, Table.get?_mapRows,
      Option.map_map, Option.map_map]
    congr 1
    funext order
    simp only [Function.comp_apply, List.mem_cons, true_or, if_true, countedStatus_eq,
      if_neg hlinesNe]

/-- Receiving and taking back the same receipts brings the statuses back exactly when the
order and all its lines had the derived ones. -/
theorem receive_unreceive_iff {calls : List (Option ℕ × ℕ)} (hordered : store.PoLinesOrder)
    (hreceive : receiveItemsOn choices store scope request = .ok (after, result))
    (hcalls : unreceiveAll after calls = .ok final)
    (hsame : (calls.map Prod.snd).Perm result.receiptIds) :
    final.poStatuses request.poId = store.poStatuses request.poId ↔
      store.PoDerived request.poId := by
  obtain ⟨booked, hreceived⟩ := receiveItemsOn_spec hreceive
  obtain ⟨receipts, hids, hget, hfinal, horders⟩ := unreceiveAll_spec hcalls
  rw [← hids, hreceived.ids] at hsame
  have hperm := bookedOn_perm hget hreceived.get? hsame
  have hsum : ∀ poLineId, (bookedOn receipts poLineId).sum =
      store.sentOn request.poId choices request.items.zipIdx poLineId := by
    intro poLineId
    rw [← hreceived.sum]
    exact ((hperm.filter _).map _).sum_eq
  have hne : receipts ≠ [] := by
    rintro rfl
    exact hreceived.ne_nil hperm.symm.eq_nil
  have hpoIds : ∀ entry ∈ receipts, entry.2.source.poId = some request.poId :=
    fun entry hentry => hreceived.source entry (hperm.mem_iff.mp hentry)
  have hpos : ∀ entry ∈ receipts, 0 ≤ entry.2.quantityReceived :=
    fun entry hentry => (hreceived.positive entry (hperm.mem_iff.mp hentry)).le
  obtain ⟨-, hheader⟩ := horders request.poId hne hpoIds
  rw [hreceived.lines, Store.sharedLines, Table.mapRows_mapRows] at hfinal
  have hpoId : ∀ (receipts : List (ℕ × ItemReceipt)) (poLineId : ℕ) (line : PurchaseOrderLine),
      (receipts.foldl (fun line entry => takeBack entry.2 poLineId line) line).poId =
        line.poId := by
    intro receipts poLineId line
    refine foldl_invariant (fun line' : PurchaseOrderLine => line'.poId = line.poId) ?_ _ rfl
    intro line' entry hline'
    rw [takeBack_poId, hline']
  have hiff := @poStatuses_eq_iff store final request.poId (fun _ => True) _ hfinal
    (fun poLineId line => (hpoId receipts poLineId _).trans (withShare_poId _ line)) ?_ ?_ ?_
  · rw [hiff]
    exact ⟨fun hboth => ⟨fun entry hentry => hboth.1 entry hentry trivial, hboth.2⟩,
      fun hderived => ⟨fun entry hentry _ => hderived.lines entry hentry, hderived.header⟩⟩
  · intro entry hentry _
    obtain ⟨hmem, hline⟩ := mem_linesOfPo.mp hentry
    have hnonneg := (hordered entry hmem).2
    rw [foldl_takeBack hne hpos, hsum, withShare_quantityReceived, recount_withShare,
      add_sub_cancel_right]
    · intro other hother
      rw [withShare_poId, hline]
      exact hpoIds other hother
    · rw [hsum, withShare_quantityReceived]
      omega
  · intro entry _ hnot
    exact absurd trivial hnot
  · rw [hheader, hreceived.orders, Table.modify, Table.get?_mapRows, Option.map_map,
      Option.map_map]
    rfl

end Paths

/-! ## When the paths agree -/

/-- A closed order of which four units out of ten have come. -/
def closedPurchase : Store where
  warehouses := .ofRows [⟨"W", true⟩]
  items := .ofRows [⟨"A", none, [], true, none⟩]
  purchaseOrders := .ofRows [⟨1, .closed⟩]
  purchaseOrderLines := .ofRows [⟨1, 1, 1, 10, 4, .partiallyReceived⟩]

theorem closedPurchase_ordered : closedPurchase.PoLinesOrder := by
  intro entry hentry
  rw [List.mem_singleton.mp hentry]
  decide

/-- Each path leaves the derived statuses, and each way back the statuses from before,
exactly as far as the lines and the order it relies on had the derived ones. -/
theorem poStatus_iff {store : Store} (hordered : store.PoLinesOrder) :
    (∀ choices scope request after result,
      receiveItemsOn choices store scope request = .ok (after, result) →
        (after.PoDerived request.poId ↔ ∀ entry ∈ store.linesOfPo request.poId,
          store.sentOn request.poId choices request.items.zipIdx entry.1 = 0 →
            entry.2.Settled)) ∧
    (∀ scope request after reversed,
      cancelReceiving store scope request = .ok (after, reversed) →
        request.receiptIds ≠ [] →
          (after.PoDerived request.poId ↔
            ((∃ order, store.purchaseOrders.get? request.poId = some order) →
              store.linesOfPo request.poId ≠ []) ∧
            ∀ entry ∈ store.linesOfPo request.poId,
              ¬ store.Reverses scope request entry.1 → entry.2.Settled)) ∧
    (∀ choice receiptId after status,
      recordUnreceive choice store receiptId = .ok (after, status) →
        ∃ poId receipt, store.itemReceipts.get? receiptId = some receipt ∧
          receipt.source.poId = some poId ∧ after.PoDerived poId) ∧
    (∀ choices scope request after result scope' cancelled final reversed,
      receiveItemsOn choices store scope request = .ok (after, result) →
        cancelReceiving after scope' ⟨request.poId, cancelled⟩ = .ok (final, reversed) →
          reversed.Perm result.receiptIds →
            (final.poStatuses request.poId = store.poStatuses request.poId ↔
              (∀ entry ∈ store.linesOfPo request.poId,
                store.sentOn request.poId choices request.items.zipIdx entry.1 ≠ 0 →
                  entry.2.Settled) ∧
              ∀ order, store.purchaseOrders.get? request.poId = some order →
                order.status = derivePoStatus (store.poCounts request.poId))) ∧
    (∀ choices scope request after result calls final,
      receiveItemsOn choices store scope request = .ok (after, result) →
        unreceiveAll after calls = .ok final →
          (calls.map Prod.snd).Perm result.receiptIds →
            (final.poStatuses request.poId = store.poStatuses request.poId ↔
              store.PoDerived request.poId)) ∧
    (∀ scope request after,
      cancelReceiving store scope request = .ok (after, []) →
        ((after.purchaseOrders = store.purchaseOrders ∧
            after.purchaseOrderLines = store.purchaseOrderLines) ↔
          request.receiptIds = [] ∨ ∀ order,
            store.purchaseOrders.get? request.poId = some order →
              order.status = store.countedStatus request.poId)) := by
  refine ⟨?_, ?_, ?_, ?_, ?_, ?_⟩
  · intro choices scope request after result hreceive
    exact receiveItemsOn_derived hordered hreceive
  · intro scope request after reversed hcancel hne
    exact cancelReceiving_derived hcancel hne
  · intro choice receiptId after status hunreceive
    obtain ⟨poId, receipt, hreceipt, hpoId, -, -, -, hderived⟩ :=
      recordUnreceive_spec hunreceive
    exact ⟨poId, receipt, hreceipt, hpoId, hderived⟩
  · intro choices scope request after result scope' cancelled final reversed hreceive
      hcancel hsame
    exact receive_cancel_iff hordered hreceive hcancel hsame
  · intro choices scope request after result calls final hreceive hcalls hsame
    exact receive_unreceive_iff hordered hreceive hcalls hsame
  · intro scope request after hcancel
    exact cancelReceiving_idle hcancel

theorem poStatus_iff_closedPurchase :
    ¬ ∀ order, closedPurchase.purchaseOrders.get? 1 = some order →
      order.status = closedPurchase.countedStatus 1 := by
  intro hcounted
  have hidle := (poStatus_iff closedPurchase_ordered).2.2.2.2.2 ⟨none⟩ ⟨1, [99]⟩
    (setCountedStatus closedPurchase 1) rfl
  have hsame := (hidle.mpr (.inr hcounted)).1
  have hget := congrArg (fun table : Table PurchaseOrder => table.get? 1) hsame
  exact absurd hget (by decide +kernel)

/-- A receipt that does not exist reopens the order. -/
theorem cancel_reopensClosed :
    ¬ ∀ (store after : Store) (scope : WarehouseScope) (request : CancelReceivingRequest),
      store.PoLinesOrder → cancelReceiving store scope request = .ok (after, []) →
        after.purchaseOrders = store.purchaseOrders := by
  intro hclaim
  have hsame := hclaim closedPurchase (setCountedStatus closedPurchase 1) ⟨none⟩
    ⟨1, [99]⟩ closedPurchase_ordered rfl
  have hget := congrArg (fun table : Table PurchaseOrder => table.get? 1) hsame
  exact absurd hget (by decide +kernel)

end SentryWms
