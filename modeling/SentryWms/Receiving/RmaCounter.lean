import SentryWms.Receiving.Returns

/-!
# The counter of a return order

A line of a return order counts what has come back, beside the receipts that say so.
Every operation on returns keeps the two together. `cancel_receiving`, which is written
for purchase orders, deletes the receipts of a return as well, because a receipt without
a purchase order passes its check, and leaves the counter as it was.
-/

namespace SentryWms

open Relational Transition

/-! ## The property -/

def Store.returnOrders (store : Store) : List (ℕ × SalesOrder) :=
  store.salesOrders.select fun order => order.orderType == .return

def Store.linesOf (store : Store) (soId : ℕ) : List (ℕ × SalesOrderLine) :=
  store.salesOrderLines.select fun line => line.soId == soId

def ItemReceipt.booksOn (soLineId : ℕ) (receipt : ItemReceipt) : ℤ :=
  if receipt.source.soLineId = some soLineId then receipt.quantityReceived else 0

/-- The units that the receipts book against a line. -/
def Store.bookedOn (store : Store) (soLineId : ℕ) : ℤ :=
  store.itemReceipts.total fun _ receipt => receipt.booksOn soLineId

/-- The lines of the return orders count their receipts, within what was ordered, and
an order is received when its lines are. -/
structure Store.RmaCounted (store : Store) : Prop where
  booked : ∀ order ∈ store.returnOrders, ∀ line ∈ store.linesOf order.1,
    line.2.quantityReceived = store.bookedOn line.1
  bounded : ∀ order ∈ store.returnOrders, ∀ line ∈ store.linesOf order.1,
    line.2.quantityReceived ≤ line.2.quantityOrdered
  received : ∀ order ∈ store.returnOrders,
    (order.2.status = .received ↔
      ∀ line ∈ store.linesOf order.1, line.2.quantityReceived = line.2.quantityOrdered)

/-- The foreign keys of lines and receipts point at rows. -/
structure Store.ReturnKeys (store : Store) : Prop where
  lines : ∀ line ∈ store.salesOrderLines.entries, line.2.soId ∈ store.salesOrders.keys
  receipts : ∀ receipt ∈ store.itemReceipts.entries,
    ∀ soLineId ∈ receipt.2.source.soLineId, soLineId ∈ store.salesOrderLines.keys

/-! ## The requests -/

inductive ReturnRequest where
  | create (request : CreateRmaRequest)
  | receive (request : ReceiveRmaRequest)
  | void (soId : ℕ)
  | cancel (scope : WarehouseScope) (request : CancelReceivingRequest)
  | unreceive (choice : Option ℕ) (receiptId : ℕ)

/-- What a request leaves; one that is refused leaves nothing. -/
def ReturnRequest.apply (store : Store) : ReturnRequest → Option Store
  | .create request => (createReturn store request).toOption
  | .receive request => (receiveRma store request).toOption.map Prod.fst
  | .void soId => (voidReturnOrder store soId).toOption.map Prod.fst
  | .cancel scope request =>
      (cancelReceiving store scope request).toOption.map Prod.fst
  | .unreceive choice receiptId =>
      (recordUnreceive choice store receiptId).toOption.map Prod.fst

/-- A cancellation names no receipt of a return order that its user sees. -/
def ReturnRequest.sparesReturns (store : Store) : ReturnRequest → Prop
  | .cancel scope request =>
      ∀ receiptId ∈ request.receiptIds,
        ∀ receipt ∈ store.visibleReceipt scope receiptId, receipt.source.soLineId = none
  | _ => True

instance (store : Store) (request : ReturnRequest) :
    Decidable (request.sparesReturns store) := by
  cases request <;> (unfold ReturnRequest.sparesReturns; infer_instance)

section Counter

variable {store after : Store}

theorem mem_returnOrders {entry : ℕ × SalesOrder} :
    entry ∈ store.returnOrders ↔
      entry ∈ store.salesOrders.entries ∧ entry.2.orderType = .return := by
  rw [Store.returnOrders, Table.mem_select, beq_iff_eq]

variable {soId : ℕ} {entry : ℕ × SalesOrderLine}

theorem mem_linesOf :
    entry ∈ store.linesOf soId ↔
      entry ∈ store.salesOrderLines.entries ∧ entry.2.soId = soId := by
  rw [Store.linesOf, Table.mem_select, beq_iff_eq]

/-! ## Requests that do not concern returns -/

/-- The orders, their lines and what is booked against them stay; receipts may go. -/
structure Store.KeepsReturns (store after : Store) : Prop where
  orders : after.salesOrders = store.salesOrders
  lines : after.salesOrderLines = store.salesOrderLines
  receipts : ∀ entry ∈ after.itemReceipts.entries, entry ∈ store.itemReceipts.entries
  booked : after.bookedOn = store.bookedOn

theorem Store.KeepsReturns.refl (store : Store) : store.KeepsReturns store :=
  ⟨rfl, rfl, fun _ hentry => hentry, rfl⟩

theorem Store.KeepsReturns.trans {middle : Store} (hfirst : store.KeepsReturns middle)
    (hnext : middle.KeepsReturns after) : store.KeepsReturns after where
  orders := hnext.orders.trans hfirst.orders
  lines := hnext.lines.trans hfirst.lines
  receipts := fun entry hentry => hfirst.receipts entry (hnext.receipts entry hentry)
  booked := hnext.booked.trans hfirst.booked

theorem Store.KeepsReturns.ofSame (horders : after.salesOrders = store.salesOrders)
    (hlines : after.salesOrderLines = store.salesOrderLines)
    (hreceipts : after.itemReceipts = store.itemReceipts) : store.KeepsReturns after where
  orders := horders
  lines := hlines
  receipts := by
    rw [hreceipts]
    exact fun _ hentry => hentry
  booked := by
    funext soLineId
    rw [Store.bookedOn, Store.bookedOn, hreceipts]

theorem Store.KeepsReturns.rmaCounted (hkeeps : store.KeepsReturns after)
    (hcounted : store.RmaCounted) : after.RmaCounted := by
  have horders : after.returnOrders = store.returnOrders := by
    rw [Store.returnOrders, Store.returnOrders, hkeeps.orders]
  have hlines : after.linesOf = store.linesOf := by
    funext soId
    rw [Store.linesOf, Store.linesOf, hkeeps.lines]
  constructor
  · rw [horders, hlines, hkeeps.booked]
    exact hcounted.booked
  · rw [horders, hlines]
    exact hcounted.bounded
  · rw [horders, hlines]
    exact hcounted.received

theorem Store.KeepsReturns.returnKeys (hkeeps : store.KeepsReturns after)
    (hkeys : store.ReturnKeys) : after.ReturnKeys where
  lines := by
    rw [hkeeps.lines, hkeeps.orders]
    exact hkeys.lines
  receipts := by
    intro receipt hreceipt
    rw [hkeeps.lines]
    exact hkeys.receipts receipt (hkeeps.receipts receipt hreceipt)

variable {receiptId : ℕ}

theorem keepsReturns_delete {receipt : ItemReceipt}
    (hreceipt : store.itemReceipts.get? receiptId = some receipt)
    (hpurchase : receipt.source.soLineId = none) :
    store.KeepsReturns
      { store with itemReceipts := store.itemReceipts.delete receiptId } where
  orders := rfl
  lines := rfl
  receipts := fun entry hentry => (store.itemReceipts.mem_delete.mp hentry).1
  booked := by
    funext soLineId
    rw [Store.bookedOn, Table.total_delete]
    apply Table.total_congr
    intro key row hmem
    by_cases hkey : key = receiptId
    · subst hkey
      have hrow := store.itemReceipts.row_unique hmem
        ((store.itemReceipts.get?_eq_some).mp hreceipt)
      rw [if_pos rfl, hrow, ItemReceipt.booksOn, hpurchase, if_neg (by simp)]
    · rw [if_neg hkey]

/-! ## Cancelling -/

theorem reverseReceipt_keepsReturns {receipt : ItemReceipt}
    (hreceipt : store.itemReceipts.get? receiptId = some receipt)
    (hpurchase : receipt.source.soLineId = none) :
    store.KeepsReturns (reverseReceipt store receiptId receipt) := by
  refine (keepsReturns_delete hreceipt hpurchase).trans ?_
  rw [reverseReceipt]
  cases receipt.source.poLineId with
  | none => exact .ofSame rfl rfl rfl
  | some poLineId => exact .ofSame rfl rfl rfl

variable {scope : WarehouseScope}

theorem cancelReceipt_keepsReturns {state : Cancelling}
    (hspares : ∀ receipt ∈ store.visibleReceipt scope receiptId, receipt.source.soLineId = none)
    (hkeeps : store.KeepsReturns state.store) :
    store.KeepsReturns (cancelReceipt scope state receiptId).store := by
  rw [cancelReceipt]
  split
  · exact hkeeps
  next receipt hvisible =>
    obtain ⟨hget, hscope⟩ := Option.filter_eq_some_iff.mp hvisible
    refine hkeeps.trans (reverseReceipt_keepsReturns hget ?_)
    apply hspares receipt
    have hstore : store.itemReceipts.get? receiptId = some receipt := by
      rw [Table.get?_eq_some] at hget ⊢
      exact hkeeps.receipts _ hget
    exact Option.filter_eq_some_iff.mpr ⟨hstore, hscope⟩

theorem cancelReceipts_keepsReturns {receiptIds : List ℕ} {state : Cancelling}
    (hspares : ∀ receiptId ∈ receiptIds, ∀ receipt ∈ store.visibleReceipt scope receiptId, receipt.source.soLineId = none)
    (hkeeps : store.KeepsReturns state.store) :
    store.KeepsReturns (receiptIds.foldl (cancelReceipt scope) state).store := by
  induction receiptIds generalizing state with
  | nil => exact hkeeps
  | cons receiptId receiptIds ih =>
      apply ih fun other hother => hspares other (List.mem_cons_of_mem _ hother)
      exact cancelReceipt_keepsReturns (hspares receiptId List.mem_cons_self) hkeeps

theorem cancelReceiving_keepsReturns {request : CancelReceivingRequest} {reversed : List ℕ}
    (hspares : ∀ receiptId ∈ request.receiptIds, ∀ receipt ∈ store.visibleReceipt scope receiptId, receipt.source.soLineId = none)
    (hcancel : cancelReceiving store scope request = .ok (after, reversed)) :
    store.KeepsReturns after := by
  rw [cancelReceiving] at hcancel
  split at hcancel
  · cases hcancel
    exact .refl store
  split at hcancel
  · cases hcancel
  · cases hcancel
    apply foldl_invariant store.KeepsReturns
    · intro middle poId hmiddle
      exact hmiddle.trans (.ofSame rfl rfl rfl)
    · exact cancelReceipts_keepsReturns hspares (.refl store)

/-! ## Unreceiving -/

theorem recordUnreceive_keepsReturns {choice : Option ℕ} {status : PoStatus}
    (hunreceive : recordUnreceive choice store receiptId = .ok (after, status)) :
    store.KeepsReturns after := by
  rw [recordUnreceive] at hunreceive
  split at hunreceive
  · cases hunreceive
  next receipt hreceipt =>
    split at hunreceive
    · cases hunreceive
    next poId poLineId hsource =>
      dsimp only at hunreceive
      split at hunreceive
      · cases hunreceive
      split at hunreceive
      · cases hunreceive
      cases hunreceive
      have hdeleted := keepsReturns_delete hreceipt (by rw [hsource]; rfl)
      refine hdeleted.trans ?_
      exact .ofSame rfl rfl rfl

/-! ## Creating and voiding -/

theorem bookedOn_of_not_mem (hkeys : store.ReturnKeys) {soLineId : ℕ}
    (hline : soLineId ∉ store.salesOrderLines.keys) : store.bookedOn soLineId = 0 := by
  apply Table.total_eq_zero
  intro receiptId receipt hreceipt
  rw [ItemReceipt.booksOn, if_neg]
  intro hsource
  exact hline (hkeys.receipts _ hreceipt soLineId hsource)

theorem linesOf_next (hkeys : store.ReturnKeys) :
    ∀ line ∈ store.salesOrderLines.entries, line.2.soId ≠ store.salesOrders.next :=
  fun line hline hnext =>
    absurd (store.salesOrders.fresh _ (hkeys.lines line hline)) (by omega)

theorem createReturn_returnKeys {request : CreateRmaRequest} (hkeys : store.ReturnKeys)
    (hcreate : createReturn store request = .ok after) : after.ReturnKeys := by
  obtain ⟨rma, -, -, hadds, -⟩ := createReturn_spec hcreate
  have hkept : ∀ soId, soId ∈ store.salesOrders.keys ∨ soId = store.salesOrders.next →
      soId ∈ after.salesOrders.keys := by
    intro soId hsoId
    rw [hadds.orders]
    simpa [Table.keys, Table.insert] using hsoId
  constructor
  · intro line hline
    apply hkept
    rcases hadds.added line hline with hold | ⟨-, hnew, -⟩
    · exact .inl (hkeys.lines line hold)
    · exact .inr hnew
  · intro receipt hreceipt soLineId hsource
    rw [hadds.receipts] at hreceipt
    have hline := hkeys.receipts receipt hreceipt soLineId hsource
    obtain ⟨entry, hentry, rfl⟩ := List.mem_map.mp hline
    exact List.mem_map_of_mem (hadds.kept entry hentry)

theorem AddsLines.mem_linesOf {rma : SalesOrder}
    (hadds : AddsLines { store with salesOrders := store.salesOrders.insert rma } store.salesOrders.next after)
    (hsoId : soId ≠ store.salesOrders.next) : entry ∈ after.linesOf soId ↔ entry ∈ store.linesOf soId
    := by
  rw [SentryWms.mem_linesOf, SentryWms.mem_linesOf]
  constructor
  · rintro ⟨hmem, hline⟩
    rcases hadds.added entry hmem with hold | ⟨-, hnew, -⟩
    · exact ⟨hold, hline⟩
    · exact absurd (hline.symm.trans hnew) hsoId
  · rintro ⟨hmem, hline⟩
    exact ⟨hadds.kept entry hmem, hline⟩

theorem AddsLines.awaits {rma : SalesOrder} (hkeys : store.ReturnKeys)
    (hadds : AddsLines { store with salesOrders := store.salesOrders.insert rma } store.salesOrders.next after)
    (hentry : entry ∈ after.linesOf store.salesOrders.next) :
    store.salesOrderLines.next ≤ entry.1 ∧ entry.2.Awaits store.salesOrders.next := by
  obtain ⟨hmem, hline⟩ := SentryWms.mem_linesOf.mp hentry
  rcases hadds.added entry hmem with hold | hnew
  · exact absurd hline (linesOf_next hkeys entry hold)
  · exact hnew

theorem createReturn_rmaCounted {request : CreateRmaRequest} (hkeys : store.ReturnKeys)
    (hcounted : store.RmaCounted) (hcreate : createReturn store request = .ok after) :
    after.RmaCounted := by
  obtain ⟨rma, -, hopen, hadds, awaited, hawaited, hawaits⟩ := createReturn_spec hcreate
  have hbooked : after.bookedOn = store.bookedOn := by
    funext soLineId
    rw [Store.bookedOn, Store.bookedOn, hadds.receipts]
  have horders : ∀ order ∈ after.returnOrders,
      order ∈ store.returnOrders ∧ order.1 ≠ store.salesOrders.next ∨
        order = (store.salesOrders.next, rma) := by
    intro order horder
    rw [mem_returnOrders, hadds.orders, Table.mem_insert] at horder
    obtain ⟨hold | hnew, htype⟩ := horder
    · have hlt := store.salesOrders.lt_next_of_mem hold
      exact .inl ⟨mem_returnOrders.mpr ⟨hold, htype⟩, hlt.ne⟩
    · exact .inr hnew
  constructor
  · intro order horder line hline
    rw [hbooked]
    rcases horders order horder with ⟨hold, hne⟩ | rfl
    · exact hcounted.booked order hold line ((hadds.mem_linesOf hne).mp hline)
    · obtain ⟨hnext, -, hzero, -⟩ := hadds.awaits hkeys hline
      rw [hzero, bookedOn_of_not_mem hkeys]
      intro hkey
      exact absurd (store.salesOrderLines.fresh _ hkey) (by omega)
  · intro order horder line hline
    rcases horders order horder with ⟨hold, hne⟩ | rfl
    · exact hcounted.bounded order hold line ((hadds.mem_linesOf hne).mp hline)
    · obtain ⟨-, -, hzero, hpos⟩ := hadds.awaits hkeys hline
      omega
  · intro order horder
    rcases horders order horder with ⟨hold, hne⟩ | rfl
    · simpa only [hadds.mem_linesOf hne] using hcounted.received order hold
    · -- the new order is open, and its first line has received nothing
      rw [hopen]
      constructor
      · intro hreceived
        cases hreceived
      · intro hlines
        have hfull := hlines awaited (SentryWms.mem_linesOf.mpr ⟨hawaited, hawaits.1⟩)
        obtain ⟨-, hzero, hpos⟩ := hawaits
        omega

theorem modifyOrder_rmaCounted {change : SalesOrder → SalesOrder}
    (htype : ∀ order, (change order).orderType = order.orderType)
    (hstatus : ∀ order, (change order).status = order.status) (hcounted : store.RmaCounted) :
    Store.RmaCounted
      { store with salesOrders := store.salesOrders.modify soId change } := by
  have horders : ∀ order ∈ Store.returnOrders
      { store with salesOrders := store.salesOrders.modify soId change },
      ∃ before ∈ store.returnOrders, before.1 = order.1 ∧
        before.2.status = order.2.status := by
    rintro ⟨soId', order⟩ horder
    obtain ⟨hmem, hreturn⟩ := mem_returnOrders.mp horder
    obtain ⟨before, hbefore, hchange⟩ := (store.salesOrders.mem_modify).mp hmem
    refine ⟨(soId', before), mem_returnOrders.mpr ⟨hbefore, ?_⟩, rfl, ?_⟩
    · rw [← hreturn, ← hchange]
      dsimp only
      split
      · exact (htype before).symm
      · rfl
    · rw [← hchange]
      dsimp only
      split
      · exact (hstatus before).symm
      · rfl
  constructor
  · intro order horder line hline
    obtain ⟨before, hbefore, hsame, -⟩ := horders order horder
    exact hcounted.booked before hbefore line (by rw [hsame]; exact hline)
  · intro order horder line hline
    obtain ⟨before, hbefore, hsame, -⟩ := horders order horder
    exact hcounted.bounded before hbefore line (by rw [hsame]; exact hline)
  · intro order horder
    obtain ⟨before, hbefore, hsame, hstatus⟩ := horders order horder
    rw [← hstatus, ← hsame]
    exact hcounted.received before hbefore

theorem modifyOrder_returnKeys {change : SalesOrder → SalesOrder} (hkeys : store.ReturnKeys) :
    Store.ReturnKeys
      { store with salesOrders := store.salesOrders.modify soId change } where
  lines := by
    intro line hline
    rw [Table.modify, Table.mapRows_keys]
    exact hkeys.lines line hline
  receipts := hkeys.receipts

/-! ## Receiving -/

theorem rmaStatus_eq_received :
    store.rmaStatus soId = .received ↔
      ∀ line ∈ store.linesOf soId, line.2.quantityOrdered ≤ line.2.quantityReceived := by
  have hempty : (store.salesOrderLines.select fun line =>
      line.soId == soId && decide (line.quantityReceived < line.quantityOrdered)) = [] ↔
      ∀ line ∈ store.linesOf soId,
        line.2.quantityOrdered ≤ line.2.quantityReceived := by
    simp only [List.eq_nil_iff_forall_not_mem, Table.mem_select, mem_linesOf,
      Bool.and_eq_true, beq_iff_eq, decide_eq_true_eq]
    constructor
    · rintro hnone line ⟨hmem, hline⟩
      by_contra hopen
      exact hnone line ⟨hmem, hline, not_le.mp hopen⟩
    · rintro hfull line ⟨hmem, hline, hopen⟩
      exact absurd (hfull line ⟨hmem, hline⟩) (not_le.mpr hopen)
  rw [← hempty, ← List.isEmpty_iff, Store.rmaStatus]
  split
  next hnone => exact iff_of_true rfl hnone
  next hsome => exact iff_of_false (by decide) hsome

/-- The line with the units that a request brings back. -/
def SalesOrderLine.takeBack (quantity : ℤ) (line : SalesOrderLine) : SalesOrderLine :=
  { line with quantityReceived := line.quantityReceived + quantity }

/-- What a receipt of returned goods does, but for the status of the order. -/
structure BooksReturn (store : Store) (request : ReceiveRmaRequest) (soLineId : ℕ)
    (after : Store) : Prop where
  lines : after.salesOrderLines =
    store.salesOrderLines.modify soLineId (SalesOrderLine.takeBack request.quantity)
  booked : ∀ soLineId', after.bookedOn soLineId' =
    store.bookedOn soLineId' + if soLineId' = soLineId then request.quantity else 0
  orders : after.salesOrders = store.salesOrders.modify request.rmaSoId fun order =>
    { order with status := after.rmaStatus request.rmaSoId }
  receipts : ∀ receipt ∈ after.itemReceipts.entries,
    receipt ∈ store.itemReceipts.entries ∨ receipt.2.source.soLineId = some soLineId

theorem bookReturn_booksReturn (request : ReceiveRmaRequest) (soLineId : ℕ) :
    BooksReturn store request soLineId (bookReturn store request soLineId) := by
  let receipt : ItemReceipt :=
    { source := .salesOrder request.rmaSoId soLineId, itemId := request.itemId,
      quantityReceived := request.quantity, binId := request.binId,
      warehouseId := request.warehouseId, lotNumber := none,
      externalId := request.key.getD request.externalId }
  obtain ⟨inventory, hstocked⟩ := addInventory_spec
    { store with itemReceipts := store.itemReceipts.insert receipt } request.itemId
    request.binId request.warehouseId request.quantity none
  rw [bookReturn, hstocked]
  constructor
  · rfl
  · intro soLineId'
    rw [Store.bookedOn, Table.total_insert]
    congr 1
    by_cases hline : soLineId' = soLineId
    · rw [if_pos hline, hline]
      exact if_pos rfl
    · rw [if_neg hline]
      exact if_neg fun hsource => hline (Option.some.inj hsource).symm
  · rfl
  · intro receipt' hreceipt
    rcases (Table.mem_insert _).mp hreceipt with hold | rfl
    · exact .inl hold
    · exact .inr rfl

section Booking

variable {request : ReceiveRmaRequest} {soLineId : ℕ} {line : SalesOrderLine}

theorem BooksReturn.returnKeys (hbooks : BooksReturn store request soLineId after)
    (hline : (soLineId, line) ∈ store.salesOrderLines.entries)
    (hkeys : store.ReturnKeys) : after.ReturnKeys where
  lines := by
    rintro ⟨soLineId', line'⟩ hline'
    rw [hbooks.lines, Table.mem_modify] at hline'
    obtain ⟨before, hbefore, hchange⟩ := hline'
    have hsoId : line'.soId = before.soId := by
      rw [← hchange]
      split <;> rfl
    rw [hbooks.orders, Table.modify, Table.mapRows_keys, hsoId]
    exact hkeys.lines _ hbefore
  receipts := by
    intro receipt hreceipt soLineId' hsource
    rw [hbooks.lines, Table.modify, Table.mapRows_keys]
    rcases hbooks.receipts receipt hreceipt with hold | hnew
    · exact hkeys.receipts receipt hold soLineId' hsource
    · rw [Option.mem_def, hnew, Option.some.injEq] at hsource
      rw [← hsource]
      exact List.mem_map_of_mem hline

theorem BooksReturn.mem_linesOf (hbooks : BooksReturn store request soLineId after)
    {soId : ℕ} {entry : ℕ × SalesOrderLine} (hentry : entry ∈ after.linesOf soId) :
    ∃ before, (entry.1, before) ∈ store.linesOf soId ∧
      entry.2.quantityOrdered = before.quantityOrdered ∧
      entry.2.quantityReceived = before.quantityReceived +
        if entry.1 = soLineId then request.quantity else 0 := by
  obtain ⟨soLineId', line'⟩ := entry
  obtain ⟨hmem, hsoId⟩ := SentryWms.mem_linesOf.mp hentry
  rw [hbooks.lines, Table.mem_modify] at hmem
  obtain ⟨before, hbefore, hchange⟩ := hmem
  refine ⟨before, ?_⟩
  dsimp only at hsoId ⊢
  by_cases hsame : soLineId' = soLineId
  · rw [if_pos hsame] at hchange
    rw [← hchange, if_pos hsame]
    rw [← hchange] at hsoId
    exact ⟨SentryWms.mem_linesOf.mpr ⟨hbefore, hsoId⟩, rfl, rfl⟩
  · rw [if_neg hsame] at hchange
    rw [← hchange, if_neg hsame, add_zero]
    rw [← hchange] at hsoId
    exact ⟨SentryWms.mem_linesOf.mpr ⟨hbefore, hsoId⟩, rfl, rfl⟩

theorem BooksReturn.linesOf_of_ne (hbooks : BooksReturn store request soLineId after)
    (hline : (soLineId, line) ∈ store.salesOrderLines.entries) {soId : ℕ}
    (hsoId : line.soId ≠ soId) {entry : ℕ × SalesOrderLine} :
    entry ∈ after.linesOf soId ↔ entry ∈ store.linesOf soId := by
  obtain ⟨soLineId', line'⟩ := entry
  rw [SentryWms.mem_linesOf, SentryWms.mem_linesOf, hbooks.lines, Table.mem_modify]
  dsimp only
  constructor
  · rintro ⟨⟨before, hbefore, hchange⟩, hsame⟩
    by_cases hkey : soLineId' = soLineId
    · subst hkey
      rw [if_pos rfl, store.salesOrderLines.row_unique hbefore hline] at hchange
      rw [← hchange] at hsame
      exact absurd hsame hsoId
    · rw [if_neg hkey] at hchange
      rw [← hchange] at hsame ⊢
      exact ⟨hbefore, hsame⟩
  · rintro ⟨hmem, hsame⟩
    refine ⟨⟨line', hmem, if_neg ?_⟩, hsame⟩
    rintro rfl
    rw [store.salesOrderLines.row_unique hmem hline] at hsame
    exact hsoId hsame

theorem BooksReturn.rmaCounted (hbooks : BooksReturn store request soLineId after)
    (hcounted : store.RmaCounted)
    (hline : (soLineId, line) ∈ store.salesOrderLines.entries)
    (hsoId : line.soId = request.rmaSoId)
    (hroom : line.quantityReceived + request.quantity ≤ line.quantityOrdered) :
    after.RmaCounted := by
  have horders : ∀ order ∈ after.returnOrders, ∃ before ∈ store.returnOrders,
      before.1 = order.1 ∧
        order.2.status = if order.1 = request.rmaSoId then after.rmaStatus request.rmaSoId
          else before.2.status := by
    rintro ⟨soId, order⟩ horder
    obtain ⟨hmem, hreturn⟩ := mem_returnOrders.mp horder
    rw [hbooks.orders] at hmem
    obtain ⟨before, hbefore, hchange⟩ := (store.salesOrders.mem_modify).mp hmem
    refine ⟨(soId, before), mem_returnOrders.mpr ⟨hbefore, ?_⟩, rfl, ?_⟩
    · rw [← hreturn, ← hchange]
      dsimp only
      split <;> rfl
    · rw [← hchange]
      dsimp only
      split <;> rfl
  have hbounded : ∀ order ∈ after.returnOrders, ∀ entry ∈ after.linesOf order.1,
      entry.2.quantityReceived ≤ entry.2.quantityOrdered := by
    intro order horder entry hentry
    obtain ⟨before, hbefore, hsame, -⟩ := horders order horder
    obtain ⟨row, hrow, hordered, hreceived⟩ := hbooks.mem_linesOf hentry
    rw [hordered, hreceived]
    by_cases hkey : entry.1 = soLineId
    · have hrow' := (SentryWms.mem_linesOf.mp hrow).1
      rw [hkey] at hrow'
      rw [if_pos hkey, store.salesOrderLines.row_unique hrow' hline]
      exact hroom
    · rw [if_neg hkey, add_zero]
      exact hcounted.bounded before hbefore _ (by rw [hsame]; exact hrow)
  refine ⟨?_, hbounded, ?_⟩
  · intro order horder entry hentry
    obtain ⟨before, hbefore, hsame, -⟩ := horders order horder
    obtain ⟨row, hrow, -, hreceived⟩ := hbooks.mem_linesOf hentry
    rw [hreceived, hbooks.booked]
    congr 1
    exact hcounted.booked before hbefore _ (by rw [hsame]; exact hrow)
  · intro order horder
    obtain ⟨before, hbefore, hsame, hstatus⟩ := horders order horder
    rw [hstatus]
    by_cases hrma : order.1 = request.rmaSoId
    · rw [if_pos hrma, rmaStatus_eq_received, ← hrma]
      apply forall₂_congr
      intro entry hentry
      have hle := hbounded order horder entry hentry
      omega
    · rw [if_neg hrma]
      have hne : line.soId ≠ order.1 := fun heq => hrma (heq.symm.trans hsoId)
      simp only [hbooks.linesOf_of_ne hline hne]
      rw [← hsame]
      exact hcounted.received before hbefore

end Booking

/-! ## Runs -/

/-- One step of a run. -/
theorem apply_rmaCounted {request : ReturnRequest} (hkeys : store.ReturnKeys)
    (hcounted : store.RmaCounted) (hspares : request.sparesReturns store)
    (hstep : request.apply store = some after) :
    after.ReturnKeys ∧ after.RmaCounted := by
  cases request with
  | create request =>
      have hcreate := toOption_eq_some.mp hstep
      exact ⟨createReturn_returnKeys hkeys hcreate,
        createReturn_rmaCounted hkeys hcounted hcreate⟩
  | receive request =>
      obtain ⟨⟨_, result⟩, hreceive, rfl⟩ := Option.map_eq_some_iff.mp hstep
      rcases receiveRma_spec (toOption_eq_some.mp hreceive) with
        rfl | ⟨order, soLineId, line, -, -, hline, hsoId, hroom, rfl⟩
      · exact ⟨hkeys, hcounted⟩
      · have hbooks : BooksReturn store request soLineId
            (bookReturn store request soLineId) :=
          bookReturn_booksReturn request soLineId
        exact ⟨hbooks.returnKeys hline hkeys,
          hbooks.rmaCounted hcounted hline hsoId hroom⟩
  | void soId =>
      obtain ⟨⟨_, alreadyVoided⟩, hvoid, rfl⟩ := Option.map_eq_some_iff.mp hstep
      rcases voidReturnOrder_spec (toOption_eq_some.mp hvoid) with rfl | rfl
      · exact ⟨hkeys, hcounted⟩
      · exact ⟨modifyOrder_returnKeys hkeys,
          modifyOrder_rmaCounted (fun _ => rfl) (fun _ => rfl) hcounted⟩
  | cancel scope request =>
      obtain ⟨⟨_, reversed⟩, hcancel, rfl⟩ := Option.map_eq_some_iff.mp hstep
      have hkeeps := cancelReceiving_keepsReturns hspares
        (toOption_eq_some.mp hcancel)
      exact ⟨hkeeps.returnKeys hkeys, hkeeps.rmaCounted hcounted⟩
  | unreceive choice receiptId =>
      obtain ⟨⟨_, status⟩, hunreceive, rfl⟩ := Option.map_eq_some_iff.mp hstep
      have hkeeps := recordUnreceive_keepsReturns (toOption_eq_some.mp hunreceive)
      exact ⟨hkeeps.returnKeys hkeys, hkeeps.rmaCounted hcounted⟩

end Counter

/-! ## Two units that come back -/

def shippedPair : Store where
  warehouses := .ofRows [⟨"W", true⟩]
  items := .ofRows [⟨"A", none, [], true, none⟩]
  bins := .ofRows [⟨1, "B", .pickable, 1, true⟩]
  salesOrders := .ofRows
    [{ soNumber := "SO-1", soBarcode := none, status := .shipped, warehouseId := 1,
       orderType := .sale, parentSoId := none, cancellationReason := none }]
  salesOrderLines := .ofRows
    [{ soId := 1, itemId := 1, lineNumber := 1, quantityOrdered := 2,
       quantityAllocated := 0, quantityPicked := 2, quantityShipped := 2 }]

def bothBack : ReturnRequest :=
  .create ⟨1, [⟨1, 2, by decide⟩], by decide⟩

/-- Both units come back into the bin. -/
def bothReceived : ReturnRequest :=
  .receive ⟨2, 1, 2, by decide, 1, 1, none, "r1"⟩

/-- The receipt is cancelled under the number of a purchase order. -/
def bothCancelled : ReturnRequest :=
  .cancel ⟨none⟩ ⟨1, [1]⟩

theorem shippedPair_returnKeys : shippedPair.ReturnKeys := by
  constructor <;> decide +kernel

theorem shippedPair_rmaCounted : shippedPair.RmaCounted := by
  constructor <;> decide +kernel

def afterRequests (requests : List ReturnRequest) : Store :=
  (execute (fun store request => ReturnRequest.apply store request)
    (fun store request => request.sparesReturns store) shippedPair requests).getD
      shippedPair

/-! ## The counter along runs -/

/-- In every run in which no cancellation names a receipt of a return order, the lines of
the return orders count their receipts, in every state. -/
theorem returns_counted {first last : Store} {requests : List ReturnRequest}
    (hkeys : first.ReturnKeys) (hcounted : first.RmaCounted)
    (hrun : Run (fun store request => ReturnRequest.apply store request)
      (fun store request => request.sparesReturns store) first requests last) :
    last.RmaCounted :=
  (hrun.invariant (fun store => store.ReturnKeys ∧ store.RmaCounted)
    (fun hinvariant hspares hstep =>
      apply_rmaCounted hinvariant.1 hinvariant.2 hspares hstep) ⟨hkeys, hcounted⟩).2

theorem returns_counted_bothReceived :
    (afterRequests [bothBack, bothReceived]).RmaCounted ∧
      (afterRequests [bothBack, bothReceived]).bookedOn 2 = 2 :=
  have hrun : Run (fun store request => ReturnRequest.apply store request)
      (fun store request => request.sparesReturns store) shippedPair
      [bothBack, bothReceived] (afterRequests [bothBack, bothReceived]) :=
    Run.ofExecute rfl
  ⟨returns_counted shippedPair_returnKeys shippedPair_rmaCounted hrun, by decide +kernel⟩

/-- The cancellation deletes the receipt and leaves the counter at two. -/
theorem returns_not_counted :
    ¬ ∀ (first last : Store) (requests : List ReturnRequest), first.ReturnKeys →
      first.RmaCounted →
      Run (fun store request => ReturnRequest.apply store request) (fun _ _ => True)
        first requests last →
      last.RmaCounted := by
  intro hclaim
  let last := (execute (fun store request => ReturnRequest.apply store request)
    (fun _ _ => True) shippedPair [bothBack, bothReceived, bothCancelled]).getD shippedPair
  have hcounted := hclaim shippedPair last [bothBack, bothReceived, bothCancelled]
    shippedPair_returnKeys shippedPair_rmaCounted (Run.ofExecute rfl)
  have hbooked : ¬ ∀ order ∈ last.returnOrders, ∀ line ∈ last.linesOf order.1,
      line.2.quantityReceived = last.bookedOn line.1 := by
    decide +kernel
  exact hbooked hcounted.booked

end SentryWms
