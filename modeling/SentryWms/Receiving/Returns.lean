import SentryWms.Pos.Sale
import SentryWms.Receiving.Cancel

/-!
# Return orders

The life of a return order: `create_rma` opens it with the lines it expects back,
`receive_rma` books the goods, `void_return_order` hides one that was a mistake. For each
operation, what a request that is accepted does to the orders, their lines and the
receipts.
-/

namespace SentryWms

open Relational Transition

/-! ## Creating -/

structure RmaLineEntry where
  itemId : ℕ
  quantity : ℤ
  quantityPos : 0 < quantity

/-- `CreateRmaRequest`, for the order of the route. -/
structure CreateRmaRequest where
  originalSoId : ℕ
  lines : List RmaLineEntry
  linesNonempty : lines ≠ []

/-- Why a return order is not created. The last one is an exception of the database. -/
inductive CreateRmaError where
  | refused (error : CheckoutError)
  | itemMissing (itemId : ℕ)

/-- `create_rma_route`. An item that does not exist violates a foreign key. -/
def createReturn (store : Store) (request : CreateRmaRequest) :
    Except CreateRmaError Store :=
  match createRma store request.originalSoId
      (request.lines.map fun line => (line.itemId, line.quantity)) with
  | .error error => .error (.refused error)
  | .ok after =>
      match request.lines.find? fun line => (store.items.get? line.itemId).isNone with
      | some line => .error (.itemMissing line.itemId)
      | none => .ok after

/-! ## Voiding -/

inductive ReturnVoidNotAllowed where
  | notFound
  | notAReturn (currentStatus : SoStatus)
  | notOpen (currentStatus : SoStatus)
  | hasReceipts (currentStatus : SoStatus)
  | hasRefund (currentStatus : SoStatus)

/-- `item_receipts.so_id`. -/
def ReceiptSource.soId : ReceiptSource → Option ℕ
  | .purchaseOrder _ _ => none
  | .salesOrder soId _ => some soId

/-- `void_return_order`, and whether the order was voided before. -/
def voidReturnOrder (store : Store) (soId : ℕ) :
    Except ReturnVoidNotAllowed (Store × Bool) :=
  match store.salesOrders.get? soId with
  | none => .error .notFound
  | some order =>
      if order.voidedAt.isSome then .ok (store, true)
      else if order.orderType ≠ .return then .error (.notAReturn order.status)
      else if order.status ≠ .open then .error (.notOpen order.status)
      else if store.itemReceipts.entries.any fun entry =>
          entry.2.source.soId == some soId then
        .error (.hasReceipts order.status)
      else if order.refundSoId.isSome then .error (.hasRefund order.status)
      else
        .ok ({ store with
          salesOrders := store.salesOrders.modify soId fun order =>
            { order with voidedAt := some store.now } }, false)

/-! ## What the operations do -/

variable {store after : Store}

/-- The order that `create_rma` inserts. -/
def SalesOrder.rma (original : SalesOrder) (originalSoId createdAt : ℕ)
    (soNumber : String) : SalesOrder where
  soNumber := soNumber
  soBarcode := some soNumber
  status := .open
  warehouseId := original.warehouseId
  orderType := .return
  parentSoId := some originalSoId
  cancellationReason := none
  createdAt := createdAt
  orderSource := original.orderSource

/-- A line that expects units back, of which none have come. -/
def SalesOrderLine.Awaits (soId : ℕ) (line : SalesOrderLine) : Prop :=
  line.soId = soId ∧ line.quantityReceived = 0 ∧ 0 < line.quantityOrdered

/-- The lines of a store, and new ones that await units of an order. -/
structure AddsLines (store : Store) (soId : ℕ) (after : Store) : Prop where
  kept : ∀ entry ∈ store.salesOrderLines.entries, entry ∈ after.salesOrderLines.entries
  added : ∀ entry ∈ after.salesOrderLines.entries,
    entry ∈ store.salesOrderLines.entries ∨
      store.salesOrderLines.next ≤ entry.1 ∧ entry.2.Awaits soId
  next : store.salesOrderLines.next ≤ after.salesOrderLines.next
  orders : after.salesOrders = store.salesOrders
  receipts : after.itemReceipts = store.itemReceipts

theorem AddsLines.refl (store : Store) (soId : ℕ) : AddsLines store soId store where
  kept := fun _ hentry => hentry
  added := fun _ hentry => .inl hentry
  next := le_refl _
  orders := rfl
  receipts := rfl

theorem AddsLines.insertLine {soId : ℕ} (hadds : AddsLines store soId after)
    {line : SalesOrderLine} (hline : line.Awaits soId) :
    AddsLines store soId (after.insertLine line) where
  kept := by
    intro entry hentry
    rw [Store.insertLine, Table.mem_insert]
    exact .inl (hadds.kept entry hentry)
  added := by
    intro entry hentry
    rw [Store.insertLine, Table.mem_insert] at hentry
    rcases hentry with hold | hnew
    · exact hadds.added entry hold
    · rw [hnew]
      exact .inr ⟨hadds.next, hline⟩
  next := hadds.next.trans (Nat.le_succ _)
  orders := hadds.orders
  receipts := hadds.receipts

theorem insertLines_addsLines {soId : ℕ} {lines : List ((ℕ × ℤ) × ℕ)}
    (hlines : ∀ entry ∈ lines, 0 < entry.1.2) (hadds : AddsLines store soId after) :
    AddsLines store soId (lines.foldl (fun store entry =>
      store.insertLine
        { soId, itemId := entry.1.1, lineNumber := entry.2 + 1,
          quantityOrdered := entry.1.2, quantityAllocated := 0,
          quantityPicked := 0 }) after) := by
  induction lines generalizing after with
  | nil => exact hadds
  | cons entry lines ih =>
      apply ih fun other hother => hlines other (List.mem_cons_of_mem _ hother)
      exact hadds.insertLine ⟨rfl, rfl, hlines entry List.mem_cons_self⟩

theorem insertLines_kept {Item : Type} (orderLine : Item → SalesOrderLine)
    (items : List Item) {entry : ℕ × SalesOrderLine}
    (hentry : entry ∈ store.salesOrderLines.entries) :
    entry ∈ (items.foldl (fun store item => store.insertLine (orderLine item))
      store).salesOrderLines.entries := by
  refine foldl_invariant (fun after : Store => entry ∈ after.salesOrderLines.entries) ?_
    items hentry
  intro middle item hmiddle
  rw [Store.insertLine, Table.mem_insert]
  exact .inl hmiddle

theorem createReturn_spec {request : CreateRmaRequest}
    (hcreate : createReturn store request = .ok after) :
    ∃ rma : SalesOrder, rma.orderType = .return ∧ rma.status = .open ∧
      AddsLines { store with salesOrders := store.salesOrders.insert rma }
        store.salesOrders.next after ∧
      ∃ entry ∈ after.salesOrderLines.entries,
        entry.2.Awaits store.salesOrders.next := by
  rw [createReturn] at hcreate
  split at hcreate
  · cases hcreate
  next created hrma =>
    split at hcreate
    · cases hcreate
    cases hcreate
    rw [createRma] at hrma
    split at hrma
    · cases hrma
    next original _ =>
      obtain ⟨soNumber, -, hrma⟩ := bind_eq_ok.mp hrma
      obtain ⟨⟨inserted, soId⟩, hinsert, hrma⟩ := bind_eq_ok.mp hrma
      cases insertSalesOrder_spec hinsert
      cases hrma
      refine ⟨original.rma request.originalSoId store.now soNumber, rfl, rfl, ?_, ?_⟩
      · refine insertLines_addsLines ?_ (AddsLines.refl _ _)
        intro entry hentry
        obtain ⟨line, -, hline⟩ := List.mem_map.mp (List.fst_mem_of_mem_zipIdx hentry)
        rw [← hline]
        exact line.quantityPos
      · -- the first line is there after its insertion, and stays
        cases hlines : request.lines with
        | nil => exact absurd hlines request.linesNonempty
        | cons first rest =>
            rw [List.map_cons, List.zipIdx_cons, List.foldl_cons]
            let awaited : SalesOrderLine :=
              { soId := store.salesOrders.next, itemId := first.itemId,
                lineNumber := (0 : ℕ) + 1, quantityOrdered := first.quantity,
                quantityAllocated := 0, quantityPicked := 0 }
            refine ⟨(store.salesOrderLines.next, awaited), insertLines_kept _ _ ?_,
              rfl, rfl, first.quantityPos⟩
            rw [Store.insertLine, Table.mem_insert]
            exact .inr rfl

theorem receiveRma_spec {request : ReceiveRmaRequest} {result : ReceiveRmaResult}
    (hreceive : receiveRma store request = .ok (after, result)) :
    after = store ∨
      ∃ order soLineId line, (request.rmaSoId, order) ∈ store.salesOrders.entries ∧
        order.orderType = .return ∧ (soLineId, line) ∈ store.salesOrderLines.entries ∧
        line.soId = request.rmaSoId ∧
        line.quantityReceived + request.quantity ≤ line.quantityOrdered ∧
        after = bookReturn store request soLineId := by
  rw [receiveRma] at hreceive
  split at hreceive
  · cases hreceive
  next order horder =>
    obtain ⟨horder, htype⟩ := Option.filter_eq_some_iff.mp horder
    split at hreceive
    · cases hreceive
    next soLineId line hline =>
      have hmem := List.mem_of_find?_eq_some hline
      have hnamed := List.find?_some hline
      rw [Bool.and_eq_true, beq_iff_eq, beq_iff_eq] at hnamed
      split at hreceive
      · cases hreceive
        exact .inl rfl
      dsimp only at hreceive
      split at hreceive
      · cases hreceive
      next hroom =>
        split at hreceive
        · cases hreceive
        split at hreceive
        · cases hreceive
        split at hreceive
        · cases hreceive
        cases hreceive
        refine .inr ⟨order, soLineId, line, ?_, ?_, hmem, hnamed.1, ?_, rfl⟩
        · exact (store.salesOrders.get?_eq_some).mp horder
        · exact beq_iff_eq.mp htype
        · omega

theorem voidReturnOrder_spec {soId : ℕ} {alreadyVoided : Bool}
    (hvoid : voidReturnOrder store soId = .ok (after, alreadyVoided)) :
    after = store ∨
      after = { store with
        salesOrders := store.salesOrders.modify soId fun order =>
          { order with voidedAt := some store.now } } := by
  rw [voidReturnOrder] at hvoid
  split at hvoid
  · cases hvoid
  split at hvoid
  · cases hvoid
    exact .inl rfl
  split at hvoid
  · cases hvoid
  split at hvoid
  · cases hvoid
  split at hvoid
  · cases hvoid
  split at hvoid
  · cases hvoid
  cases hvoid
  exact .inr rfl

end SentryWms
