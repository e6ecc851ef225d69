import SentryWms.Picking.Batch
import SentryWms.Pos.Sale
import SentryWms.Shipping.Ship

/-!
# Refunds against what was shipped

A refund is bounded by the audit row of the checkout. It stays within what the order
shipped as long as the order shipped in full: a phone order that is picked short
ships less than its audit row says.
-/

namespace SentryWms

open Relational Transition

/-! ## The condition -/

/-- The order shipped at least what the audit row of its checkout says was sold. -/
def Store.shippedInFull (store : Store) (soId : ℕ) : Bool :=
  (store.auditOf soId).all fun audit =>
    audit.lines.all fun line =>
      (store.itemBySku line.sku).all fun item =>
        decide (soldOf store audit.lines item.1 ≤ store.shippedUnits soId item.1)

/-- A refund of the sale finds it shipped in full, and no other change takes back
what was shipped of an item that was refunded. -/
def SaleHistory.shipsInFull (soId : ℕ) (history : SaleHistory) : SaleCall → Bool
  | .refund tokenWarehouseIds body =>
      !body.names history.store tokenWarehouseIds soId ||
        history.store.shippedInFull soId
  | .elsewhere next =>
      (history.store.refundLedger soId).all fun entry =>
        decide (history.store.shippedUnits soId entry.1 ≤
          next.shippedUnits soId entry.1)

/-- What is booked as refunded and put back of an item was shipped. -/
def RefundsShipped (soId : ℕ) (history : SaleHistory) : Prop :=
  ∀ itemId, history.store.refundedUnits soId itemId ≤
      max 0 (history.store.shippedUnits soId itemId) ∧
    history.restockedOf itemId ≤ max 0 (history.store.shippedUnits soId itemId)

section Steps

variable {sold : Store} {soId : ℕ} {lines : List SaleLine}
  {history next : SaleHistory}

/-- The ledger bounds what is booked and what is put back alike. -/
theorem RefundsShipped.ofUnits (hinv : SaleInv sold soId lines history)
    (hunits : ∀ itemId, history.store.refundedUnits soId itemId ≤
      max 0 (history.store.shippedUnits soId itemId)) : RefundsShipped soId history := by
  intro itemId
  rw [hinv.restocked]
  exact ⟨hunits itemId, hunits itemId⟩

variable {store : Store}

theorem soldOf_eq_zero {itemId : ℕ}
    (hnone : ∀ line ∈ lines, (store.itemBySku line.sku).map Prod.fst ≠ some itemId) :
    soldOf store lines itemId = 0 := by
  rw [soldOf, List.filter_eq_nil_iff.mpr]
  · rfl
  · intro line hline
    rw [beq_iff_eq]
    exact hnone line hline

theorem soldOf_le_shippedUnits {audit : PosCheckout} (haudit : store.auditOf soId = some audit)
    (hfull : store.shippedInFull soId = true) (itemId : ℕ) :
    soldOf store audit.lines itemId ≤ max 0 (store.shippedUnits soId itemId) := by
  by_cases hany : ∃ line ∈ audit.lines,
      (store.itemBySku line.sku).map Prod.fst = some itemId
  · obtain ⟨line, hline, hitem⟩ := hany
    obtain ⟨item, hfound, rfl⟩ := Option.map_eq_some_iff.mp hitem
    rw [Store.shippedInFull, haudit, Option.all_some, List.all_eq_true] at hfull
    have hshipped := hfull line hline
    rw [hfound, Option.all_some, decide_eq_true_eq] at hshipped
    exact le_max_of_le_right hshipped
  · rw [soldOf_eq_zero fun line hline hitem => hany ⟨line, hline, hitem⟩]
    exact le_max_left _ _

theorem mem_refundLedger {itemId : ℕ} (hunits : store.refundedUnits soId itemId ≠ 0) :
    ∃ entry ∈ store.refundLedger soId, entry.1 = itemId := by
  by_contra hnone
  apply hunits
  rw [Store.refundedUnits, ledgerUnits, List.filter_eq_nil_iff.mpr]
  · rfl
  · intro entry hentry
    rw [beq_iff_eq]
    exact fun hitem => hnone ⟨entry, hentry, hitem⟩

/-- Every accepted call that meets the condition keeps the property. -/
theorem RefundsShipped.step (hpositive : ∀ line ∈ lines, 1 ≤ line.quantity)
    (hinv : SaleInv sold soId lines history) (hshipped : RefundsShipped soId history)
    {call : SaleCall} (hguard : history.shipsInFull soId call = true)
    (hstep : history.step soId call = some next) : RefundsShipped soId next := by
  have hnext := hinv.step hpositive hstep
  refine RefundsShipped.ofUnits hnext fun itemId => ?_
  cases call with
  | elsewhere after =>
      rw [SaleHistory.step] at hstep
      split at hstep
      next hkeeps =>
        cases hstep
        obtain ⟨-, -, hledger, -⟩ := hkeeps
        have hsame : after.refundedUnits soId itemId =
            history.store.refundedUnits soId itemId := by
          rw [Store.refundedUnits, Store.refundedUnits, hledger]
        dsimp only
        rw [hsame]
        by_cases hzero : history.store.refundedUnits soId itemId = 0
        · rw [hzero]
          exact le_max_left _ _
        · obtain ⟨entry, hentry, rfl⟩ := mem_refundLedger hzero
          rw [SaleHistory.shipsInFull, List.all_eq_true] at hguard
          have hkept := of_decide_eq_true (hguard entry hentry)
          exact (hshipped entry.1).1.trans (max_le_max_left 0 hkept)
      next => cases hstep
  | refund tokenWarehouseIds body =>
      obtain ⟨⟨after, response⟩, hrefund, rfl⟩ := Option.map_eq_some_iff.mp hstep
      dsimp only
      rcases refund_spec hinv.linked (toOption_eq_some.mp hrefund) with
        rfl | ⟨originalSoId, audit, placed, requested, haccepts⟩
      · exact (hshipped itemId).1
      · rw [haccepts.refunded.shipped soId hinv.numbered]
        by_cases hsame : originalSoId = soId
        · subst hsame
          obtain ⟨original, hfind, -⟩ := haccepts.original
          have hnames : body.names history.store tokenWarehouseIds originalSoId =
              true := by
            rw [RefundBody.names, hfind, Option.any_some, beq_self_eq_true]
          rw [SaleHistory.shipsInFull, hnames, Bool.not_true, Bool.false_or] at hguard
          obtain ⟨audit', haudit', hlines⟩ := hinv.audited
          have hcovered := soldOf_le_shippedUnits haudit' hguard itemId
          rw [hlines, hinv.codes.soldOf] at hcovered
          exact (hnext.booked itemId).trans hcovered
        · have hunits : after.refundedUnits soId itemId =
              history.store.refundedUnits soId itemId := by
            rw [Store.refundedUnits, haccepts.refunded.ledger, if_neg (Ne.symm hsame),
              List.append_nil]
            rfl
          rw [hunits]
          exact (hshipped itemId).1

end Steps

/-! ## Runs -/

/-- In every run of refunds of a sale, and of any other changes between them, whose
steps meet the condition, what is booked and put back of an item was shipped. -/
theorem refundsShipped_of_run {store sold : Store} {backorderCode : String}
    {tokenWarehouseIds : List ℕ} {body : CheckoutBody} {response : CheckoutResponse}
    (hlinked : store.OrdersLinked)
    (hcheckout : checkout store backorderCode tokenWarehouseIds body =
      .ok (sold, response))
    (hfresh : response.replayed = false) (htype : body.type = .sale)
    {calls : List SaleCall} {last : SaleHistory}
    (hrun : Run (SaleHistory.step store.salesOrders.next)
      (fun history call => history.shipsInFull store.salesOrders.next call = true)
      { store := sold } calls last) :
    RefundsShipped store.salesOrders.next last := by
  obtain ⟨hinv, -⟩ := checkout_sold hlinked hcheckout hfresh htype
  have hpositive := body.cart.saleLines_positive
  have hstart : RefundsShipped store.salesOrders.next { store := sold } := by
    refine RefundsShipped.ofUnits hinv fun itemId => ?_
    rw [← hinv.restocked itemId]
    exact le_max_left _ _
  exact (hrun.invariant
    (fun history => SaleInv sold store.salesOrders.next body.cart.saleLines history ∧
      RefundsShipped store.salesOrders.next history)
    (fun hboth hguard hstep => ⟨hboth.1.step hpositive hstep,
      hboth.2.step hpositive hboth.1 hguard hstep⟩)
    ⟨hinv, hstart⟩).2

theorem refundsShipped_refundedOnce :
    refundedOnce.restockedOf 1 = 1 ∧ RefundsShipped 1 refundedOnce := by
  have hrun : Run (SaleHistory.step 1)
      (fun history call => history.shipsInFull 1 call = true) { store := afterSale }
      [.refund [1] (refundFirstBin "r1")] refundedOnce := Run.ofExecute rfl
  have hcheckout : checkout twoBins "" [1] soldFromBothBins =
      .ok (afterSale, ⟨"POS-1", false⟩) := rfl
  exact ⟨rfl, refundsShipped_of_run twoBins_ordersLinked hcheckout rfl rfl hrun⟩

/-- Two units in one bin of a shop that ships without packing. -/
def smallShop : Store where
  warehouses := .ofRows [{ warehouseCode := "W1", isActive := true }]
  items := .ofRows [{ sku := "A", upc := some "1", barcodeAliases := [] }]
  bins := .ofRows
    [{ warehouseId := 1, binCode := "P1", binType := .pickable, pickSequence := 1 }]
  inventory := .ofRows
    [{ itemId := 1, binId := 1, warehouseId := 1, quantityOnHand := 2,
       quantityAllocated := 0, lotNumber := none, updatedAt := 0 }]
  appSettings := [("require_packing_before_shipping", "false")]

def phoneOrdered : Store :=
  ((checkout smallShop "" [1] (twoLinesBody true)).toOption.map Prod.fst).getD smallShop

def phoneAssigned : Store :=
  ((createPickBatch phoneOrdered ["POS-1"] 1 "ann" []).toOption.map Prod.fst).getD
    smallShop

/-- The store after the first unit was picked and the second one was short. -/
def phonePicked : Store :=
  ((confirmPick phoneAssigned 1 "1" 1).toOption.bind fun store =>
    ((shortPick store 2 0).toOption.bind fun store =>
      (completeBatch store 1 "ann" none).toOption)).getD smallShop

def phoneShipped : Store :=
  ((fulfill phonePicked (fun _ => true) 1).toOption).getD smallShop

/-- The refund of the whole order. -/
def refundAll : RefundBody where
  idempotencyKey := "r1"
  bodyHash := "r1"
  originalSoId := "POS-1"
  method := .card
  completedAt := 0
  lines := none
  locationGiven := by
    intro cart hcart
    cases hcart

def phoneRefunded : SaleHistory :=
  (execute (SaleHistory.step 1) (fun _ _ => True) { store := phoneOrdered }
    [.elsewhere phoneAssigned, .elsewhere phonePicked, .elsewhere phoneShipped,
      .refund [1] refundAll]).getD { store := phoneOrdered }

/-- A phone order of two units is picked short, ships one, and is refunded in full:
two units are booked and put back. -/
theorem refund_restocks_unshipped :
    checkout smallShop "" [1] (twoLinesBody true) =
        .ok (phoneOrdered, ⟨"POS-1", false⟩) ∧
      createPickBatch phoneOrdered ["POS-1"] 1 "ann" [] = .ok (phoneAssigned, 1) ∧
      fulfill phonePicked (fun _ => true) 1 = .ok phoneShipped ∧
      Run (SaleHistory.step 1) (fun _ _ => True) { store := phoneOrdered }
        [.elsewhere phoneAssigned, .elsewhere phonePicked, .elsewhere phoneShipped,
          .refund [1] refundAll] phoneRefunded ∧
      phoneRefunded.store.shippedUnits 1 1 = 1 ∧
      phoneRefunded.store.refundedUnits 1 1 = 2 ∧
      phoneRefunded.restockedOf 1 = 2 :=
  ⟨rfl, rfl, rfl, Run.ofExecute rfl, rfl, rfl, rfl⟩

end SentryWms
