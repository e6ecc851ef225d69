import SentryWms.Pos.Sale
import SentryWms.Receiving.Putaway
import SentryWms.Receiving.StockEntry
import SentryWms.Store.Filing
import SentryWms.TransferOrder.Runs

/-!
# Services that file stock in the warehouse of its bin

Receiving, moves within a warehouse, stock entry and the approval of a transfer obtain
the bin and the warehouse they hand to `add_inventory` from one place, or compare them.
The point of sale writes to rows that exist.
-/

namespace SentryWms

open Relational Transition

/-- Whatever the service files, it files in the warehouse of the bin. -/
def FilesHome (store after : Store) : Prop :=
  ∃ entries, Files store entries after ∧ ∀ filing ∈ entries, store.home filing = true

namespace FilesHome

variable {store middle after : Store}

theorem ofFiles (hfiles : Files store [] after) : FilesHome store after :=
  ⟨[], hfiles, List.forall_mem_nil _⟩

theorem trans (hfirst : FilesHome store middle) (hnext : FilesHome middle after) :
    FilesHome store after := by
  obtain ⟨entries, hfiles, hhome⟩ := hfirst
  obtain ⟨entries', hfiles', hhome'⟩ := hnext
  refine ⟨entries ++ entries', hfiles.trans hfiles', ?_⟩
  apply List.forall_mem_append.mpr ⟨hhome, ?_⟩
  intro filing hfiling
  rw [← hfiles.home filing]
  exact hhome' filing hfiling

theorem filed (hfiles : FilesHome store after) (hfiled : store.Filed) : after.Filed := by
  obtain ⟨entries, hfiles, hhome⟩ := hfiles
  exact hfiles.filed_of_home hfiled hhome

end FilesHome

variable {store after : Store}

theorem home_of_get {place : LotPlace} {bin : Bin}
    (hbin : store.bins.get? place.binId = some bin) :
    store.home (place, bin.warehouseId) = true := by
  rw [Store.home, hbin]
  exact beq_self_eq_true _

variable {itemId warehouseId : ℕ}

theorem addInventory_filesHome (store : Store) {binId : ℕ} (quantity : ℤ)
    (lotNumber : Option String)
    (hhome : store.home (⟨itemId, binId, lotNumber⟩, warehouseId) = true) :
    FilesHome store (addInventory store itemId binId warehouseId quantity lotNumber).1 :=
  ⟨_, addInventory_files store itemId binId warehouseId quantity lotNumber,
    List.forall_mem_singleton.mpr hhome⟩

theorem stocked_filesHome (booked : Store) (quantity : ℤ) {binId : ℕ}
    {lotNumber : Option String} (hbooked : Files store [] booked)
    (hhome : store.home (⟨itemId, binId, lotNumber⟩, warehouseId) = true)
    (hafter : Files (addInventory booked itemId binId warehouseId quantity lotNumber).1 [] after) :
    FilesHome store after := by
  refine (FilesHome.ofFiles hbooked).trans
    ((addInventory_filesHome booked quantity lotNumber ?_).trans (.ofFiles hafter))
  rw [hbooked.home]
  exact hhome

/-! ## Receiving -/

theorem releaseBackorder_files (warehouseId : ℕ) (store : Store)
    (order : ℕ × SalesOrder) :
    Files store [] (releaseBackorder warehouseId store order) := by
  rw [releaseBackorder]
  split
  · exact Files.refl store
  · split
    · exact Files.ofSame rfl rfl
    · exact Files.refl store

theorem releaseSatisfiableBackorders_files (store : Store) (warehouseId itemId : ℕ) :
    Files store [] (releaseSatisfiableBackorders store warehouseId itemId) :=
  foldl_invariant (fun after => Files store [] after)
    (fun middle order hmiddle =>
      hmiddle.append_nil (releaseBackorder_files warehouseId middle order))
    (store.waitingOrders warehouseId itemId) (Files.refl store)

theorem bookItem_filesHome (poId poLineId : ℕ) {item : ReceiveItem}
    (hhome : store.home (⟨item.itemId, item.binId, item.lotNumber⟩, warehouseId) = true) :
    FilesHome store (bookItem poId warehouseId store item poLineId) := by
  rw [bookItem]
  refine stocked_filesHome _ item.quantity ?_ hhome
    (releaseSatisfiableBackorders_files _ _ _)
  exact Files.ofSame rfl rfl

theorem checkReceivingBin_home (place : LotPlace)
    (hcheck : checkReceivingBin store warehouseId place.binId = .ok ()) :
    store.home (place, warehouseId) = true := by
  rw [checkReceivingBin] at hcheck
  split at hcheck
  · cases hcheck
  next bin hbin =>
    split at hcheck
    · cases hcheck
    next hwarehouse =>
      rw [← not_not.mp hwarehouse]
      exact home_of_get hbin

theorem receiveItem_filesHome {poId : ℕ} {state next : Receiving} {item : ReceiveItem}
    (hreceive : receiveItem poId warehouseId state item = .ok next) :
    FilesHome state.store next.store := by
  rw [receiveItem] at hreceive
  obtain ⟨_, hcheck, hreceive⟩ := bind_eq_ok.mp hreceive
  split at hreceive
  · cases hreceive
  next poLineId line _ =>
    dsimp only at hreceive
    split at hreceive
    · cases hreceive
    split at hreceive
    · cases hreceive
    · cases hreceive
      have hhome := checkReceivingBin_home ⟨item.itemId, item.binId, item.lotNumber⟩
        hcheck
      exact bookItem_filesHome poId poLineId hhome

variable {scope : WarehouseScope}

theorem receiveItems_filesHome {request : ReceiveItemsRequest} {result : ReceiveResult}
    (hreceive : receiveItems store scope request = .ok (after, result)) :
    FilesHome store after := by
  rw [receiveItems] at hreceive
  split at hreceive
  · cases hreceive
  next order _ =>
    split at hreceive
    · cases hreceive
    obtain ⟨received, hreceived, hok⟩ := bind_eq_ok.mp hreceive
    cases hok
    have hloop := foldlM_invariant (fun state : Receiving => FilesHome store state.store)
      (fun _ hstate hnext => hstate.trans (receiveItem_filesHome hnext)) hreceived
      (FilesHome.ofFiles (Files.refl store))
    exact hloop.trans (.ofFiles (Files.ofSame rfl rfl))

theorem bookReturn_filesHome {request : ReceiveRmaRequest} (soLineId : ℕ)
    (hhome : store.home (⟨request.itemId, request.binId, none⟩, request.warehouseId) =
      true) :
    FilesHome store (bookReturn store request soLineId) := by
  rw [bookReturn]
  refine stocked_filesHome _ request.quantity ?_ hhome (Files.ofSame rfl rfl)
  exact Files.ofSame rfl rfl

theorem receiveRma_filesHome {request : ReceiveRmaRequest} {result : ReceiveRmaResult}
    (hreceive : receiveRma store request = .ok (after, result)) :
    FilesHome store after := by
  rw [receiveRma] at hreceive
  split at hreceive
  · cases hreceive
  split at hreceive
  · cases hreceive
  next soLineId line _ =>
    split at hreceive
    · cases hreceive
      exact .ofFiles (Files.refl _)
    dsimp only at hreceive
    split at hreceive
    · cases hreceive
    split at hreceive
    · cases hreceive
    next bin hbin =>
      split at hreceive
      · cases hreceive
      next hwarehouse =>
        split at hreceive
        · cases hreceive
        · cases hreceive
          apply bookReturn_filesHome
          rw [← not_not.mp hwarehouse]
          exact home_of_get hbin

/-! ## Moves and stock entry -/

variable {request : MoveRequest}

theorem findMove_spec {bins : Bin × Bin} (hfind : findMove store request = .ok bins) :
    store.bins.get? request.fromBinId = some bins.1 ∧
      store.bins.get? request.toBinId = some bins.2 := by
  rw [findMove] at hfind
  split at hfind
  · cases hfind
  split at hfind
  · cases hfind
  next fromBin hfrom =>
    split at hfind
    · cases hfind
    next toBin hto =>
      cases hfind
      exact ⟨hfrom, hto⟩

theorem moveWithin_files {moved : Store × ℤ × ℤ}
    (hmove : moveWithin store scope request warehouseId = .ok moved) :
    Files store [(⟨request.itemId, request.toBinId, request.lotNumber⟩, warehouseId)]
      moved.1 := by
  rw [moveWithin] at hmove
  split at hmove
  · cases hmove
  split at hmove
  · cases hmove
  next moved' hmoved =>
    cases hmove
    exact moveInventory_files hmoved

theorem move_filesHome {moved : Store × ℤ × ℤ} (hmove : move store scope request = .ok moved) :
    FilesHome store moved.1 := by
  rw [move] at hmove
  obtain ⟨⟨fromBin, toBin⟩, hfind, hmove⟩ := bind_eq_ok.mp hmove
  dsimp only at hmove
  split at hmove
  · cases hmove
  next hwarehouse =>
    refine ⟨_, moveWithin_files hmove, List.forall_mem_singleton.mpr ?_⟩
    rw [← not_not.mp hwarehouse]
    exact home_of_get (findMove_spec hfind).2

theorem findOrCreateItem_spec {sha256 : String → String} {request : StockEntryRequest}
    {found : Store × ℕ × Bool} (hfind : findOrCreateItem store sha256 request = .ok found) :
    ∃ items, found.1 = { store with items } := by
  rw [findOrCreateItem] at hfind
  split at hfind
  · split at hfind
    · cases hfind
      exact ⟨_, rfl⟩
    · cases hfind
      exact ⟨_, rfl⟩
  · split at hfind
    · cases hfind
    · cases hfind
      exact ⟨_, rfl⟩

theorem stockEntry_filesHome {sha256 : String → String} {mayReceive : Bool}
    {request : StockEntryRequest} {result : StockEntryResult}
    (henter : stockEntry store sha256 scope mayReceive request = .ok (after, result)) :
    FilesHome store after := by
  rw [stockEntry] at henter
  obtain ⟨_, -, henter⟩ := bind_eq_ok.mp henter
  split at henter
  · cases henter
    exact .ofFiles (Files.refl _)
  split at henter
  · cases henter
  next bin hbin =>
    rw [enterStock] at henter
    obtain ⟨⟨found, itemId, provisional⟩, hfind, henter⟩ := bind_eq_ok.mp henter
    cases henter
    obtain ⟨items, hfound⟩ := findOrCreateItem_spec hfind
    dsimp only at hfound
    subst hfound
    obtain ⟨hget, hhere⟩ := Option.filter_eq_some_iff.mp hbin
    have hwarehouse : bin.warehouseId = request.warehouseId :=
      beq_iff_eq.mp (Bool.and_eq_true_iff.mp hhere).1
    have hhome : store.home (⟨itemId, request.binId, none⟩, request.warehouseId) =
        true := by
      rw [← hwarehouse]
      exact home_of_get hget
    refine stocked_filesHome { store with items } request.quantity ?_ hhome
      (Files.append_nil ?_ (releaseSatisfiableBackorders_files _ _ _))
    · exact Files.ofSame rfl rfl
    · exact Files.ofSame rfl rfl

/-! ## Transfers -/

variable {quantity : ℤ}

theorem decrementSourceInventory_files
    (hdecrement : decrementSourceInventory store itemId warehouseId quantity = .ok after) :
    Files store [] after := by
  rw [decrementSourceInventory] at hdecrement
  split at hdecrement
  · cases hdecrement
  · cases hdecrement
    exact Files.ofTakes rfl rfl fun _ _ => rfl

theorem stagingBin_home {destWarehouseId : ℕ} {place : LotPlace}
    (hstaging : store.stagingBin destWarehouseId = some place.binId) :
    store.home (place, destWarehouseId) = true := by
  obtain ⟨entry, hfind, hbin⟩ := Option.map_eq_some_iff.mp hstaging
  have hwarehouse := List.find?_some hfind
  have hmem : (place.binId, entry.2) ∈ store.bins.entries := by
    rw [← hbin]
    exact List.mem_of_find?_eq_some hfind
  rw [← beq_iff_eq.mp (Bool.and_eq_true_iff.mp hwarehouse).1]
  exact home_of_get ((Table.get?_eq_some _).mpr hmem)

theorem creditDestinationInventory_filesHome {destWarehouseId : ℕ}
    (hcredit : creditDestinationInventory store itemId destWarehouseId quantity = .ok after) :
    FilesHome store after := by
  rw [creditDestinationInventory] at hcredit
  split at hcredit
  · cases hcredit
  next binId hstaging =>
    cases hcredit
    exact addInventory_filesHome store quantity none (stagingBin_home hstaging)

theorem approveLineQty_files {toLineId : ℕ} {hquantity : 0 < quantity}
    (hcount : approveLineQty store toLineId quantity hquantity = .ok after) :
    Files store [] after := by
  rw [approveLineQty] at hcount
  split at hcount
  · cases hcount
    exact Files.refl _
  · split at hcount
    · cases hcount
      exact Files.ofSame rfl rfl
    · cases hcount

theorem approveSnapshotLine_filesHome {header : TransferOrder} {snap : SnapshotLine}
    (happrove : approveSnapshotLine header store snap = .ok after) :
    FilesHome store after := by
  rw [approveSnapshotLine] at happrove
  split at happrove
  · cases happrove
    exact .ofFiles (Files.refl _)
  · obtain ⟨counted, hcounted, happrove⟩ := bind_eq_ok.mp happrove
    obtain ⟨shipped, hshipped, hcredit⟩ := bind_eq_ok.mp happrove
    have hkept := (approveLineQty_files hcounted).append_nil
      (decrementSourceInventory_files hshipped)
    exact (FilesHome.ofFiles hkept).trans (creditDestinationInventory_filesHome hcredit)

theorem approve_filesHome {toId approvalId : ℕ} {username : String}
    (happrove : approveTransferOrderApproval store toId approvalId username =
      .ok after) :
    FilesHome store after := by
  obtain ⟨approval, header, moved, -, -, hmoved, rfl⟩ := approve_spec happrove
  have hloop := foldlM_invariant (fun middle => FilesHome store middle)
    (fun _ hmiddle hnext => hmiddle.trans (approveSnapshotLine_filesHome hnext)) hmoved
    (FilesHome.ofFiles (Files.refl store))
  refine hloop.trans (.ofFiles ?_)
  rw [closeIfDone]
  split
  · exact Files.ofSame rfl rfl
  · exact Files.ofSame rfl rfl

/-! ## The point of sale -/

theorem takeLine_files {isPhoneOrder : Bool} {soId : ℕ} {line : StockLine}
    (htake : takeLine isPhoneOrder soId store line = .ok after) :
    Files store [] after := by
  rw [takeLine] at htake
  split at htake
  · cases htake
  split at htake
  · cases htake
  · cases htake
    have hchange : ∀ row,
        (takeUnits isPhoneOrder store.now line.line.quantity row).filing = row.filing := by
      intro row
      rw [takeUnits]
      split
      · rfl
      · rfl
    exact Files.ofModify _ rfl rfl hchange

theorem insertLines_files {Item : Type} (store : Store) (orderLine : Item → SalesOrderLine)
    (items : List Item) :
    Files store []
      (items.foldl (fun store item => store.insertLine (orderLine item)) store) := by
  refine foldl_invariant (fun after => Files store [] after) ?_ items (Files.refl store)
  intro middle item hmiddle
  exact hmiddle.append_nil (Files.ofSame rfl rfl)

variable {body : CheckoutBody}

theorem bookReturns_files {parentSoId : Option ℕ}
    (hbook : bookReturns store body parentSoId = .ok after) : Files store [] after := by
  unfold bookReturns at hbook
  split at hbook
  next soId _ _ _ _ =>
    obtain ⟨lines, -, hrma⟩ := bind_eq_ok.mp hbook
    rw [createRma] at hrma
    split at hrma
    · cases hrma
    obtain ⟨soNumber, -, hrma⟩ := bind_eq_ok.mp hrma
    obtain ⟨⟨inserted, rmaSoId⟩, hinsert, hrma⟩ := bind_eq_ok.mp hrma
    cases hrma
    have hinserted := congrArg Prod.fst (insertSalesOrder_spec hinsert)
    dsimp only at hinserted
    subst hinserted
    refine Files.append_nil ?_ (insertLines_files _ _ _)
    exact Files.ofSame rfl rfl
  · cases hbook
    exact Files.refl _

theorem finishCheckout_files {soId : ℕ} {number : String × Option ℕ}
    {response : CheckoutResponse}
    (hfinish : finishCheckout store body soId number = .ok (after, response)) :
    Files store [] after := by
  rw [finishCheckout] at hfinish
  obtain ⟨booked, hbook, hok⟩ := bind_eq_ok.mp hfinish
  cases hok
  exact (bookReturns_files hbook).append_nil (Files.ofSame rfl rfl)

theorem insertCheckoutOrder_files {status : SoStatus} {number : String × Option ℕ}
    {inserted : Store × ℕ}
    (hinsert : insertCheckoutOrder store body status warehouseId number = .ok inserted) :
    Files store [] inserted.1 := by
  rw [insertCheckoutOrder_eq hinsert]
  exact Files.ofSame rfl rfl

theorem checkout_files {backorderCode : String} {tokenWarehouseIds : List ℕ}
    {response : CheckoutResponse}
    (hcheckout : checkout store backorderCode tokenWarehouseIds body = .ok (after, response)) :
    Files store [] after := by
  rw [checkout] at hcheckout
  obtain ⟨answer, -, hcheckout⟩ := bind_eq_ok.mp hcheckout
  cases answer with
  | some answered =>
      cases hcheckout
      exact Files.refl _
  | none =>
      obtain ⟨_, -, hcheckout⟩ := bind_eq_ok.mp hcheckout
      split at hcheckout
      · rw [checkoutBackorder] at hcheckout
        obtain ⟨items, -, hcheckout⟩ := bind_eq_ok.mp hcheckout
        obtain ⟨number, -, hcheckout⟩ := bind_eq_ok.mp hcheckout
        obtain ⟨warehouseId, -, hcheckout⟩ := bind_eq_ok.mp hcheckout
        obtain ⟨⟨inserted, soId⟩, hinsert, hfinish⟩ := bind_eq_ok.mp hcheckout
        have hlines := (insertCheckoutOrder_files hinsert).append_nil
          (insertLines_files inserted
            (fun entry : ResolvedLine × ℕ =>
              { soId, itemId := entry.2, lineNumber := entry.1.idx + 1,
                quantityOrdered := entry.1.line.quantity, quantityAllocated := 0,
                quantityPicked := 0 }) items)
        exact hlines.append_nil (finishCheckout_files hfinish)
      · rw [checkoutStock] at hcheckout
        obtain ⟨lines, -, hcheckout⟩ := bind_eq_ok.mp hcheckout
        obtain ⟨number, -, hcheckout⟩ := bind_eq_ok.mp hcheckout
        obtain ⟨⟨inserted, soId⟩, hinsert, hcheckout⟩ := bind_eq_ok.mp hcheckout
        obtain ⟨taken, htake, hfinish⟩ := bind_eq_ok.mp hcheckout
        have hlines := foldlM_invariant (fun after => Files store [] after)
          (fun _ hmiddle htake => hmiddle.append_nil (takeLine_files htake)) htake
          (insertCheckoutOrder_files hinsert)
        exact hlines.append_nil (finishCheckout_files hfinish)

theorem restockLine_files {memoSoId : ℕ} {placed : PlacedLine}
    (hrestock : restockLine memoSoId store placed = .ok after) : Files store [] after := by
  rw [restockLine] at hrestock
  split at hrestock
  · cases hrestock
  · cases hrestock
    exact Files.ofModify (fun row =>
      { row with
        quantityOnHand := row.quantityOnHand + placed.line.quantity
        updatedAt := store.now }) rfl rfl fun _ => rfl

theorem writeRefund_files {body : RefundBody} {originalSoId : ℕ} {original : SalesOrder}
    {lines requested : List PlacedLine} {response : RefundResponse}
    (hwrite : writeRefund store body originalSoId original lines requested =
      .ok (after, response)) :
    Files store [] after := by
  rw [writeRefund] at hwrite
  obtain ⟨⟨inserted, memoSoId, soNumber⟩, hinsert, hwrite⟩ := bind_eq_ok.mp hwrite
  obtain ⟨restocked, hrestock, hwrite⟩ := bind_eq_ok.mp hwrite
  cases hwrite
  have hinserted := (insertMemo_spec hinsert).1
  dsimp only at hinserted
  subst hinserted
  have hlines := foldlM_invariant (fun after => Files store [] after)
    (fun _ hmiddle hline => hmiddle.append_nil (restockLine_files hline)) hrestock
    (Files.ofSame rfl rfl)
  refine hlines.append_nil ?_
  split
  · exact Files.ofSame rfl rfl
  · exact Files.ofSame rfl rfl

theorem refund_files {tokenWarehouseIds : List ℕ} {body : RefundBody}
    {response : RefundResponse}
    (hrefund : refund store tokenWarehouseIds body = .ok (after, response)) :
    Files store [] after := by
  rw [refund] at hrefund
  obtain ⟨answer, -, hrefund⟩ := bind_eq_ok.mp hrefund
  cases answer with
  | some answered =>
      cases hrefund
      exact Files.refl _
  | none =>
      dsimp only at hrefund
      split at hrefund
      · cases hrefund
      · rw [refundOriginal] at hrefund
        obtain ⟨_, -, hrefund⟩ := bind_eq_ok.mp hrefund
        obtain ⟨lines, -, hrefund⟩ := bind_eq_ok.mp hrefund
        obtain ⟨requested, -, hrefund⟩ := bind_eq_ok.mp hrefund
        obtain ⟨_, -, hwrite⟩ := bind_eq_ok.mp hrefund
        exact writeRefund_files hwrite

end SentryWms
