/-
Whether goods that go out and come back, or come in and go back, leave the stock as
it was.

Stock is held in base units.
-/
import FashionErp.Sales.ReturnPoints
import FashionErp.Inventory.GoodsReceipts
import FashionErp.Payments.PayablesRun

namespace FashionErp

open Lib Lib.Tx

def SameStock (db db' : Db) : Prop :=
  ∀ k, onHandIn db'.stock.warehouseStock k = onHandIn db.stock.warehouseStock k

/-! ## A sale and its returns -/

def restockedLines (db : Db) (saleId : Uuid) : List SaleReturnItem :=
  (db.selling.saleReturns.rows.filter fun r => r.saleId = saleId ∧ r.posted).flatMap (·.items)

def ReturnRequest.Restocks (saleId : Uuid) (db : Db) : ReturnRequest → Prop
  | confirm id _ _ _ => ∀ draft ∈ db.selling.saleReturns.find? id,
      draft.saleId = saleId ∧ ∀ row ∈ draft.items, row.condition = .Restock
  | _ => True

/-- What a run of returns keeps, from the stock it starts with: the sale has its
items and its warehouse, and the stock has moved by the rows of its confirmed returns. -/
structure RestockInv (stock : StockTables) (saleId warehouseId : Uuid) (items : List SaleItem)
    (db : Db) : Prop where
  sale : ∃ sale, db.selling.sales.find? saleId = some sale ∧ sale.items = items ∧
    sale.warehouseId = some warehouseId
  rows : ∀ r ∈ db.selling.saleReturns.rows, r.saleId = saleId → ∀ row ∈ r.items,
    ∃ item ∈ items, row.saleItemId = item.id ∧ row.productVariantId = item.productVariantId
  condition : ∀ r ∈ db.selling.saleReturns.rows, r.saleId = saleId → r.posted →
    ∀ row ∈ r.items, row.condition = .Restock
  onHand : ∀ k, onHandIn db.stock.warehouseStock k = onHandIn stock.warehouseStock k +
    db.selling.saleReturns.sum fun r => if r.saleId = saleId ∧ r.posted then
      net (SaleReturnsService.postings warehouseId r.items) k else 0

namespace RestockInv

variable {stock : StockTables} {saleId warehouseId : Uuid} {items : List SaleItem} {db db' : Db}

theorem of_selling (h : RestockInv stock saleId warehouseId items db)
    (hselling : db'.selling = db.selling) (hstock : db'.stock = db.stock) :
    RestockInv stock saleId warehouseId items db' := by
  obtain ⟨hsale, hrows, hcondition, honHand⟩ := h
  refine ⟨?_, ?_, ?_, ?_⟩
  · rw [hselling]
    exact hsale
  · rw [hselling]
    exact hrows
  · rw [hselling]
    exact hcondition
  · rw [hselling, hstock]
    exact honHand

/-- Rewriting a return that stays confirmed, or stays not confirmed. -/
theorem of_rewrite {id : Uuid} {r r' : SaleReturn} (h : RestockInv stock saleId warehouseId items db)
    (hr : db.selling.saleReturns.find? id = some r)
    (hdb' : db' = { db with
      selling := { db.selling with saleReturns := db.selling.saleReturns.save r' } })
    (hid : r'.id = r.id) (hsaleId : r'.saleId = r.saleId) (hitems : r'.items = r.items)
    (hposted : r'.posted = r.posted) :
    RestockInv stock saleId warehouseId items db' := by
  obtain ⟨hsale, hrows, hcondition, honHand⟩ := h
  have hmem := Table.mem_of_find? hr
  have hkey : db.selling.saleReturns.find? (key r') = some r := by
    have hrid : r.id = id := Table.key_of_find? hr
    rw [show key r' = id from hid.trans hrid]
    exact hr
  subst hdb'
  refine ⟨hsale, ?_, ?_, fun k => ?_⟩
  · refine Table.forall_save hrows fun hx => ?_
    rw [hitems]
    exact hrows r hmem (hsaleId ▸ hx)
  · refine Table.forall_save hcondition fun hx hp => ?_
    rw [hitems]
    exact hcondition r hmem (hsaleId ▸ hx) (hposted ▸ hp)
  · rw [honHand k]
    show _ = _ + (db.selling.saleReturns.save r').sum _
    rw [Table.sum_save_over _ _ _ _ hkey, hsaleId, hposted, hitems, sub_self, add_zero]

theorem create {companyId userId : Uuid} {now : Instant}
    {dto : SaleReturnsService.CreateSaleReturnDto} {r : SaleReturn}
    (h : RestockInv stock saleId warehouseId items db)
    (hc : Commits (SaleReturnsService.create companyId userId now dto) db r db') :
    RestockInv stock saleId warehouseId items db' := by
  obtain ⟨⟨sale, hsale, hitems, hwarehouse⟩, hrows, hcondition, honHand⟩ := h
  obtain ⟨sale', hsale', hid, -, -, hnew, hdb', hdraft, hsaleId, -, -, hforItem, -⟩ :=
    SaleReturnsService.create_spec hc
  have hposted : r.posted = false := by simp [SaleReturn.posted, hdraft]
  rw [hdb']
  refine ⟨⟨sale, hsale, hitems, hwarehouse⟩, ?_, ?_, fun k => ?_⟩
  · refine Table.forall_save hrows fun hx row hrow => ?_
    have hsame : sale' = sale := by
      rw [← hid, ← hsaleId, hx, hsale] at hsale'
      exact (Option.some.inj hsale').symm
    obtain ⟨item, hitem, hitemId, hvariant, -⟩ := (hforItem row hrow).item
    rw [hsame, hitems] at hitem
    exact ⟨item, hitem, hitemId, hvariant⟩
  · refine Table.forall_save hcondition fun _ hp => ?_
    rw [hposted] at hp
    cases hp
  · rw [honHand k]
    show _ = _ + (db.selling.saleReturns.save r).sum _
    rw [Table.sum_save_new _ _ _ hnew, if_neg, add_zero]
    rintro ⟨-, hp⟩
    rw [hposted] at hp
    cases hp

theorem confirm {id companyId userId : Uuid} {now : Instant} {confirmed : SaleReturn}
    (h : RestockInv stock saleId warehouseId items db)
    (hrestocks : (ReturnRequest.confirm id companyId userId now).Restocks saleId db)
    (hc : Commits (SaleReturnsService.confirm id companyId userId now) db confirmed db') :
    RestockInv stock saleId warehouseId items db' := by
  obtain ⟨⟨sale, hsale, hitems, hwarehouse⟩, hrows, hcondition, honHand⟩ := h
  obtain ⟨draft, sale', warehouse', db₁, db₂, hdraft, -, hstatus, hsale', hplace, hselling, hposts,
    hloyal, rfl⟩ := SaleReturnsService.confirm_spec hc
  obtain ⟨hsaleId, hrestock⟩ := hrestocks draft hdraft
  have hmem := Table.mem_of_find? hdraft
  have honly := (SaleReturnsService.reverseLoyalty_succeeds _ _ _ _ db₁).of_commits hloyal
  -- The sale is the one of the run, and so is its warehouse.
  rw [hsaleId, hsale] at hsale'
  cases hsale'
  obtain rfl := hplace warehouseId hwarehouse
  have hself : ({ sale with warehouseId := some warehouseId } : Sale) = sale := by rw [← hwarehouse]
  have hsaved : db.selling.sales.save sale = db.selling.sales := by
    refine Table.save_of_find? ?_
    rw [← hsale, ← Table.key_of_find? hsale]
  have hsales : db₂.selling.sales = db.selling.sales := by
    rw [honly]
    show db₁.selling.sales = _
    rw [hselling, hself]
    exact hsaved
  have hstock : db₂.stock = db₁.stock := by rw [honly]
  have hposted : draft.posted = false := by simp [SaleReturn.posted, hstatus]
  have hkey : db.selling.saleReturns.find? (key ({ draft with
      status := .Confirmed, confirmedBy := some userId, confirmedAt := some now } : SaleReturn)) =
      some draft := by
    have hid : draft.id = id := Table.key_of_find? hdraft
    rw [← hdraft, ← hid]
    rfl
  refine ⟨⟨sale, by rw [← hsale, ← hsales], hitems, hwarehouse⟩, ?_, ?_, fun k => ?_⟩
  · exact Table.forall_save hrows fun hx => hrows draft hmem hx
  · exact Table.forall_save hcondition fun _ _ => hrestock
  · show onHandIn db₂.stock.warehouseStock k = _ + (db.selling.saleReturns.save _).sum _
    have hnotPosted : ¬ (draft.saleId = saleId ∧ draft.posted = true) := by
      rw [hposted]
      rintro ⟨-, ⟨⟩⟩
    have hperm : net (SaleReturnsService.postings warehouseId (SaleReturnsService.sortedItems draft))
        k = net (SaleReturnsService.postings warehouseId draft.items) k :=
      net_perm ((List.perm_insertionSort _ _).map _) k
    rw [hstock, (posts_iff.1 hposts).1, honHand, Table.sum_save_over _ _ _ _ hkey,
      if_neg hnotPosted, if_pos ⟨hsaleId, rfl⟩, hperm, sub_zero, add_assoc]

theorem step {request : ReturnRequest} (h : RestockInv stock saleId warehouseId items db)
    (hrestocks : request.Restocks saleId db) (hs : saleReturnMachine.step db request = some db') :
    RestockInv stock saleId warehouseId items db' := by
  obtain ⟨u, hc⟩ := toOption_result_eq_some.1 hs
  cases request with
  | create companyId userId now dto =>
    obtain ⟨r, hc⟩ := (commits_void _ _ _ _).1 hc
    exact h.create hc
  | confirm id companyId userId now =>
    obtain ⟨r, hc⟩ := (commits_void _ _ _ _).1 hc
    exact h.confirm hrestocks hc
  | cancel id companyId =>
    obtain ⟨r, hc⟩ := (commits_void _ _ _ _).1 hc
    obtain ⟨draft, hdraft, hstatus, rfl, hdb'⟩ := SaleReturnsService.cancel_spec hc
    refine h.of_rewrite hdraft hdb' rfl rfl rfl ?_
    simp [SaleReturn.posted, hstatus]
  | refund companyId userId now dto idempotencyKey =>
    obtain ⟨payment, hc⟩ := (commits_void _ _ _ _).1 hc
    refine PaymentsService.create_refund h (fun _ _ hs hselling hstock => hs.of_selling hselling hstock)
      (fun s s' id amount u hs hstep => ?_) hc
    obtain ⟨r, hr, hstatus, -, status, hstatus', hs'⟩ := SaleReturnsService.applyRefund_spec hstep
    refine hs.of_rewrite hr hs' rfl rfl rfl ?_
    simp only [SaleReturn.posted, Bool.or_eq_decide, decide_eq_decide]
    rw [iff_true_right (by simpa using hstatus)]
    simpa using hstatus'

end RestockInv

def ReturnedInFull (db : Db) (sale : Sale) : Prop :=
  ∀ item ∈ sale.items,
    net (SaleReturnsService.draws (restockedLines db sale.id)) item.id = item.quantity

/-- A sale confirmed and returned: no return of it was there before, and after the
run all of it has come back. -/
structure SoldAndReturned (db₀ db₁ db₂ : Db) (id companyId userId : Uuid) (sale : Sale)
    (ls : List ReturnRequest) : Prop where
  confirmed : Commits (SalesService.confirm id companyId userId) db₀ sale db₁
  unreturned : ∀ r ∈ db₀.selling.saleReturns.rows, r.saleId ≠ id
  keyed : (sale.items.map (·.id)).Nodup
  run : saleReturnMachine.RunWith (fun db l => l.Restocks id db) db₁ ls db₂
  returned : ReturnedInFull db₂ sale

def SoldInBaseUnits (sale : Sale) : Prop :=
  ∀ variantId, net (sale.items.map fun i => (i.productVariantId, SalesService.baseQuantity i))
    variantId = net (sale.items.map fun i => (i.productVariantId, i.quantity)) variantId

theorem RestockInv.onHand_lines {stock : StockTables} {saleId warehouseId : Uuid}
    {items : List SaleItem} {db : Db} (h : RestockInv stock saleId warehouseId items db)
    (k : StockKey) : onHandIn db.stock.warehouseStock k = onHandIn stock.warehouseStock k +
      net ((restockedLines db saleId).map fun row =>
        (stockKey warehouseId row.productVariantId, row.quantity)) k := by
  have hlines : (restockedLines db saleId).map (fun row =>
      (stockKey warehouseId row.productVariantId, row.quantity)) =
      (db.selling.saleReturns.rows.filter fun r => r.saleId = saleId ∧ r.posted).flatMap fun r =>
        SaleReturnsService.postings warehouseId r.items := by
    rw [restockedLines, List.map_flatMap]
    refine List.flatMap_congr fun r hr => ?_
    rw [List.mem_filter, decide_eq_true_eq] at hr
    refine List.map_congr_left fun row hrow => ?_
    rw [SaleReturnsService.itemPosting, h.condition r hr.1 hr.2.1 hr.2.2 row hrow]
  rw [h.onHand k, hlines, net_filter_flatMap]
  simp only [decide_eq_true_eq]
  rfl

/-- Selling and taking everything back restores the stock exactly when the sale was
in base units. -/
theorem SoldAndReturned.sameStock_iff {db₀ db₁ db₂ : Db} {id companyId userId : Uuid} {sale : Sale}
    {ls : List ReturnRequest} (h : SoldAndReturned db₀ db₁ db₂ id companyId userId sale ls) :
    SameStock db₀ db₂ ↔ SoldInBaseUnits sale := by
  obtain ⟨hconfirmed, hunreturned, hkeyed, hrun, hreturned⟩ := h
  obtain ⟨draft, warehouseId, hdraft, hwarehouse, rfl, hposts, hsales, hreturns⟩ :=
    SalesService.confirm_spec hconfirmed
  have hid : draft.id = id := Table.key_of_find? hdraft
  set sale := SalesService.markConfirmed userId draft
  have hstart : RestockInv db₁.stock id warehouseId sale.items db₁ := by
    have hnone : ∀ r ∈ db₁.selling.saleReturns.rows, r.saleId ≠ id := by
      rw [hreturns]
      exact hunreturned
    refine ⟨⟨sale, ?_, rfl, hwarehouse⟩, fun r hr hx => absurd hx (hnone r hr),
      fun r hr hx => absurd hx (hnone r hr), fun k => ?_⟩
    · rw [hsales, ← hid]
      exact Table.find?_save_self _ _
    · rw [Table.sum, List.sum_eq_zero, add_zero]
      intro a ha
      obtain ⟨r, hr, rfl⟩ := List.mem_map.1 ha
      exact if_neg fun hx => hnone r hr hx.1
  have hend := hrun.invariant hstart fun _ _ _ hI hrestocks hs => hI.step hrestocks hs
  have honHand := hend.onHand_lines
  set lines := restockedLines db₂ id
  have hlines : ∀ row ∈ lines, ∃ item ∈ sale.items, row.saleItemId = item.id ∧
      row.productVariantId = item.productVariantId := by
    intro row hrow
    obtain ⟨r, hr, hrow⟩ := List.mem_flatMap.1 hrow
    rw [List.mem_filter, decide_eq_true_eq] at hr
    exact hend.rows r hr.1 hr.2.1 row hrow
  -- What comes back of a variant is what was sold of its items.
  have hback : ∀ v, net (lines.map fun row => (row.productVariantId, row.quantity)) v =
      net (sale.items.map fun i => (i.productVariantId, i.quantity)) v := by
    intro v
    rw [net_regroup (fun row : SaleReturnItem => row.quantity) hkeyed hlines v]
    refine congrArg (net · v) (List.map_congr_left fun item hitem => ?_)
    have hfull := hreturned item hitem
    rw [show sale.id = id from hid] at hfull
    exact congrArg (Prod.mk item.productVariantId) hfull
  have hissued : ∀ k, net (SalesService.postings warehouseId (SalesService.sortedItems draft)) k =
      -net (sale.items.map fun i =>
        (stockKey warehouseId i.productVariantId, SalesService.baseQuantity i)) k := by
    intro k
    rw [← net_map_neg]
    exact net_perm ((List.perm_insertionSort _ _).map _) k
  have hchange : ∀ k, onHandIn db₂.stock.warehouseStock k = onHandIn db₀.stock.warehouseStock k ↔
      net (sale.items.map fun i =>
        (stockKey warehouseId i.productVariantId, SalesService.baseQuantity i)) k =
      net (lines.map fun row => (stockKey warehouseId row.productVariantId, row.quantity)) k := by
    intro k
    rw [honHand k, (posts_iff.1 hposts).1 k, hissued k]
    omega
  rw [SameStock, forall_congr' hchange,
    forall_net_map_iff (SalesService.stockKey_injective warehouseId), SoldInBaseUnits]
  exact forall_congr' fun v => by rw [hback v]

/-! ## A purchase order, its receipts and its returns -/

inductive SupplyRequest
  | receive (companyId userId : Uuid) (now : Instant)
      (dto : GoodsReceiptsService.CreateGoodsReceiptDto)
  | syncInvoices (companyId : Uuid) (supplierId : Option Uuid)
  | createReturn (companyId userId : Uuid) (now : Instant)
      (dto : PurchaseReturnsService.CreatePurchaseReturnDto)
  | completeReturn (id companyId userId : Uuid) (now : Instant)
  | cancelReturn (id companyId : Uuid)

def SupplyRequest.transaction : SupplyRequest → DbTx Unit
  | receive companyId userId now dto => void (GoodsReceiptsService.create companyId userId now dto)
  | syncInvoices companyId supplierId =>
    PurchaseInvoicesService.syncEligibleInvoices companyId supplierId
  | createReturn companyId userId now dto =>
    void (PurchaseReturnsService.create companyId userId now dto)
  | completeReturn id companyId userId now =>
    void (PurchaseReturnsService.complete id companyId userId now)
  | cancelReturn id companyId => void (PurchaseReturnsService.cancel id companyId)

/-- Requests that commit, one after the other. -/
def supplyMachine : Machine Db SupplyRequest where
  step db request := (result request.transaction db).toOption

def SupplyRequest.OfOrder (orderId : Uuid) (db : Db) : SupplyRequest → Prop
  | receive _ _ _ dto => dto.purchaseOrderId = orderId
  | completeReturn id _ _ _ => ∀ draft ∈ db.buying.purchaseReturns.find? id,
      draft.purchaseOrderId = orderId
  | _ => True

def receiptRows (db : Db) (orderId : Uuid) : List GoodsReceiptItem :=
  (db.stock.goodsReceipts.filter fun r => r.purchaseOrderId = orderId).flatMap (·.items)

def completedRows (db : Db) (orderId : Uuid) : List PurchaseReturnItem :=
  (db.buying.purchaseReturns.rows.filter fun r =>
    r.purchaseOrderId = orderId ∧ r.status = .Completed).flatMap (·.items)

def PurchaseOrderItem.factor (item : PurchaseOrderItem) : ℤ :=
  item.conversionFactorToBaseSnapshot.getD 10000

def receivedOf (db : Db) (orderId : Uuid) (item : PurchaseOrderItem) : ℤ :=
  net ((receiptRows db orderId).map fun row => (row.purchaseOrderItemId, row.receivedQuantity))
    item.id

/-- What a run keeps, from the stock it starts with: the order has its items and its
warehouse, and the stock has moved by its receipts and its completed returns. -/
structure SupplyInv (stock : StockTables) (order : PurchaseOrder) (warehouseId : Uuid) (db : Db) :
    Prop where
  kept : ∃ o, db.buying.purchaseOrders.find? order.id = some o ∧ o.items = order.items ∧
    o.warehouseId = some warehouseId
  receipts : ∀ row ∈ receiptRows db order.id, GoodsReceiptsService.ForItem order row
  returns : ∀ r ∈ db.buying.purchaseReturns.rows, r.purchaseOrderId = order.id →
    ∀ row ∈ r.items, PurchaseReturnsService.ForItem order row
  onHand : ∀ k, onHandIn db.stock.warehouseStock k = onHandIn stock.warehouseStock k +
    net (GoodsReceiptsService.postings warehouseId (receiptRows db order.id)) k +
    db.buying.purchaseReturns.sum fun r =>
      if r.purchaseOrderId = order.id ∧ r.status = .Completed then
        net (PurchaseReturnsService.postings warehouseId r.items) k else 0

namespace SupplyInv

variable {stock : StockTables} {order : PurchaseOrder} {warehouseId : Uuid} {db db' : Db}

theorem forItem_of_items {o : PurchaseOrder} {row : GoodsReceiptItem}
    (h : GoodsReceiptsService.ForItem o row) (hitems : o.items = order.items) :
    GoodsReceiptsService.ForItem order row := by
  obtain ⟨hitem, hnonneg⟩ := h
  rw [hitems] at hitem
  exact ⟨hitem, hnonneg⟩

theorem of_same (h : SupplyInv stock order warehouseId db) (hstock : db'.stock = db.stock)
    (horders : db'.buying.purchaseOrders = db.buying.purchaseOrders)
    (hreturns : db'.buying.purchaseReturns = db.buying.purchaseReturns) :
    SupplyInv stock order warehouseId db' := by
  obtain ⟨horder, hreceipts, hrows, honHand⟩ := h
  have hsame : receiptRows db' order.id = receiptRows db order.id := by
    rw [receiptRows, receiptRows, hstock]
  refine ⟨?_, ?_, ?_, ?_⟩
  · rw [horders]
    exact horder
  · rw [hsame]
    exact hreceipts
  · rw [hreturns]
    exact hrows
  · rw [hsame, hreturns, hstock]
    exact honHand

variable {now : Instant}

theorem receive {companyId userId : Uuid}
    {dto : GoodsReceiptsService.CreateGoodsReceiptDto} {receipt : GoodsReceipt}
    (h : SupplyInv stock order warehouseId db) (horderId : dto.purchaseOrderId = order.id)
    (hc : Commits (GoodsReceiptsService.create companyId userId now dto) db receipt db') :
    SupplyInv stock order warehouseId db' := by
  obtain ⟨⟨o, ho, hitems, hwarehouse⟩, hreceipts, hrows, honHand⟩ := h
  obtain ⟨o', ho', hplace, hreceiptId, hforItem, hposts, hbuying, hrecorded⟩ :=
    GoodsReceiptsService.create_spec hc
  rw [horderId, ho] at ho'
  cases ho'
  obtain rfl := hplace warehouseId hwarehouse
  have hmore : receiptRows db' order.id = receiptRows db order.id ++ receipt.items := by
    have hof : decide (receipt.purchaseOrderId = order.id) = true :=
      decide_eq_true (hreceiptId.trans horderId)
    rw [receiptRows, receiptRows, hrecorded, List.filter_append, List.flatMap_append]
    simp only [List.filter_cons, hof, if_true, List.filter_nil, List.flatMap_cons, List.flatMap_nil,
      List.append_nil]
  refine ⟨⟨o, by rw [hbuying]; exact ho, hitems, hwarehouse⟩, fun row hrow => ?_, ?_, fun k => ?_⟩
  · rw [hmore] at hrow
    rcases List.mem_append.1 hrow with hrow | hrow
    · exact hreceipts row hrow
    · exact forItem_of_items (hforItem row hrow) hitems
  · rw [hbuying]
    exact hrows
  · rw [(posts_iff.1 hposts).1, honHand, hmore, GoodsReceiptsService.postings_append, net_append,
      hbuying]
    abel

variable {r : PurchaseReturn}

theorem createReturn {companyId userId : Uuid}
    {dto : PurchaseReturnsService.CreatePurchaseReturnDto}
    (h : SupplyInv stock order warehouseId db)
    (hc : Commits (PurchaseReturnsService.create companyId userId now dto) db r db') :
    SupplyInv stock order warehouseId db' := by
  obtain ⟨⟨o, ho, hitems, hwarehouse⟩, hreceipts, hrows, honHand⟩ := h
  obtain ⟨o', ho', hnew, hdraft, hforItem, hdb'⟩ := PurchaseReturnsService.create_spec hc
  rw [hdb']
  refine ⟨⟨o, ho, hitems, hwarehouse⟩, hreceipts, ?_, fun k => ?_⟩
  · refine Table.forall_save hrows fun hx row hrow => ?_
    rw [hx, ho] at ho'
    cases ho'
    obtain ⟨item, hitem, hrest⟩ := hforItem row hrow
    exact ⟨item, hitems ▸ hitem, hrest⟩
  · have hnot : ¬ (r.purchaseOrderId = order.id ∧ r.status = .Completed) := by
      rw [hdraft]
      exact fun hx => nomatch hx.2
    refine (honHand k).trans (congrArg₂ (· + ·) rfl ?_)
    show _ = (db.buying.purchaseReturns.save r).sum _
    rw [Table.sum_save_new _ _ _ hnew, if_neg hnot, add_zero]

theorem cancelReturn {id companyId : Uuid} (h : SupplyInv stock order warehouseId db)
    (hc : Commits (PurchaseReturnsService.cancel id companyId) db r db') :
    SupplyInv stock order warehouseId db' := by
  obtain ⟨⟨o, ho, hitems, hwarehouse⟩, hreceipts, hrows, honHand⟩ := h
  obtain ⟨draft, hdraft, hstatus, rfl⟩ := PurchaseReturnsService.cancel_spec hc
  have hmem := Table.mem_of_find? hdraft
  have hkey : db.buying.purchaseReturns.find?
      (key ({ draft with status := .Cancelled } : PurchaseReturn)) = some draft := by
    rw [← hdraft, ← Table.key_of_find? hdraft]
    rfl
  refine ⟨⟨o, ho, hitems, hwarehouse⟩, hreceipts, ?_, fun k => ?_⟩
  · exact Table.forall_save hrows fun hx => hrows draft hmem hx
  · have hnotBefore : ¬ (draft.purchaseOrderId = order.id ∧ draft.status = .Completed) := by
      rw [hstatus]
      exact fun hx => nomatch hx.2
    have hnotAfter : ¬ (draft.purchaseOrderId = order.id ∧
        PurchaseReturnStatus.Cancelled = .Completed) := fun hx => nomatch hx.2
    refine (honHand k).trans (congrArg₂ (· + ·) rfl ?_)
    show _ = (db.buying.purchaseReturns.save _).sum _
    rw [Table.sum_save_over _ _ _ _ hkey, if_neg hnotBefore, if_neg hnotAfter, sub_self, add_zero]

theorem completeReturn {id companyId userId : Uuid} (h : SupplyInv stock order warehouseId db)
    (horderId : ∀ draft ∈ db.buying.purchaseReturns.find? id, draft.purchaseOrderId = order.id)
    (hc : Commits (PurchaseReturnsService.complete id companyId userId now) db r db') :
    SupplyInv stock order warehouseId db' := by
  obtain ⟨⟨o, ho, hitems, hwarehouse⟩, hreceipts, hrows, honHand⟩ := h
  obtain ⟨draft, invoice, o', w, hdraft, hstatus, -, ho', hplace, hposts, -, stocks, ms, rfl⟩ :=
    PurchaseReturnsService.complete_spec hc
  have hof := horderId draft hdraft
  rw [hof, ho] at ho'
  cases ho'
  obtain rfl : w = warehouseId := Option.some.inj (hplace.symm.trans hwarehouse)
  have hmem := Table.mem_of_find? hdraft
  have hkey : db.buying.purchaseReturns.find?
      (key (PurchaseReturnsService.completedReturn userId now invoice draft)) = some draft := by
    rw [← hdraft, ← Table.key_of_find? hdraft]
    rfl
  refine ⟨⟨{ o with
    balanceAmount := PurchaseReturnsService.newBalance invoice draft.subtotal
    updatedBy := some userId }, ?_, hitems, hwarehouse⟩, hreceipts, ?_, fun k => ?_⟩
  · have hoid : o.id = order.id := Table.key_of_find? ho
    rw [← hoid]
    exact Table.find?_save_self _ _
  · exact Table.forall_save hrows fun hx => hrows draft hmem hx
  · have hnotBefore : ¬ (draft.purchaseOrderId = order.id ∧ draft.status = .Completed) := by
      rw [hstatus]
      exact fun hx => nomatch hx.2
    have hperm : net (PurchaseReturnsService.postings w (PurchaseReturnsService.sortedItems draft)) k =
        net (PurchaseReturnsService.postings w draft.items) k := by
      apply net_perm
      exact (List.perm_insertionSort _ _).map _
    refine ((posts_iff.1 hposts).1 k).trans ?_
    rw [honHand k, hperm, add_assoc]
    refine congrArg₂ (· + ·) rfl ?_
    show _ = (db.buying.purchaseReturns.save _).sum _
    rw [Table.sum_save_over _ _ _ _ hkey, if_neg hnotBefore, if_pos ⟨hof, rfl⟩, sub_zero]
    rfl

theorem syncInvoices {companyId : Uuid} {supplierId : Option Uuid} {u : Unit}
    (h : SupplyInv stock order warehouseId db)
    (hc : Commits (PurchaseInvoicesService.syncEligibleInvoices companyId supplierId) db u db') :
    SupplyInv stock order warehouseId db' := by
  simp only [PurchaseInvoicesService.syncEligibleInvoices, commits_bind, commits_get] at hc
  obtain ⟨_, _, ⟨rfl, rfl⟩, hloop⟩ := hc
  refine forM_invariant (fun _ s => SupplyInv stock order warehouseId s)
    (fun done o rest s s' _ hs hstep => ?_) h hloop
  obtain ⟨id, s₁, hseq, -, rfl⟩ := PurchaseInvoicesService.insertInvoice_spec hstep
  refine hs.of_same ?_ rfl rfl
  show s₁.stock = s.stock
  rw [hseq]

theorem step {request : SupplyRequest} (h : SupplyInv stock order warehouseId db)
    (hof : request.OfOrder order.id db) (hs : supplyMachine.step db request = some db') :
    SupplyInv stock order warehouseId db' := by
  obtain ⟨u, hc⟩ := toOption_result_eq_some.1 hs
  cases request with
  | receive companyId userId now dto =>
    obtain ⟨receipt, hc⟩ := (commits_void _ _ _ _).1 hc
    exact h.receive hof hc
  | syncInvoices companyId supplierId => exact h.syncInvoices hc
  | createReturn companyId userId now dto =>
    obtain ⟨r, hc⟩ := (commits_void _ _ _ _).1 hc
    exact h.createReturn hc
  | completeReturn id companyId userId now =>
    obtain ⟨r, hc⟩ := (commits_void _ _ _ _).1 hc
    exact h.completeReturn hof hc
  | cancelReturn id companyId =>
    obtain ⟨r, hc⟩ := (commits_void _ _ _ _).1 hc
    exact h.cancelReturn hc

end SupplyInv

def SentBackInFull (db : Db) (order : PurchaseOrder) : Prop :=
  ∀ item ∈ order.items, net (PurchaseReturnsService.draws (completedRows db order.id)) item.id =
    receivedOf db order.id item

/-- An order received and sent back: nothing of it was there before, and after the
run all that was received has gone back, from the warehouse it was received in. -/
structure ReceivedAndReturned (db₀ db : Db) (order : PurchaseOrder) (warehouseId : Uuid)
    (ls : List SupplyRequest) : Prop where
  ordered : db₀.buying.purchaseOrders.find? order.id = some order
  warehouse : order.warehouseId = some warehouseId
  unreceived : ∀ r ∈ db₀.stock.goodsReceipts, r.purchaseOrderId ≠ order.id
  unreturned : ∀ r ∈ db₀.buying.purchaseReturns.rows, r.purchaseOrderId ≠ order.id
  keyed : (order.items.map (·.id)).Nodup
  run : supplyMachine.RunWith (fun db l => l.OfOrder order.id db) db₀ ls db
  returned : SentBackInFull db order

def ReceivedInBaseUnits (db : Db) (order : PurchaseOrder) : Prop :=
  ∀ variantId,
    net (order.items.map fun i => (i.productVariantId, receivedOf db order.id i * i.factor))
      variantId =
    net (order.items.map fun i => (i.productVariantId, receivedOf db order.id i)) variantId * 10000

theorem SupplyInv.onHand_lines {stock : StockTables} {order : PurchaseOrder} {warehouseId : Uuid}
    {db : Db} (h : SupplyInv stock order warehouseId db) (k : StockKey) :
    onHandIn db.stock.warehouseStock k = onHandIn stock.warehouseStock k +
      net ((receiptRows db order.id).map fun row =>
        (stockKey warehouseId row.productVariantId, row.baseReceivedQuantity)) k -
      net ((completedRows db order.id).map fun row =>
        (stockKey warehouseId row.productVariantId, row.quantity)) k := by
  have hposted : net (GoodsReceiptsService.postings warehouseId (receiptRows db order.id)) k =
      net ((receiptRows db order.id).map fun row =>
        (stockKey warehouseId row.productVariantId, row.baseReceivedQuantity)) k := by
    have hrows := h.receipts
    generalize receiptRows db order.id = rows at hrows
    induction rows with
    | nil => rfl
    | cons row rows ih =>
      obtain ⟨⟨item, -, -, -, hbase⟩, hnonneg⟩ := hrows row List.mem_cons_self
      rw [← List.singleton_append, GoodsReceiptsService.postings_append, net_append,
        GoodsReceiptsService.net_postings_singleton, ih fun r hr => hrows r (List.mem_cons_of_mem _ hr),
        List.singleton_append, List.map_cons, net_cons]
      refine congrArg (· + _) ?_
      by_cases hpos : 0 < row.receivedQuantity
      · simp only [hpos, true_and]
      · -- A line that received nothing posts nothing, and its base quantity is zero.
        have hzero : row.baseReceivedQuantity = 0 := by
          have hnone : row.receivedQuantity = 0 := by omega
          rw [hnone, zero_mul] at hbase
          omega
        rw [if_neg fun hx => hpos hx.1, hzero, ite_self]
  have hlines : net ((completedRows db order.id).map fun row =>
      (stockKey warehouseId row.productVariantId, -row.quantity)) k =
      db.buying.purchaseReturns.sum fun r =>
        if r.purchaseOrderId = order.id ∧ r.status = .Completed then
          net (PurchaseReturnsService.postings warehouseId r.items) k else 0 := by
    rw [completedRows, List.map_flatMap, net_filter_flatMap]
    simp only [decide_eq_true_eq]
    rfl
  rw [h.onHand k, hposted, ← hlines, net_map_neg, ← sub_eq_add_neg]

theorem SupplyInv.base_of_item {stock : StockTables} {order : PurchaseOrder} {warehouseId : Uuid}
    {db : Db} (h : SupplyInv stock order warehouseId db) (hkeyed : (order.items.map (·.id)).Nodup)
    {item : PurchaseOrderItem} (hitem : item ∈ order.items) :
    net ((receiptRows db order.id).map fun row =>
      (row.purchaseOrderItemId, row.baseReceivedQuantity)) item.id * 10000 =
      receivedOf db order.id item * item.factor := by
  have hrows := h.receipts
  rw [receivedOf]
  generalize receiptRows db order.id = rows at hrows
  induction rows with
  | nil => simp
  | cons row rows ih =>
    have hrest := ih fun r hr => hrows r (List.mem_cons_of_mem _ hr)
    obtain ⟨item', hitem', hid, -, hbase⟩ := (hrows row List.mem_cons_self).item
    simp only [List.map_cons, net_cons, add_mul, hrest]
    refine congrArg (· + _) ?_
    by_cases hsame : row.purchaseOrderItemId = item.id
    · have heq : item' = item :=
        List.inj_on_of_nodup_map hkeyed hitem' hitem (hid.symm.trans hsame)
      rw [heq] at hbase
      rw [if_pos hsame, if_pos hsame]
      exact hbase
    · rw [if_neg hsame, if_neg hsame, zero_mul, zero_mul]

/-- Receiving and sending everything back restores the stock exactly when what was
received adds up to its base quantities. -/
theorem ReceivedAndReturned.sameStock_iff {db₀ db : Db} {order : PurchaseOrder} {warehouseId : Uuid}
    {ls : List SupplyRequest} (h : ReceivedAndReturned db₀ db order warehouseId ls) :
    SameStock db₀ db ↔ ReceivedInBaseUnits db order := by
  obtain ⟨hordered, hwarehouse, hunreceived, hunreturned, hkeyed, hrun, hreturned⟩ := h
  have hstart : SupplyInv db₀.stock order warehouseId db₀ := by
    have hnone : receiptRows db₀ order.id = [] := by
      rw [receiptRows, List.flatMap_eq_nil_iff]
      intro r hr
      rw [List.mem_filter, decide_eq_true_eq] at hr
      exact absurd hr.2 (hunreceived r hr.1)
    refine ⟨⟨order, hordered, rfl, hwarehouse⟩, ?_, fun r hr hx => absurd hx (hunreturned r hr),
      fun k => ?_⟩
    · rw [hnone]
      exact fun _ hrow => absurd hrow List.not_mem_nil
    · have hreturns : (db₀.buying.purchaseReturns.sum fun r =>
          if r.purchaseOrderId = order.id ∧ r.status = .Completed then
            net (PurchaseReturnsService.postings warehouseId r.items) k else 0) = 0 := by
        refine List.sum_eq_zero fun a ha => ?_
        obtain ⟨r, hr, rfl⟩ := List.mem_map.1 ha
        exact if_neg fun hx => hunreturned r hr hx.1
      rw [hreturns, hnone, add_zero]
      exact (add_zero _).symm
  have hend := hrun.invariant hstart fun _ _ _ hI hof hs => hI.step hof hs
  have honHand := hend.onHand_lines
  have hreceiptItems : ∀ row ∈ receiptRows db order.id, ∃ item ∈ order.items,
      row.purchaseOrderItemId = item.id ∧ row.productVariantId = item.productVariantId := by
    intro row hrow
    obtain ⟨item, hitem, hid, hvariant, -⟩ := (hend.receipts row hrow).item
    exact ⟨item, hitem, hid, hvariant⟩
  have hreturnItems : ∀ row ∈ completedRows db order.id, ∃ item ∈ order.items,
      row.purchaseOrderItemId = item.id ∧ row.productVariantId = item.productVariantId := by
    intro row hrow
    obtain ⟨r, hr, hrow⟩ := List.mem_flatMap.1 hrow
    rw [List.mem_filter, decide_eq_true_eq] at hr
    exact hend.returns r hr.1 hr.2.1 row hrow
  -- What goes back of a variant is what was received of its items.
  have hback : ∀ v, net ((completedRows db order.id).map fun row =>
      (row.productVariantId, row.quantity)) v =
      net (order.items.map fun i => (i.productVariantId, receivedOf db order.id i)) v := by
    intro v
    rw [net_regroup (fun row : PurchaseReturnItem => row.quantity) hkeyed hreturnItems v]
    refine congrArg (net · v) (List.map_congr_left fun item hitem => ?_)
    exact congrArg (Prod.mk item.productVariantId) (hreturned item hitem)
  -- What was put on hand of a variant is what was received by the factors of its items.
  have hbase : ∀ v, net ((receiptRows db order.id).map fun row =>
      (row.productVariantId, row.baseReceivedQuantity)) v * 10000 =
      net (order.items.map fun i => (i.productVariantId, receivedOf db order.id i * i.factor)) v := by
    intro v
    rw [net_regroup (fun row : GoodsReceiptItem => row.baseReceivedQuantity) hkeyed hreceiptItems v,
      net_map_mul]
    refine congrArg (net · v) (List.map_congr_left fun item hitem => ?_)
    exact congrArg (Prod.mk item.productVariantId) (hend.base_of_item hkeyed hitem)
  have hchange : ∀ k, onHandIn db.stock.warehouseStock k = onHandIn db₀.stock.warehouseStock k ↔
      net ((receiptRows db order.id).map fun row =>
        (stockKey warehouseId row.productVariantId, row.baseReceivedQuantity)) k =
      net ((completedRows db order.id).map fun row =>
        (stockKey warehouseId row.productVariantId, row.quantity)) k := by
    intro k
    rw [honHand k]
    omega
  rw [SameStock, forall_congr' hchange,
    forall_net_map_iff (SalesService.stockKey_injective warehouseId), ReceivedInBaseUnits]
  refine forall_congr' fun v => ?_
  rw [hback v, ← hbase v]
  omega

/-! ## Both ways round -/

/-- When returning everything restores the stock. (a) After a sale and restocking
returns of all it sold, exactly when the base quantities of its lines add up to their
quantities, variant by variant. (b) After receipts of an order and completed returns of
all that was received, exactly when the quantities received add up to their base
quantities, variant by variant. -/
theorem returns_conserve_base_units_iff (db₀ : Db) :
    (∀ (db₁ db₂ : Db) (id companyId userId : Uuid) (sale : Sale) (ls : List ReturnRequest),
      SoldAndReturned db₀ db₁ db₂ id companyId userId sale ls →
        (SameStock db₀ db₂ ↔ SoldInBaseUnits sale)) ∧
    ∀ (db : Db) (order : PurchaseOrder) (warehouseId : Uuid) (ls : List SupplyRequest),
      ReceivedAndReturned db₀ db order warehouseId ls →
        (SameStock db₀ db ↔ ReceivedInBaseUnits db order) :=
  ⟨fun _ _ _ _ _ _ _ h => h.sameStock_iff, fun _ _ _ _ h => h.sameStock_iff⟩

instance (saleId : Uuid) (db : Db) : ∀ request : ReturnRequest, Decidable (request.Restocks saleId db)
  | .confirm id _ _ _ => inferInstanceAs (Decidable (∀ draft ∈ db.selling.saleReturns.find? id,
      draft.saleId = saleId ∧ ∀ row ∈ draft.items, row.condition = .Restock))
  | .create .. | .cancel .. | .refund .. => inferInstanceAs (Decidable True)

instance (orderId : Uuid) (db : Db) : ∀ request : SupplyRequest, Decidable (request.OfOrder orderId db)
  | .receive _ _ _ dto => inferInstanceAs (Decidable (dto.purchaseOrderId = orderId))
  | .completeReturn id _ _ _ => inferInstanceAs (Decidable
      (∀ draft ∈ db.buying.purchaseReturns.find? id, draft.purchaseOrderId = orderId))
  | .syncInvoices .. | .createReturn .. | .cancelReturn .. => inferInstanceAs (Decidable True)

/-! A variant sold and bought in boxes of twelve: two boxes go out and come back, two
boxes come in and go back. -/

namespace BoxDemo

def now : Instant := { date := ⟨2026, 3, 1⟩, millis := 0 }

def shop : Db where
  master :=
    { companies := .ofRows [{ id := 10, status := .Active, baseCurrency := "MMK" }]
      warehouses := .ofRows [{ id := 1, companyId := 10, branchId := 2, status := .Active }]
      customers := .ofRows
        [{ id := 30, companyId := 10, customerCode := "C-1", receivableAccountId := none,
           status := .Active }]
      productVariants := .ofRows
        [{ id := 7, companyId := 10, status := .Active, baseUomId := some 1 }]
      uoms := .ofRows
        [{ id := 2, companyId := 10, code := "BOX", name := "Box", symbol := none,
           isActive := true }]
      productVariantUoms :=
        [{ variantId := 7, companyId := 10, uomId := 2, conversionFactorToBase := 120000,
           usageType := .Both, isActive := true }]
      priceLists := .ofRows [{ id := 40, companyId := 10, status := .Active }]
      priceListItems :=
        [{ companyId := 10, priceListId := 40, productVariantId := 7, uomId := some 2,
           price := 10000, validFrom := ⟨⟨2026, 1, 1⟩, 0⟩, validTo := none, status := .Active }] }
  stock :=
    { warehouseStock := .ofRows
        [{ warehouseId := 1, productVariantId := 7, onHandQuantity := 24, reservedQuantity := 0 }] }

def drafted : Db :=
  (run (SalesService.create 10 99 now
    { branchId := none, warehouseId := some 1, saleType := none, customerId := 30,
      salesAccountId := none, transactionDate := none, currency := "MMK", notes := none,
      promotionCode := none,
      items := [{ productVariantId := 7, uomId := some 2, quantity := 2, discountAmount := none,
                  taxAmount := none, priceListId := none }] } none) shop).2

def takeBack : List ReturnRequest :=
  [.create 10 99 now
    { saleId := 0, reason := none, notes := none,
      items := [{ saleItemId := 1, quantity := 2, discountAmount := none, condition := none }] },
   .confirm 2 10 99 now]

def order : PurchaseOrder where
  id := 50
  purchaseOrderNumber := "PO-1"
  supplierId := 31
  companyId := 10
  branchId := none
  warehouseId := some 1
  status := .Approved
  grandTotal := 20000
  paidAmount := 0
  balanceAmount := 20000
  currency := "MMK"
  updatedBy := none
  items := [{ id := 51, productVariantId := 7, quantity := 2, unitCostSnapshot := 10000,
              conversionFactorToBaseSnapshot := some 120000 }]

def ordered : Db := { shop with buying := { purchaseOrders := .ofRows [order] } }

def sendBack : List SupplyRequest :=
  [.receive 10 99 now
    { purchaseOrderId := 50, warehouseId := 1, receiptDate := none,
      items := [{ purchaseOrderItemId := 51, productVariantId := 7, receivedQuantity := 2,
                  rejectedQuantity := none }] },
   .syncInvoices 10 none,
   .createReturn 10 99 now
    { supplierId := 31, purchaseInvoiceId := 1, reason := "",
      items := [{ purchaseOrderItemId := 51, quantity := 2 }] },
   .completeReturn 2 10 99 now]

theorem sold : ∃ sale db₁ db₂, SoldAndReturned drafted db₁ db₂ 0 10 99 sale takeBack ∧
    onHandIn db₂.stock.warehouseStock (stockKey 1 7) = 2 := by
  obtain ⟨sale, db₁, hconfirmed, hrun⟩ := exists_commits (SalesService.confirm 0 10 99)
    drafted (fun (sale : Sale) (db₁ : Db) => decide ((sale.items.map SaleItem.id).Nodup) &&
      (saleReturnMachine.execWith (fun db l => l.Restocks 0 db) db₁ takeBack).any fun db₂ =>
        decide (∀ item ∈ sale.items,
          net (SaleReturnsService.draws (restockedLines db₂ sale.id)) item.id = item.quantity) &&
        decide (onHandIn db₂.stock.warehouseStock (stockKey 1 7) = 2)) (by decide +kernel)
  rw [Bool.and_eq_true, decide_eq_true_eq] at hrun
  obtain ⟨db₂, hrun', hdb₂⟩ := Machine.exists_runWith saleReturnMachine _ db₁ takeBack _ hrun.2
  rw [Bool.and_eq_true, decide_eq_true_eq, decide_eq_true_eq] at hdb₂
  refine ⟨sale, db₁, db₂, ⟨hconfirmed, ?_, hrun.1, hrun', hdb₂.1⟩, hdb₂.2⟩
  decide +kernel

theorem bought : ∃ db, ReceivedAndReturned ordered db order 1 sendBack ∧
    onHandIn db.stock.warehouseStock (stockKey 1 7) = 46 := by
  obtain ⟨db, hrun, hdb⟩ := Machine.exists_runWith supplyMachine
    (fun db l => l.OfOrder order.id db) ordered sendBack
    (fun db => decide (∀ item ∈ order.items,
      net (PurchaseReturnsService.draws (completedRows db order.id)) item.id =
        receivedOf db order.id item) &&
      decide (onHandIn db.stock.warehouseStock (stockKey 1 7) = 46)) (by decide +kernel)
  rw [Bool.and_eq_true, decide_eq_true_eq, decide_eq_true_eq] at hdb
  refine ⟨db, ⟨by decide +kernel, rfl, ?_, ?_, ?_, hrun, hdb.1⟩, hdb.2⟩ <;> decide +kernel

end BoxDemo

open BoxDemo in
theorem returns_conserve_base_units_iff_boxes :
    (∃ sale db₁ db₂, SoldAndReturned drafted db₁ db₂ 0 10 99 sale takeBack ∧
      (SameStock drafted db₂ ↔ SoldInBaseUnits sale)) ∧
    ∃ db, ReceivedAndReturned ordered db order 1 sendBack ∧
      (SameStock ordered db ↔ ReceivedInBaseUnits db order) := by
  obtain ⟨sale, db₁, db₂, hsold, -⟩ := sold
  obtain ⟨db, hbought, -⟩ := bought
  exact ⟨⟨sale, db₁, db₂, hsold, (returns_conserve_base_units_iff _).1 _ _ _ _ _ _ _ hsold⟩,
    db, hbought, (returns_conserve_base_units_iff _).2 _ _ _ _ hbought⟩

open BoxDemo in
theorem boxes_change_stock :
    (∃ sale db₁ db₂, SoldAndReturned drafted db₁ db₂ 0 10 99 sale takeBack ∧
      ¬ SameStock drafted db₂) ∧
    ∃ db, ReceivedAndReturned ordered db order 1 sendBack ∧ ¬ SameStock ordered db := by
  obtain ⟨sale, db₁, db₂, hsold, hleft⟩ := sold
  obtain ⟨db, hbought, hstock⟩ := bought
  refine ⟨⟨sale, db₁, db₂, hsold, fun hsame => ?_⟩, db, hbought, fun hsame => ?_⟩
  · have hkey := hsame (stockKey 1 7)
    rw [hleft] at hkey
    exact absurd hkey (by decide +kernel)
  · have hkey := hsame (stockKey 1 7)
    rw [hstock] at hkey
    exact absurd hkey (by decide +kernel)

end FashionErp
