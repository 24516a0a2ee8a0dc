/-
The order in which the six services that move stock lock the rows of `warehouse_stock`.

`stock-lock.ts` leaves the order to its callers.
-/
import FashionErp.Inventory.ReceiptRace
import FashionErp.Inventory.StockAdjustments
import FashionErp.Inventory.StockTransfers
import FashionErp.Lib.LockOrder
import FashionErp.Purchase.PurchaseReturns
import FashionErp.Sales.SaleReturns
import FashionErp.Sales.Sales
import Mathlib.Data.Prod.Lex

namespace FashionErp

open Lib Lib.Tx

/-! ## The rows each service locks -/

/-- `SalesService.confirm`: the rows of its items. -/
def SalesService.lockedRows (id companyId : Uuid) : DbTx (List StockKey) := do
  let sale ← findByIdInCompany id companyId
  let warehouseId ← confirmGuard sale
  return (sortedItems sale).map fun item => stockKey warehouseId item.productVariantId

/-- `StockTransfersService.create`: the rows of its items in both warehouses. -/
def StockTransfersService.lockedRows (companyId : Uuid) (dto : CreateStockTransferDto) :
    DbTx (List StockKey) := do
  rejectIf (dto.sourceWarehouseId = dto.destinationWarehouseId)
    (appException .ValidationError
      "sourceWarehouseId and destinationWarehouseId must be different")
  let sourceWarehouse ← WarehousesService.findById dto.sourceWarehouseId
  let destinationWarehouse ← WarehousesService.findById dto.destinationWarehouseId
  assertWarehouseUsable "sourceWarehouseId" sourceWarehouse companyId
  assertWarehouseUsable "destinationWarehouseId" destinationWarehouse companyId
  dto.items.forM (assertVariantUsable companyId)
  return lockTargets dto

/-- `StockAdjustmentsService.create`: one row. -/
def StockAdjustmentsService.lockedRows (companyId : Uuid) (dto : CreateStockAdjustmentDto) :
    DbTx (List StockKey) := do
  let warehouse ← WarehousesService.findById dto.warehouseId
  assertWarehouseUsable "warehouseId" warehouse companyId
  let variant ← ProductVariantsService.findByIdInCompany dto.productVariantId companyId
  rejectIf (variant.status ≠ .Active)
    (appException .ValidationError
      "productVariantId does not reference an active product variant")
  rejectIf (dto.quantityChange = 0)
    (appException .ValidationError "quantityChange must be nonzero")
  return [stockKey dto.warehouseId dto.productVariantId]

/-- `GoodsReceiptsService.create`: the row of each line that receives anything, in the order
of the purchase order items. -/
def GoodsReceiptsService.lockedRows (companyId : Uuid) (dto : CreateGoodsReceiptDto) :
    DbTx (List StockKey) := do
  let _order ← ReceiptRace.openOrder companyId dto
  return ((sortedItems dto).filter fun line => 0 < line.receivedQuantity).map fun line =>
    stockKey dto.warehouseId line.productVariantId

/-- `SaleReturnsService.confirm`: the rows of its items. -/
def SaleReturnsService.lockedRows (id companyId : Uuid) : DbTx (List StockKey) := do
  let saleReturn ← findByIdInCompany id companyId
  let current := saleReturn.status.value
  rejectIf (saleReturn.status ≠ .Draft)
    (appException .UnprocessableEntity s!"Cannot confirm a sale return in status {current}")
  let db ← get
  let sale ← orReject (db.selling.sales.find? saleReturn.saleId) .entityNotFound
  let warehouseId ← resolveWarehouseIdForReturnConfirmation sale companyId
  return (sortedItems saleReturn).map fun item => stockKey warehouseId item.productVariantId

/-- `PurchaseReturnsService.complete`: the rows of its items. -/
def PurchaseReturnsService.lockedRows (id companyId : Uuid) : DbTx (List StockKey) := do
  let purchaseReturn ← findDraft "complete" id companyId
  let db ← get
  let _invoice ← orReject
    ((db.buying.purchaseInvoices.find? purchaseReturn.purchaseInvoiceId).filter fun i =>
      i.companyId = companyId)
    (appException .NotFound "Purchase invoice linked to the return was not found")
  let purchaseOrder ← orReject
    ((db.buying.purchaseOrders.find? purchaseReturn.purchaseOrderId).filter fun o =>
      o.companyId = companyId)
    (appException .NotFound "Purchase order linked to the return was not found")
  let warehouseId ← orReject purchaseOrder.warehouseId
    (appException .ValidationError "This purchase order has no warehouse assigned, so the return cannot reduce stock automatically")
  return (sortedItems purchaseReturn).map fun item => stockKey warehouseId item.productVariantId

namespace StockDeadlocks

inductive Call
  | confirmSale (id companyId userId : Uuid)
  | transfer (companyId userId : Uuid) (now : Instant) (dto : StockTransfersService.CreateStockTransferDto)
  | adjust (companyId userId : Uuid) (now : Instant)
      (dto : StockAdjustmentsService.CreateStockAdjustmentDto)
  | receive (companyId userId : Uuid) (now : Instant) (dto : GoodsReceiptsService.CreateGoodsReceiptDto)
  | confirmReturn (id companyId userId : Uuid) (now : Instant)
  | completeReturn (id companyId userId : Uuid) (now : Instant)
  | elsewhere (write : Db → Db)

def Call.IsReceipt : Call → Prop
  | .receive .. => True
  | _ => False

def Call.lockedRows : Call → DbTx (List StockKey)
  | .confirmSale id companyId _ => SalesService.lockedRows id companyId
  | .transfer companyId _ _ dto => StockTransfersService.lockedRows companyId dto
  | .adjust companyId _ _ dto => StockAdjustmentsService.lockedRows companyId dto
  | .receive companyId _ _ dto => GoodsReceiptsService.lockedRows companyId dto
  | .confirmReturn id companyId _ _ => SaleReturnsService.lockedRows id companyId
  | .completeReturn id companyId _ _ => PurchaseReturnsService.lockedRows id companyId
  | .elsewhere _ => return []

def Call.finish (c : Call) (snapshot db : Db) : Except Failure Db :=
  match c with
  | .confirmSale id companyId userId => do
    let sale ← value (SalesService.findByIdInCompany id companyId) snapshot
    let warehouseId ← value (SalesService.confirmGuard sale) snapshot
    result (SalesService.confirmTransaction userId warehouseId sale) db
  | .transfer companyId userId now dto => result (StockTransfersService.create companyId userId now dto) db
  | .adjust companyId userId now dto => result (StockAdjustmentsService.create companyId userId now dto) db
  | .receive companyId userId now dto => result (GoodsReceiptsService.create companyId userId now dto) db
  | .confirmReturn id companyId userId now => result (SaleReturnsService.confirm id companyId userId now) db
  | .completeReturn id companyId userId now =>
    result (PurchaseReturnsService.complete id companyId userId now) db
  | .elsewhere write => .ok (write db)

def Call.tx (c : Call) : LineTx Db StockKey StockKey Unit Failure :=
  .rowLocks (value c.lockedRows) c.finish

abbrev Phase := LinePhase Db StockKey Unit Failure

def machine (call : ℕ → Call) : Machine (Shared Db StockKey Phase) (ℕ × LineLabel) :=
  concurrent (lineProtocol fun i => (call i).tx)

def wants (call : ℕ → Call) (i : ℕ) : Phase → Option StockKey := (call i).tx.wants

def rank (k : StockKey) : ℕ ×ₗ ℕ := toLex k

def ReceiptsWaitInOrder (call : ℕ → Call) (s : Shared Db StockKey Phase) : Prop :=
  ∀ i, (call i).IsReceipt → ¬ OutOfOrder (wants call) rank s i

section

variable {c : Call} {db : Db} {rows : List StockKey}

theorem rank_injective : Function.Injective rank := toLex.injective

theorem pairwise_stockKey {α : Type} (warehouseId : Uuid) (variant : α → Uuid) (items : List α) :
    ((items.insertionSort fun a b => variant a ≤ variant b).map fun item =>
      stockKey warehouseId (variant item)).Pairwise fun a b => rank a ≤ rank b := by
  rw [List.pairwise_map]
  refine (pairwise_insertionSort_key variant items).imp fun hle => ?_
  rw [rank, rank, Prod.Lex.toLex_le_toLex]
  exact .inr ⟨rfl, hle⟩

theorem pairwise_lockTargets (dto : StockTransfersService.CreateStockTransferDto) :
    (StockTransfersService.lockTargets dto).Pairwise fun a b => rank a ≤ rank b := by
  have hsame : ∀ a b : StockKey, (a.1 < b.1 ∨ (a.1 = b.1 ∧ a.2 ≤ b.2)) = (rank a ≤ rank b) :=
    fun a b => propext (Prod.Lex.toLex_le_toLex (x := a) (y := b)).symm
  unfold StockTransfersService.lockTargets
  simp only [hsame]
  convert pairwise_insertionSort_key rank _

/-- Every request but a goods receipt locks its rows by warehouse and variant. -/
theorem Call.lockedRows_pairwise (hnot : ¬ c.IsReceipt) (h : value c.lockedRows db = .ok rows) :
    rows.Pairwise fun a b => rank a ≤ rank b := by
  obtain ⟨s', h⟩ := value_eq_ok.1 h
  cases c with
  | confirmSale id companyId userId =>
    simp only [Call.lockedRows, SalesService.lockedRows, commits_bind, commits_pure] at h
    obtain ⟨sale, _, -, warehouseId, _, -, rfl, -⟩ := h
    exact pairwise_stockKey warehouseId _ _
  | transfer companyId userId now dto =>
    simp only [Call.lockedRows, StockTransfersService.lockedRows, commits_bind, commits_pure] at h
    obtain ⟨_, _, -, _, _, -, _, _, -, _, _, -, _, _, -, _, _, -, rfl, -⟩ := h
    exact pairwise_lockTargets dto
  | adjust companyId userId now dto =>
    simp only [Call.lockedRows, StockAdjustmentsService.lockedRows, commits_bind,
      commits_pure] at h
    obtain ⟨_, _, -, _, _, -, _, _, -, _, _, -, _, _, -, rfl, -⟩ := h
    exact List.pairwise_singleton _ _
  | receive companyId userId now dto => exact absurd trivial hnot
  | confirmReturn id companyId userId now =>
    simp only [Call.lockedRows, SaleReturnsService.lockedRows, commits_bind, commits_pure] at h
    obtain ⟨_, _, -, _, _, -, _, _, -, _, _, -, warehouseId, _, -, rfl, -⟩ := h
    exact pairwise_stockKey warehouseId _ _
  | completeReturn id companyId userId now =>
    simp only [Call.lockedRows, PurchaseReturnsService.lockedRows, commits_bind, commits_pure] at h
    obtain ⟨_, _, -, _, _, -, _, _, -, _, _, -, warehouseId, _, -, rfl, -⟩ := h
    exact pairwise_stockKey warehouseId _ _
  | elsewhere write =>
    simp only [Call.lockedRows, commits_pure] at h
    obtain ⟨rfl, -⟩ := h
    exact List.Pairwise.nil

theorem Call.tx_sorted (hnot : ¬ c.IsReceipt) : c.tx.Sorted rank :=
  fun _ _ h => c.lockedRows_pairwise hnot h

/-- Stock locks deadlock only over a goods receipt that waits for a row while it holds
one of a larger variant: in a run without any, no request ever waits in a cycle. -/
theorem stock_never_deadlocks (call : ℕ → Call) (db : Db) (ls : List (ℕ × LineLabel))
    (h : ∀ ks, ks <+: ls → ∀ s, (machine call).Run (.start db .called) ks s →
      ReceiptsWaitInOrder call s) :
    ∀ ks, ks <+: ls → ∀ s, (machine call).Run (.start db .called) ks s →
      ¬ Deadlocked (wants call) s := by
  intro ks hks s hrun
  exact not_deadlocked rank_injective (fun i hnot => (call i).tx_sorted hnot) hrun
    (h ks hks s hrun)

theorem receive_tx_sorted {companyId userId : Uuid} {now : Instant}
    {dto : GoodsReceiptsService.CreateGoodsReceiptDto} (h : dto.items.length ≤ 1) :
    (Call.receive companyId userId now dto).tx.Sorted rank := by
  intro db todo hstart
  obtain ⟨s', hvalue⟩ := value_eq_ok.1 hstart
  simp only [Call.lockedRows, GoodsReceiptsService.lockedRows, commits_bind, commits_pure] at hvalue
  obtain ⟨_, _, -, rfl, -⟩ := hvalue
  have hshort := List.length_filter_le (fun line => 0 < line.receivedQuantity)
    (GoodsReceiptsService.sortedItems dto)
  rw [GoodsReceiptsService.sortedItems, List.length_insertionSort] at hshort
  apply List.pairwise_iff_getElem.2
  intro i j _ hj hij
  rw [List.length_map, GoodsReceiptsService.sortedItems] at hj
  omega

end

namespace DeadlockDemo

def order : PurchaseOrder :=
  { id := 70, purchaseOrderNumber := "PO-2026-000001", supplierId := 40, companyId := 10,
    branchId := none, warehouseId := none, status := .Confirmed, grandTotal := 10000,
    paidAmount := 0, balanceAmount := 10000, currency := "MMK", updatedBy := none,
    items := [{ id := 71, productVariantId := 8, quantity := 5, unitCostSnapshot := 1000,
                conversionFactorToBaseSnapshot := none },
              { id := 72, productVariantId := 7, quantity := 5, unitCostSnapshot := 1000,
                conversionFactorToBaseSnapshot := none }] }

def sale : Sale :=
  { id := 80, companyId := 10, customerId := 30, branchId := none, warehouseId := some 20,
    status := .Draft, grandTotal := 4000, paidAmount := 0, balanceAmount := 4000,
    currency := "MMK", fulfillmentStatus := none, shippedAt := none, deliveredAt := none,
    updatedBy := none
    items := [{ id := 81, productVariantId := 7, quantity := 1, baseQuantitySnapshot := some 1 },
              { id := 82, productVariantId := 8, quantity := 1, baseQuantitySnapshot := some 1 }] }

def db : Db where
  master :=
    { warehouses := .ofRows [{ id := 20, companyId := 10, branchId := 15, status := .Active }]
      productVariants :=
        .ofRows [{ id := 7, companyId := 10, status := .Active },
          { id := 8, companyId := 10, status := .Active }] }
  buying := { purchaseOrders := .ofRows [order] }
  selling := { sales := .ofRows [sale] }

def receive (items : List GoodsReceiptsService.CreateGoodsReceiptItemDto) : Call :=
  .receive 10 99 { date := ⟨2026, 3, 1⟩, millis := 0 }
    { purchaseOrderId := 70, warehouseId := 20, receiptDate := none, items := items }

def line (item variant : Uuid) : GoodsReceiptsService.CreateGoodsReceiptItemDto :=
  { purchaseOrderItemId := item, productVariantId := variant, receivedQuantity := 5,
    rejectedQuantity := none }

def calls (i : ℕ) : Call :=
  if i = 0 then receive [line 71 8, line 72 7]
  else if i = 1 then receive [line 72 7]
  else .confirmSale 80 10 99

end DeadlockDemo

open DeadlockDemo in
theorem receipt_sale_deadlock :
    ∃ s, (machine calls).Run (.start db .called)
        [(0, .start), (0, .lock), (0, .check), (2, .start), (2, .lock), (2, .check)] s ∧
      Deadlocked (wants calls) s := by
  obtain ⟨s, hrun, hs⟩ := Machine.exists_runWith (machine calls) (fun _ _ => True)
    (.start db .called)
    [(0, .start), (0, .lock), (0, .check), (2, .start), (2, .lock), (2, .check)]
    (fun s => (wants calls 0 (s.phase 0) = some (20, 7) ∧ s.lock (20, 7) = some 2) ∧
      (wants calls 2 (s.phase 2) = some (20, 8) ∧ s.lock (20, 8) = some 0))
    (by decide +kernel)
  obtain ⟨⟨hwants, hheld⟩, hwants', hheld'⟩ := of_decide_eq_true hs
  have hwaits : Waits (wants calls) s 0 2 := ⟨by decide, _, hwants, hheld⟩
  exact ⟨s, hrun.run, deadlocked_of_waits _ hwaits ⟨by decide, _, hwants', hheld'⟩⟩

open DeadlockDemo in
theorem stock_never_deadlocks_one_line :
    (∃ s, (machine fun i => calls (i + 1)).Run (.start db .called)
        [(0, .start), (0, .lock), (1, .start)] s ∧
      Waits (wants fun i => calls (i + 1)) s 1 0) ∧
    ∀ s, (machine fun i => calls (i + 1)).Run (.start db .called)
        [(0, .start), (0, .lock), (1, .start)] s →
      ¬ Deadlocked (wants fun i => calls (i + 1)) s := by
  constructor
  · obtain ⟨s, hrun, hs⟩ := Machine.exists_runWith (machine fun i => calls (i + 1))
      (fun _ _ => True) (.start db .called) [(0, .start), (0, .lock), (1, .start)]
      (fun s => wants (fun i => calls (i + 1)) 1 (s.phase 1) = some (20, 7) ∧
        s.lock (20, 7) = some 0)
      (by decide +kernel)
    obtain ⟨hwants, hheld⟩ := of_decide_eq_true hs
    exact ⟨s, hrun.run, by decide, _, hwants, hheld⟩
  · refine stock_never_deadlocks (fun i => calls (i + 1)) db _ ?_ _ (List.prefix_refl _)
    intro ks _ s hrun i _
    refine LineTx.Sorted.not_outOfOrder hrun ?_
    show (calls (i + 1)).tx.Sorted rank
    rw [calls, if_neg (Nat.succ_ne_zero i)]
    split
    · exact receive_tx_sorted (by decide)
    · exact Call.tx_sorted id

end StockDeadlocks

end FashionErp
