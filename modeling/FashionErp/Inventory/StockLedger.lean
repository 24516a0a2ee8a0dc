/-
The stock ledger over whole runs.

Six services move stock: goods receipts, transfers, adjustments, sale confirmations,
return confirmations and purchase-return completions.
-/
import FashionErp.Lib.Machine
import FashionErp.Inventory.GoodsReceipts
import FashionErp.Inventory.StockTransfers
import FashionErp.Inventory.StockAdjustments
import FashionErp.Sales.Sales
import FashionErp.Sales.SaleReturns
import FashionErp.Purchase.PurchaseReturns
import Mathlib.Algebra.BigOperators.Group.Finset.Piecewise
import Mathlib.Algebra.Order.Group.Int

namespace FashionErp

open Lib Lib.Tx

/-! ## `InventoryLedgerService.getReconciliation` -/

namespace InventoryLedgerService

structure ReconciliationResult where
  warehouseId : Uuid
  productVariantId : Uuid
  warehouseStockBalance : ℤ
  ledgerBalance : ℤ
  difference : ℤ
  reconciled : Bool

/-- `SUM(movement.quantityChange)` of a pair. -/
def sumQuantityChange (movements : List StockMovement) (warehouseId productVariantId : Uuid) : ℤ :=
  ((movements.filter fun m =>
    m.warehouseId = warehouseId ∧ m.productVariantId = productVariantId).map
    (·.quantityChange)).sum

def warehouseJoined (db : Db) (companyId warehouseId : Uuid) : Bool :=
  (db.master.warehouses.find? warehouseId).any fun w => w.companyId = companyId && !w.deleted

def getReconciliation (companyId : Uuid) (warehouseId productVariantId : Option Uuid) :
    DbTx ReconciliationResult := do
  match warehouseId, productVariantId with
  | some warehouseId, some productVariantId =>
    let db ← get
    let joined := warehouseJoined db companyId warehouseId
    let ledgerBalance :=
      if joined then sumQuantityChange db.stock.stockMovements warehouseId productVariantId else 0
    let stockRow :=
      if joined then db.stock.warehouseStock.find? (stockKey warehouseId productVariantId)
      else none
    let warehouseStockBalance := (stockRow.map (·.onHandQuantity)).getD 0
    let difference := warehouseStockBalance - ledgerBalance
    return { warehouseId := warehouseId, productVariantId := productVariantId,
             warehouseStockBalance := warehouseStockBalance, ledgerBalance := ledgerBalance,
             difference := difference, reconciled := difference = 0 }
  | _, _ =>
    throw (appException .ValidationError "warehouseId and productVariantId are both required")

theorem sumQuantityChange_eq_net (movements : List StockMovement) (w v : Uuid) :
    sumQuantityChange movements w v = net (movements.map StockMovement.posting) (stockKey w v) := by
  induction movements with
  | nil => rfl
  | cons m ms ih =>
    rw [List.map_cons, net_cons, ← ih]
    by_cases h : m.warehouseId = w ∧ m.productVariantId = v
    · simp [sumQuantityChange, StockMovement.posting, stockKey, h]
    · simp [sumQuantityChange, StockMovement.posting, stockKey, h]

theorem getReconciliation_reconciled {companyId : Uuid} {w v : Option Uuid}
    {result : ReconciliationResult} {db db' : Db} (hrec : db.stock.book.Reconciled)
    (h : Commits (getReconciliation companyId w v) db result db') : result.reconciled = true := by
  unfold getReconciliation at h
  split at h
  · rename_i w v
    simp only [commits_bind, commits_get, commits_pure] at h
    obtain ⟨_, _, ⟨rfl, rfl⟩, rfl, rfl⟩ := h
    have hkey : onHandIn db.stock.warehouseStock (stockKey w v) =
        sumQuantityChange db.stock.stockMovements w v := by
      rw [sumQuantityChange_eq_net]
      exact hrec (stockKey w v)
    by_cases hjoined : warehouseJoined db companyId w
    · simp only [hjoined, if_true, decide_eq_true_eq]
      rw [← hkey, onHandIn, sub_self]
    · simp [hjoined]
  · exact absurd h (commits_throw _ _ _ _)

end InventoryLedgerService

/-! ## Requests that move stock -/

inductive StockRequest
  | goodsReceipt (companyId userId : Uuid) (now : Instant) (warehouse : Warehouse)
      (dto : GoodsReceiptsService.CreateGoodsReceiptDto)
  | stockTransfer (companyId userId : Uuid) (now : Instant)
      (dto : StockTransfersService.CreateStockTransferDto)
  | stockAdjustment (companyId userId : Uuid) (now : Instant)
      (dto : StockAdjustmentsService.CreateStockAdjustmentDto)
  | saleConfirm (userId warehouseId : Uuid) (sale : Sale)
  | saleReturnConfirm (id companyId userId : Uuid) (now : Instant)
  | purchaseReturnComplete (id companyId userId : Uuid) (now : Instant)

def StockRequest.transaction : StockRequest → DbTx Unit
  | goodsReceipt companyId userId now warehouse dto =>
    void (GoodsReceiptsService.createTransaction companyId userId now warehouse dto)
  | stockTransfer companyId userId now dto =>
    void (StockTransfersService.createTransaction companyId userId now dto)
  | stockAdjustment companyId userId now dto =>
    void (StockAdjustmentsService.createTransaction companyId userId now dto)
  | saleConfirm userId warehouseId sale =>
    void (SalesService.confirmTransaction userId warehouseId sale)
  | saleReturnConfirm id companyId userId now =>
    void (SaleReturnsService.confirm id companyId userId now)
  | purchaseReturnComplete id companyId userId now =>
    void (PurchaseReturnsService.complete id companyId userId now)

/-- Every stock operation posts. Whatever the operation and its lines, the
stock rows and the movements change by one and the same list. -/
theorem StockRequest.posts {request : StockRequest} {db db' : Db} {u : Unit}
    (h : Commits request.transaction db u db') : ∃ ps, Posts db.stock db'.stock ps := by
  cases request with
  | goodsReceipt companyId userId now warehouse dto =>
    obtain ⟨_, h⟩ := (commits_void _ _ _ _).1 h
    exact ⟨_, GoodsReceiptsService.createTransaction_posts h⟩
  | stockTransfer companyId userId now dto =>
    obtain ⟨_, h⟩ := (commits_void _ _ _ _).1 h
    exact ⟨_, StockTransfersService.createTransaction_posts h⟩
  | stockAdjustment companyId userId now dto =>
    obtain ⟨_, h⟩ := (commits_void _ _ _ _).1 h
    exact ⟨_, (StockAdjustmentsService.createTransaction_posts h).1⟩
  | saleConfirm userId warehouseId sale =>
    obtain ⟨_, h⟩ := (commits_void _ _ _ _).1 h
    exact ⟨_, SalesService.confirmTransaction_posts h⟩
  | saleReturnConfirm id companyId userId now =>
    obtain ⟨_, h⟩ := (commits_void _ _ _ _).1 h
    obtain ⟨_, _, hposts⟩ := SaleReturnsService.confirm_posts h
    exact ⟨_, hposts⟩
  | purchaseReturnComplete id companyId userId now =>
    obtain ⟨_, h⟩ := (commits_void _ _ _ _).1 h
    obtain ⟨_, _, _, _, -, -, -, -, -, hposts, -⟩ := PurchaseReturnsService.complete_spec h
    exact ⟨_, hposts⟩

/-! ## Runs -/

inductive StockLabel
  | request (request : StockRequest)
  /-- Anything else: every table but `warehouse_stock` and `stock_movements` may
  take new contents. -/
  | elsewhere (contents : Db)

/-- `contents` with the stock rows and the movements of `db`. -/
def Db.keepStock (db contents : Db) : Db :=
  { contents with stock := { contents.stock with
      warehouseStock := db.stock.warehouseStock
      stockMovements := db.stock.stockMovements } }

/-- The backend as stock sees it. -/
def stockMachine : Machine Db StockLabel where
  step db
    | .request request => some (run request.transaction db).2
    | .elsewhere contents => some (db.keepStock contents)

theorem stockMachine_reconciled {db db' : Db} {l : StockLabel} (h : db.stock.book.Reconciled)
    (hs : stockMachine.step db l = some db') : db'.stock.book.Reconciled := by
  cases l with
  | request request =>
    cases hs
    rcases run_cases request.transaction db with ⟨_, db', hc, hrun⟩ | ⟨_, -, hrun⟩
    · obtain ⟨ps, hposts⟩ := StockRequest.posts hc
      rw [hrun, hposts]
      exact h.post ps
    · rwa [hrun]
  | elsewhere contents =>
    cases hs
    exact h

def shopWarehouse : Warehouse := { id := 1, companyId := 10, branchId := 2, status := .Active }

def shopVariant : ProductVariant := { id := 7, companyId := 10, status := .Active }

def twoLineSale : Sale :=
  { id := 100, companyId := 10, customerId := 20, branchId := some 2, warehouseId := some 1,
    status := .Draft, grandTotal := 6000, paidAmount := 0, balanceAmount := 6000,
    currency := "MMK", fulfillmentStatus := none, shippedAt := none, deliveredAt := none,
    updatedBy := none,
    items := [{ id := 101, productVariantId := 7, quantity := 3, baseQuantitySnapshot := some 3 },
      { id := 102, productVariantId := 7, quantity := 3, baseQuantitySnapshot := some 3 }] }

def shopDb : Db where
  master := { warehouses := .ofRows [shopWarehouse], productVariants := .ofRows [shopVariant] }
  selling := { sales := .ofRows [twoLineSale] }

def noon : Instant := { date := { year := 2026, month := 7, day := 1 }, millis := 43200000 }

def openingCount : StockRequest :=
  .stockAdjustment 10 99 noon
    { warehouseId := 1, productVariantId := 7, quantityChange := 5, reason := .OpeningBalance }

def stockedDb : Db := (run openingCount.transaction shopDb).2

def soldDb : Db := (run (StockRequest.saleConfirm 99 1 twoLineSale).transaction stockedDb).2

/-- What the warehouses of `W` have of a variant. -/
def Db.onHandOver (db : Db) (W : Finset Uuid) (productVariantId : Uuid) : ℤ :=
  ∑ w ∈ W, onHandIn db.stock.warehouseStock (stockKey w productVariantId)

/-- Of all that moves stock, only transfers between warehouses of `W` are requested. -/
def StockLabel.TransfersWithin (W : Finset Uuid) : StockLabel → Prop
  | .request (.stockTransfer _ _ _ dto) => dto.sourceWarehouseId ∈ W ∧ dto.destinationWarehouseId ∈ W
  | .request _ => False
  | .elsewhere _ => True

theorem sum_net_postings {W : Finset Uuid} {dto : StockTransfersService.CreateStockTransferDto}
    (hsource : dto.sourceWarehouseId ∈ W) (hdestination : dto.destinationWarehouseId ∈ W) (v : Uuid) :
    ∑ w ∈ W, net (StockTransfersService.postings dto) (stockKey w v) = 0 := by
  -- One warehouse of `W` has what `quantity` says, and only for its own variant.
  have hone {w₀ : Uuid} (hw : w₀ ∈ W) (p : Uuid) (quantity : ℤ) :
      (∑ w ∈ W, if stockKey w₀ p = stockKey w v then quantity else 0) = if p = v then quantity else 0 := by
    by_cases hp : p = v
    · simp [stockKey, hp, hw]
    · simp [stockKey, hp]
  unfold StockTransfersService.postings
  induction dto.items with
  | nil => simp
  | cons item items ih =>
    rw [List.flatMap_cons]
    simp only [net_append, Finset.sum_add_distrib, ih, add_zero, StockTransfersService.itemPostings,
      net_cons, net_nil, StockTransfersService.sourceKey, StockTransfersService.destinationKey]
    rw [hone hsource, hone hdestination]
    split
    · exact neg_add_cancel _
    · rfl

def splitTransfer : StockRequest :=
  .stockTransfer 10 99 noon
    { sourceWarehouseId := 1, destinationWarehouseId := 3, items := [⟨7, 1⟩, ⟨7, 1⟩] }

inductive IssueRequest
  | saleConfirm (id companyId userId : Uuid)
  | stockTransfer (companyId userId : Uuid) (now : Instant)
      (dto : StockTransfersService.CreateStockTransferDto)
  | stockAdjustment (companyId userId : Uuid) (now : Instant)
      (dto : StockAdjustmentsService.CreateStockAdjustmentDto)
  | purchaseReturnComplete (id companyId userId : Uuid) (now : Instant)

def IssueRequest.transaction : IssueRequest → DbTx Unit
  | saleConfirm id companyId userId => void (SalesService.confirm id companyId userId)
  | stockTransfer companyId userId now dto =>
    void (StockTransfersService.create companyId userId now dto)
  | stockAdjustment companyId userId now dto =>
    void (StockAdjustmentsService.create companyId userId now dto)
  | purchaseReturnComplete id companyId userId now =>
    void (PurchaseReturnsService.complete id companyId userId now)

/-- A request that never drives stock below zero: if it commits, no on-hand
quantity is negative afterwards; if it is rejected, nothing has changed. -/
def IssueRequest.KeepsStockNonneg (request : IssueRequest) (db : Db) : Prop :=
  (∀ u db', Commits request.transaction db u db' → db'.stock.book.Nonneg) ∧
    ∀ e, Rejects request.transaction db e → (run request.transaction db).2 = db

def SaleOverdraws (db : Db) (warehouseId : Uuid) (sale : Sale) : Prop :=
  ∃ v, onHandIn db.stock.warehouseStock (stockKey warehouseId v) <
    net (sale.items.map fun i => (i.productVariantId, SalesService.baseQuantity i)) v

def TransferOverdraws (db : Db) (dto : StockTransfersService.CreateStockTransferDto) : Prop :=
  ∃ v, onHandIn db.stock.warehouseStock (stockKey dto.sourceWarehouseId v) <
    net (dto.items.map fun i => (i.productVariantId, (i.quantity : ℤ))) v

/-- The requests that go wrong: a sale confirmation or a transfer whose every
check passes, each line being covered alone, while the lines of one variant
together ask for more than there is. -/
def IssueRequest.Overdraws (db : Db) : IssueRequest → Prop
  | saleConfirm id companyId _ => ∃ warehouseId sale,
    SalesService.Accepted db id companyId warehouseId sale ∧ SaleOverdraws db warehouseId sale
  | stockTransfer companyId _ _ dto =>
    StockTransfersService.Accepted db companyId dto ∧ TransferOverdraws db dto
  | stockAdjustment .. => False
  | purchaseReturnComplete .. => False

theorem sale_affordable_iff {db : Db} (hdb : db.stock.book.Nonneg) (w : Uuid) (sale : Sale) :
    db.stock.book.Affordable (SalesService.postings w (SalesService.sortedItems sale)) ↔
      ¬ SaleOverdraws db w sale := by
  have hnet : ∀ v, net (SalesService.postings w (SalesService.sortedItems sale)) (stockKey w v) =
      -net (sale.items.map fun i => (i.productVariantId, SalesService.baseQuantity i)) v := by
    intro v
    have hperm : (SalesService.sortedItems sale).Perm sale.items := List.perm_insertionSort _ _
    rw [SalesService.postings, net_map_neg,
      net_map_of_injective _ _ (SalesService.stockKey_injective w), net_perm (hperm.map _)]
  simp only [SaleOverdraws, not_exists, not_lt]
  constructor
  · intro h v
    have := h (stockKey w v)
    rw [hnet] at this
    exact Int.le_of_sub_nonneg this
  · rintro h ⟨w', v⟩
    by_cases hw : w = w'
    · subst hw
      have := hnet v
      rw [stockKey] at this
      rw [this]
      exact Int.sub_nonneg_of_le (h v)
    · -- Another warehouse is not touched.
      rw [net_eq_zero, add_zero]
      · exact hdb (w', v)
      · intro p hp hk
        obtain ⟨i, -, rfl⟩ := List.mem_map.1 hp
        exact hw (Prod.mk.inj hk).1

theorem transfer_affordable_iff {db : Db} (hdb : db.stock.book.Nonneg)
    {dto : StockTransfersService.CreateStockTransferDto}
    (hne : dto.sourceWarehouseId ≠ dto.destinationWarehouseId) :
    db.stock.book.Affordable (StockTransfersService.postings dto) ↔ ¬ TransferOverdraws db dto := by
  have hsplit : ∀ k, net (StockTransfersService.postings dto) k =
      -net (dto.items.map fun i => (stockKey dto.sourceWarehouseId i.productVariantId,
        (i.quantity : ℤ))) k +
      net (dto.items.map fun i => (stockKey dto.destinationWarehouseId i.productVariantId,
        (i.quantity : ℤ))) k := by
    intro k
    rw [← net_map_neg]
    exact net_flatMap_pair _ _ _ k
  have hzero : ∀ (w w' v : Uuid), w ≠ w' → net (dto.items.map fun i =>
      (stockKey w i.productVariantId, (i.quantity : ℤ))) (w', v) = 0 := by
    intro w w' v hw
    refine net_eq_zero fun p hp hk => ?_
    obtain ⟨i, -, rfl⟩ := List.mem_map.1 hp
    exact hw (Prod.mk.inj hk).1
  have hsource : ∀ v, net (StockTransfersService.postings dto)
      (stockKey dto.sourceWarehouseId v) =
      -net (dto.items.map fun i => (i.productVariantId, (i.quantity : ℤ))) v := by
    intro v
    rw [hsplit, net_map_of_injective _ _ (SalesService.stockKey_injective _), stockKey,
      hzero _ _ _ hne.symm, add_zero]
  simp only [TransferOverdraws, not_exists, not_lt]
  constructor
  · intro h v
    have := h (stockKey dto.sourceWarehouseId v)
    rw [hsource] at this
    exact Int.le_of_sub_nonneg this
  · rintro h ⟨w, v⟩
    by_cases hw : dto.sourceWarehouseId = w
    · subst hw
      have := hsource v
      rw [stockKey] at this
      rw [this]
      exact Int.sub_nonneg_of_le (h v)
    · -- Away from the source a transfer only adds.
      rw [hsplit, hzero _ _ _ hw, neg_zero, zero_add]
      refine add_nonneg (hdb (w, v)) (net_nonneg (fun p hp => ?_) _)
      obtain ⟨i, -, rfl⟩ := List.mem_map.1 hp
      exact Int.natCast_nonneg _

theorem book_nonneg_of_rows {stock : StockTables}
    (h : ∀ row ∈ stock.warehouseStock.rows, 0 ≤ row.onHandQuantity) : stock.book.Nonneg := by
  intro k
  show 0 ≤ onHandIn stock.warehouseStock k
  rw [onHandIn]
  cases hk : stock.warehouseStock.find? k with
  | none => exact le_refl 0
  | some row => exact h row (Table.mem_of_find? hk)

/-- When stock stays at or above zero. From a state without a negative
quantity, a request keeps it so, or is rejected without a trace, exactly when it
is not an accepted sale confirmation or transfer whose lines overdraw a variant
together. -/
theorem issue_keeps_stock_nonneg_iff {db : Db} (hdb : db.stock.book.Nonneg)
    (request : IssueRequest) : request.KeepsStockNonneg db ↔ ¬ request.Overdraws db := by
  have hrejects : ∀ e, Rejects request.transaction db e → (run request.transaction db).2 = db :=
    fun _ h => by rw [run_of_rejects h]
  cases request with
  | saleConfirm id companyId userId =>
    constructor
    · rintro ⟨hkeeps, -⟩ ⟨w, sale, hacc, hover⟩
      obtain ⟨saved, db', hc, hposts⟩ := SalesService.confirm_succeeds userId hacc
      have hnonneg := hkeeps ⟨⟩ db' ((commits_void _ _ _ _).2 ⟨saved, hc⟩)
      rw [hposts, Book.nonneg_post_iff, sale_affordable_iff hdb] at hnonneg
      exact hnonneg hover
    · refine fun hover => ⟨fun u db' hc => ?_, hrejects⟩
      obtain ⟨saved, hc⟩ := (commits_void _ _ _ _).1 hc
      obtain ⟨w, sale, hacc, htx⟩ := SalesService.confirm_accepted hc
      rw [SalesService.confirmTransaction_posts htx, Book.nonneg_post_iff, sale_affordable_iff hdb]
      exact fun h => hover ⟨w, sale, hacc, h⟩
  | stockTransfer companyId userId now dto =>
    constructor
    · rintro ⟨hkeeps, -⟩ ⟨hacc, hover⟩
      obtain ⟨transfer, db', hc, hposts⟩ := StockTransfersService.create_succeeds userId now hacc
      have hnonneg := hkeeps ⟨⟩ db' ((commits_void _ _ _ _).2 ⟨transfer, hc⟩)
      rw [hposts, Book.nonneg_post_iff, transfer_affordable_iff hdb hacc.distinct] at hnonneg
      exact hnonneg hover
    · refine fun hover => ⟨fun u db' hc => ?_, hrejects⟩
      obtain ⟨transfer, hc⟩ := (commits_void _ _ _ _).1 hc
      have hacc := StockTransfersService.create_accepted hc
      have hposts := (StockTransfersService.create_succeeds userId now hacc).of_commits hc
      rw [hposts, Book.nonneg_post_iff, transfer_affordable_iff hdb hacc.distinct]
      exact fun h => hover ⟨hacc, h⟩
  | stockAdjustment companyId userId now dto =>
    refine iff_of_true ⟨fun u db' hc => ?_, hrejects⟩ not_false
    obtain ⟨adjustment, hc⟩ := (commits_void _ _ _ _).1 hc
    obtain ⟨hposts, hrow⟩ := StockAdjustmentsService.create_posts hc
    rw [hposts, Book.nonneg_post_iff]
    intro k
    rw [StockAdjustmentsService.postings, net_singleton]
    by_cases hk : stockKey dto.warehouseId dto.productVariantId = k
    · subst hk
      rw [if_pos rfl]
      exact hrow
    · rw [if_neg hk, add_zero]
      exact hdb k
  | purchaseReturnComplete id companyId userId now =>
    refine iff_of_true ⟨fun u db' hc => ?_, hrejects⟩ not_false
    obtain ⟨completed, hc⟩ := (commits_void _ _ _ _).1 hc
    obtain ⟨_, _, _, _, -, -, -, -, -, -, hnonneg, -⟩ := PurchaseReturnsService.complete_spec hc
    exact hnonneg hdb

theorem issue_keeps_stock_nonneg_iff_shop :
    (IssueRequest.saleConfirm 100 10 99).KeepsStockNonneg stockedDb ↔
      ¬ (IssueRequest.saleConfirm 100 10 99).Overdraws stockedDb :=
  issue_keeps_stock_nonneg_iff (book_nonneg_of_rows (by decide +kernel)) _

/-- The shop after `confirm` of the two-line sale. -/
def oversoldDb : Db := (run (IssueRequest.saleConfirm 100 10 99).transaction stockedDb).2

theorem two_line_sale_goes_negative :
    stockMachine.Reaches shopDb stockedDb ∧ stockedDb.stock.book.Nonneg ∧
      ¬ (IssueRequest.saleConfirm 100 10 99).KeepsStockNonneg stockedDb := by
  refine ⟨⟨[.request openingCount], .step trivial rfl (.done _)⟩,
    book_nonneg_of_rows (by decide +kernel), ?_⟩
  rintro ⟨hkeeps, -⟩
  obtain ⟨u, hc⟩ := commits_of_run_isOk
    (t := (IssueRequest.saleConfirm 100 10 99).transaction) (s := stockedDb) (by decide +kernel)
  have hneg : onHandIn oversoldDb.stock.warehouseStock (stockKey 1 7) = -1 := by decide +kernel
  have hnonneg : 0 ≤ onHandIn oversoldDb.stock.warehouseStock (stockKey 1 7) :=
    hkeeps u oversoldDb hc (stockKey 1 7)
  rw [hneg] at hnonneg
  exact absurd hnonneg (by decide)

end FashionErp
