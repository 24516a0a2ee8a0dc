/-
The stock card over whole runs.

`getStockCard` lists the movements of a pair in the order they were written, and the
response shows of each the balance before and after it.
-/
import FashionErp.Inventory.StockLedger

namespace FashionErp

open Lib Lib.Tx

/-! ## `InventoryLedgerService.getStockCard` -/

namespace InventoryLedgerService

structure StockCardEntryResponseDto where
  movementType : StockMovementType
  quantityChange : ℤ
  balanceBefore : ℤ
  balanceAfter : ℤ
  referenceType : StockMovementReferenceType
  referenceId : Uuid
  createdBy : Option Uuid

def toStockCardEntryResponseDto (entity : StockMovement) : StockCardEntryResponseDto where
  movementType := entity.movementType
  quantityChange := entity.quantityChange
  balanceBefore := entity.quantityAfter - entity.quantityChange
  balanceAfter := entity.quantityAfter
  referenceType := entity.referenceType
  referenceId := entity.referenceId
  createdBy := entity.createdBy

def movementsOf (db : Db) (warehouseId productVariantId : Uuid) : List StockMovement :=
  db.stock.stockMovements.filter fun m =>
    m.warehouseId = warehouseId ∧ m.productVariantId = productVariantId

def getStockCard (companyId : Uuid) (warehouseId productVariantId : Option Uuid) :
    DbTx (List StockMovement) := do
  match warehouseId, productVariantId with
  | some warehouseId, some productVariantId =>
    let db ← get
    return if (db.master.warehouses.find? warehouseId).any fun w => w.companyId = companyId &&
        !w.deleted then movementsOf db warehouseId productVariantId else []
  | _, _ =>
    throw (appException .ValidationError "warehouseId and productVariantId are both required")

/-- The columns of a card, as a reader takes them: the first balance before is `b`,
each later one is the balance after the entry above it, and an entry's change leads
from the one to the other. -/
def BalancesRun : ℤ → List StockCardEntryResponseDto → Prop
  | _, [] => True
  | b, e :: es =>
    e.balanceBefore = b ∧ e.balanceAfter = b + e.quantityChange ∧ BalancesRun e.balanceAfter es

theorem statement_entries (db : Db) (w v : Uuid) :
    statement (db.stock.stockMovements.map StockMovement.entry) (stockKey w v) =
      (movementsOf db w v).map fun m => (m.quantityChange, m.quantityAfter) := by
  rw [statement, movementsOf, List.filter_map, List.map_map]
  have hkey : (fun m : StockMovement => decide (m.entry.1 = stockKey w v)) =
      fun m => decide (m.warehouseId = w ∧ m.productVariantId = v) := by
    funext m
    simp only [StockMovement.entry, stockKey, Prod.mk.injEq]
  change (db.stock.stockMovements.filter fun m => decide (m.entry.1 = stockKey w v)).map _ = _
  rw [hkey]
  rfl

theorem balancesRun_of_running {movements : List StockMovement} {b b' : ℤ}
    (h : Running b (movements.map fun m => (m.quantityChange, m.quantityAfter)) b') :
    BalancesRun b (movements.map toStockCardEntryResponseDto) := by
  induction movements generalizing b with
  | nil => exact trivial
  | cons m ms ih =>
    obtain ⟨hafter, hrest⟩ := h
    change m.quantityAfter = b + m.quantityChange at hafter
    refine ⟨?_, hafter, ih hrest⟩
    change m.quantityAfter - m.quantityChange = b
    rw [hafter, add_sub_cancel_right]

end InventoryLedgerService

/-- The stock card of a pair runs: each movement records the quantity recorded
before it (zero for the first) plus its own change, the last one the quantity on
hand, and to whichever company asks, the two balance columns show it. -/
structure StockCardRuns (db : Db) (warehouseId productVariantId : Uuid) : Prop where
  chain : Running 0 ((InventoryLedgerService.movementsOf db warehouseId productVariantId).map
    fun m => (m.quantityChange, m.quantityAfter))
    (onHandIn db.stock.warehouseStock (stockKey warehouseId productVariantId))
  columns : ∀ companyId card db',
    Commits (InventoryLedgerService.getStockCard companyId (some warehouseId)
      (some productVariantId)) db card db' →
    InventoryLedgerService.BalancesRun 0
      (card.map InventoryLedgerService.toStockCardEntryResponseDto)

theorem chained_iff (db : Db) :
    db.stock.Chained ↔ ∀ warehouseId productVariantId,
      StockCardRuns db warehouseId productVariantId := by
  constructor
  · intro h w v
    have hchain := h (stockKey w v)
    rw [InventoryLedgerService.statement_entries] at hchain
    refine ⟨hchain, fun companyId card db' hc => ?_⟩
    simp only [InventoryLedgerService.getStockCard, commits_bind, commits_get, commits_pure] at hc
    obtain ⟨_, _, ⟨rfl, rfl⟩, rfl, -⟩ := hc
    split
    · exact InventoryLedgerService.balancesRun_of_running hchain
    · exact trivial
  · rintro h ⟨w, v⟩
    have hstatement := InventoryLedgerService.statement_entries db w v
    rw [stockKey] at hstatement
    rw [hstatement]
    exact (h w v).chain

/-! ## Operations that write as they go -/

variable {userId warehouseId : Uuid} {db db' : Db} {now : Instant} {companyId : Uuid}

theorem StockAdjustmentsService.createTransaction_continues
    {dto : CreateStockAdjustmentDto} {adjustment : StockAdjustment}
    (h : Commits (createTransaction companyId userId now dto) db adjustment db') :
    Continues db.stock db'.stock := by
  simp only [createTransaction, generateAdjustmentNumber, commits_bind, commits_rejectIf,
    commits_modify, commits_pure, saveMovement] at h
  obtain ⟨_, db₁, hnumber, stock, db₂, hlock, _, _, ⟨-, rfl⟩, _, db₃, hupd, id, db₄, hid, _,
    db₅, hsave, _, _, rfl, rfl, rfl⟩ := h
  obtain ⟨stocks, rfl, hin⟩ := (lockWarehouseStockRow_succeeds _ db₁).of_commits hlock
  have hrow : (db₁.setStocks stocks).stock.warehouseStock.find? (key stock) = some stock := by
    rw [Table.key_of_find? hin.row]
    exact hin.row
  obtain rfl := (commits_updateOnHand stock hrow _ _).1 hupd
  have hcontinues := continues_of_write (m := adjustmentMovement userId dto id
    (stock.onHandQuantity + dto.quantityChange)) hin rfl
  rw [nextDocumentNumber_spec hnumber] at hcontinues
  rw [hsave, (randomUUID_spec hid).1, nextDocumentNumber_spec hnumber]
  exact hcontinues

theorem SalesService.issueItem_continues {saleId : Uuid} {rows rows' : JsMap Uuid WarehouseStock}
    {item : SaleItem} (hmir : Mirrors (stockKey warehouseId) rows db.stock.warehouseStock)
    (h : Commits (issueItem userId saleId warehouseId rows item) db rows' db') :
    Mirrors (stockKey warehouseId) rows' db'.stock.warehouseStock ∧
      Continues db.stock db'.stock := by
  simp only [issueItem, saveMovement, commits_bind, commits_orReject, commits_modify,
    commits_pure] at h
  obtain ⟨stock, _, ⟨hstock, rfl⟩, _, db₁, hupd, _, _, rfl, rfl, rfl⟩ := h
  obtain rfl := (commits_updateOnHand stock (hmir.find? hstock) _ _).1 hupd
  refine ⟨hmir.write (stockKey_injective warehouseId) hstock _, ?_⟩
  exact continues_of_write (m := issueMovement userId saleId warehouseId item
    (stock.onHandQuantity - baseQuantity item))
    ⟨hmir _ _ hstock, fun _ _ h => h, fun _ => rfl⟩ rfl

theorem SalesService.confirmTransaction_continues {sale saved : Sale}
    (h : Commits (confirmTransaction userId warehouseId sale) db saved db') :
    Continues db.stock db'.stock := by
  simp only [confirmTransaction, issueStock, saveSale, commits_bind, commits_modify,
    commits_pure] at h
  obtain ⟨_, db₁, ⟨locked, db₂, hlock, _, db₃, hsuff, rows, db₄, hloop, -, rfl⟩, _, _, rfl, _, _,
    hloyal, -, rfl⟩ := h
  obtain ⟨stocks, rfl, hlocked, hmir, hon⟩ := (lockRowsBy_succeeds _ _ db).of_commits hlock
  obtain ⟨-, rfl⟩ := (commits_forM_check
    (fun item hitem u s' => commits_assertSufficient (db.setStocks stocks) hmir
      (hlocked _ (List.mem_map_of_mem hitem)) u s') _ _).1 hsuff
  rw [(LoyaltyService.earnForSale_succeeds _ _ _ _ _ _).of_commits hloyal]
  -- Locking changes no quantity; the loop continues the card line by line.
  have hloop' := foldlM_invariant (fun _ rows db' =>
      Mirrors (stockKey warehouseId) rows db'.stock.warehouseStock ∧
        Continues (db.setStocks stocks).stock db'.stock)
    (fun _ _ _ _ _ _ _ _ hI hc => by
      obtain ⟨hmir', hcontinues⟩ := issueItem_continues hI.1 hc
      exact ⟨hmir', hI.2.trans hcontinues⟩)
    ⟨hmir, Continues.refl _⟩ hloop
  obtain ⟨ms, hms, hcarries⟩ := hloop'.2
  refine ⟨ms, hms, ?_⟩
  have hon' : onHandIn stocks = onHandIn db.stock.warehouseStock := funext hon
  rw [Db.setStocks_stocks, hon'] at hcarries
  exact hcarries

theorem SaleReturnsService.returnItem_continues {saleReturnId : Uuid} {item : SaleReturnItem}
    {u : Unit} (h : Commits (returnItem userId saleReturnId warehouseId item) db u db') :
    Continues db.stock db'.stock := by
  cases hcond : item.condition with
  | Restock =>
    simp only [returnItem, hcond, saveMovement, commits_bind, commits_modify] at h
    obtain ⟨stock, db₁, hlock, _, db₂, hupd, rfl⟩ := h
    obtain ⟨stocks, rfl, hin⟩ := (lockWarehouseStockRow_succeeds _ db).of_commits hlock
    have hrow : (db.setStocks stocks).stock.warehouseStock.find? (key stock) = some stock := by
      rw [Table.key_of_find? hin.row]
      exact hin.row
    obtain rfl := (commits_updateOnHand stock hrow _ _).1 hupd
    exact continues_of_write (m := returnMovement userId saleReturnId warehouseId item
      item.quantity (stock.onHandQuantity + item.quantity)) hin rfl
  | Damaged =>
    simp only [returnItem, hcond, saveMovement, commits_bind, commits_modify] at h
    obtain ⟨stock, db₁, hlock, rfl⟩ := h
    obtain ⟨stocks, rfl, hin⟩ := (lockWarehouseStockRow_succeeds _ db).of_commits hlock
    have hstock : stock.onHandQuantity =
        onHandIn stocks (stockKey warehouseId item.productVariantId) := by
      rw [onHandIn, hin.row, Option.map_some, Option.getD_some]
    refine ⟨[returnMovement userId saleReturnId warehouseId item 0 stock.onHandQuantity], rfl, ?_⟩
    rw [List.map_singleton, StockMovement.entry]
    simp only [returnMovement, hstock]
    exact carries_singleton fun k => by rw [ite_self, add_zero, hin.onHand]

theorem SaleReturnsService.confirm_continues {id : Uuid}
    {confirmed : SaleReturn} (h : Commits (confirm id companyId userId now) db confirmed db') :
    Continues db.stock db'.stock := by
  simp only [confirm, findByIdInCompany, saveReturn, commits_bind, commits_get, commits_orReject,
    commits_rejectIf, commits_modify, commits_pure] at h
  obtain ⟨saleReturn, _, ⟨_, _, ⟨rfl, rfl⟩, -, rfl⟩, _, _, ⟨-, rfl⟩, _, _, ⟨rfl, rfl⟩, sale, _,
    ⟨hsale, rfl⟩, warehouseId, db₁, hresolve, _, db₂, hloop, _, db₃, hloyal, _, _, rfl, -, rfl⟩ := h
  have hid : sale.id = saleReturn.saleId := Table.key_of_find? hsale
  obtain ⟨-, rfl⟩ := resolveWarehouse_spec (by rw [hid]; exact hsale) hresolve
  rw [(reverseLoyalty_succeeds _ _ _ _ db₂).of_commits hloyal]
  exact forM_invariant (fun _ db' => Continues db.stock db'.stock)
    (fun _ _ _ _ _ _ hI hc => hI.trans (returnItem_continues hc)) (Continues.refl _) hloop

theorem PurchaseReturnsService.takeItem_continues {purchaseReturn : PurchaseReturn}
    {item : PurchaseReturnItem} {u : Unit}
    (h : Commits (takeItem userId warehouseId purchaseReturn item) db u db') :
    Continues db.stock db'.stock := by
  simp only [takeItem, commits_bind, commits_rejectIf, saveMovement, commits_modify] at h
  obtain ⟨stock, db₁, hlock, _, _, ⟨-, rfl⟩, _, db₂, hupd, rfl⟩ := h
  obtain ⟨stocks, rfl, hin⟩ := (lockWarehouseStockRow_succeeds _ db).of_commits hlock
  have hrow : (db.setStocks stocks).stock.warehouseStock.find? (key stock) = some stock := by
    rw [Table.key_of_find? hin.row]
    exact hin.row
  obtain rfl := (commits_updateOnHand stock hrow _ _).1 hupd
  exact continues_of_write (m := returnMovement userId purchaseReturn.id warehouseId item
    (stock.onHandQuantity - item.quantity)) hin rfl

theorem PurchaseReturnsService.complete_continues {id : Uuid}
    {completed : PurchaseReturn} (h : Commits (complete id companyId userId now) db completed db') :
    Continues db.stock db'.stock := by
  simp only [complete, findDraft, savePurchaseInvoice, savePurchaseOrder, saveReturn, commits_bind,
    commits_get, commits_orReject, commits_rejectIf, commits_modify, commits_pure] at h
  obtain ⟨purchaseReturn, _, ⟨_, _, ⟨rfl, rfl⟩, _, _, ⟨-, rfl⟩, _, _, ⟨-, rfl⟩, rfl, rfl⟩, _, _,
    ⟨rfl, rfl⟩, invoice, _, ⟨-, rfl⟩, purchaseOrder, _, ⟨-, rfl⟩, warehouseId, _, ⟨-, rfl⟩, _, db₁,
    hloop, _, _, rfl, _, _, rfl, _, _, rfl, -, rfl⟩ := h
  exact forM_invariant (fun _ db' => Continues db.stock db'.stock)
    (fun _ _ _ _ _ _ hI hc => hI.trans (takeItem_continues hc)) (Continues.refl _) hloop

/-! ## Operations that write at the end -/

theorem StockTransfersService.oncePerKey_postings {dto : CreateStockTransferDto}
    (hne : dto.sourceWarehouseId ≠ dto.destinationWarehouseId) :
    OncePerKey (postings dto) ↔
      OncePerKey (dto.items.map fun i => (i.productVariantId, (i.quantity : ℤ))) := by
  rw [OncePerKey, OncePerKey, postings, List.pairwise_flatMap, List.pairwise_map]
  have hself : ∀ item ∈ dto.items, (itemPostings dto item).Pairwise
      fun p q => p.1 = q.1 → q.2 = 0 := by
    intro item _
    rw [itemPostings, List.pairwise_pair]
    exact fun h => absurd (Prod.mk.inj h).1 hne
  rw [and_iff_right hself]
  refine List.Pairwise.iff fun item item' => ?_
  -- The two rows of a line are in different warehouses.
  simp only [itemPostings, sourceKey, destinationKey, stockKey, List.mem_cons, List.not_mem_nil,
    or_false, forall_eq_or_imp, forall_eq, Prod.mk.injEq, true_and, hne, hne.symm, false_and,
    false_implies, and_true, neg_eq_zero, and_self]

/-- The lines that spoil a card: a receipt or a transfer that moves a variant on
a line after it has moved it on another. -/
def StockRequest.RepeatsVariant (db : Db) : StockRequest → Prop
  | goodsReceipt _ _ _ _ dto =>
    ∃ order, db.buying.purchaseOrders.find? dto.purchaseOrderId = some order ∧
      ¬ OncePerKey (GoodsReceiptsService.receivedLines order
        (GoodsReceiptsService.sortedItems dto))
  | stockTransfer _ _ _ dto =>
    ¬ OncePerKey (dto.items.map fun i => (i.productVariantId, (i.quantity : ℤ)))
  | _ => False

def StockRequest.checked : StockRequest → Bool
  | stockTransfer _ _ _ dto => dto.sourceWarehouseId ≠ dto.destinationWarehouseId
  | _ => true

/-- One operation and the cards. From cards that run, the cards of a committed
operation run exactly when it repeats no variant. -/
theorem StockRequest.chained_iff {request : StockRequest} {u : Unit}
    (hchecked : request.checked = true) (h : db.stock.Chained)
    (hc : Commits request.transaction db u db') :
    db'.stock.Chained ↔ ¬ request.RepeatsVariant db := by
  cases request with
  | goodsReceipt companyId userId now warehouse dto =>
    obtain ⟨receipt, hc⟩ := (commits_void _ _ _ _).1 hc
    obtain ⟨order, horder, hlines⟩ := GoodsReceiptsService.createTransaction_lines hc
    have hrepeats : (goodsReceipt companyId userId now warehouse dto).RepeatsVariant db ↔
        ¬ OncePerKey (GoodsReceiptsService.receivedLines order
          (GoodsReceiptsService.sortedItems dto)) := by
      simp only [RepeatsVariant, horder, Option.some.injEq, exists_eq_left']
    rw [h.settles_iff (GoodsReceiptsService.createTransaction_settles hc), hlines, hrepeats, not_not]
    exact oncePerKey_map_of_injective (SalesService.stockKey_injective dto.warehouseId) _
  | stockTransfer companyId userId now dto =>
    obtain ⟨transfer, hc⟩ := (commits_void _ _ _ _).1 hc
    have hne : dto.sourceWarehouseId ≠ dto.destinationWarehouseId := of_decide_eq_true hchecked
    rw [h.settles_iff (StockTransfersService.createTransaction_settles hc),
      StockTransfersService.oncePerKey_postings hne]
    exact not_not.symm
  | stockAdjustment companyId userId now dto =>
    obtain ⟨adjustment, hc⟩ := (commits_void _ _ _ _).1 hc
    exact iff_of_true (h.continues (StockAdjustmentsService.createTransaction_continues hc)) not_false
  | saleConfirm userId warehouseId sale =>
    obtain ⟨saved, hc⟩ := (commits_void _ _ _ _).1 hc
    exact iff_of_true (h.continues (SalesService.confirmTransaction_continues hc)) not_false
  | saleReturnConfirm id companyId userId now =>
    obtain ⟨confirmed, hc⟩ := (commits_void _ _ _ _).1 hc
    exact iff_of_true (h.continues (SaleReturnsService.confirm_continues hc)) not_false
  | purchaseReturnComplete id companyId userId now =>
    obtain ⟨completed, hc⟩ := (commits_void _ _ _ _).1 hc
    exact iff_of_true (h.continues (PurchaseReturnsService.complete_continues hc)) not_false

/-! ## Runs -/

/-- Committed stock operations, with everything else the backend does in between. -/
def committedStockMachine : Machine Db StockLabel where
  step db
    | .request request =>
      if request.checked then (result request.transaction db).toOption else none
    | .elsewhere contents => some (db.keepStock contents)

def StockLabel.RepeatsVariant (db : Db) : StockLabel → Prop
  | .request r => r.RepeatsVariant db
  | .elsewhere _ => False

theorem committedStockMachine_chained_iff {l : StockLabel} (h : db.stock.Chained)
    (hs : committedStockMachine.step db l = some db') :
    db'.stock.Chained ↔ ¬ l.RepeatsVariant db := by
  cases l with
  | request request =>
    simp only [committedStockMachine, Option.ite_none_right_eq_some] at hs
    obtain ⟨hchecked, hs⟩ := hs
    obtain ⟨u, hc⟩ := toOption_result_eq_some.1 hs
    exact StockRequest.chained_iff hchecked h hc
  | elsewhere contents =>
    cases hs
    exact iff_of_true h not_false

/-- When the stock cards run. Along a run of committed stock operations that
starts with no stock row and no movement, every stock card runs at every point
exactly when no receipt and no transfer on the way moves one variant on two of its
lines. -/
theorem stock_cards_run_iff {db₀ db : Db} {ls : List StockLabel}
    (hstocks : db₀.stock.warehouseStock = .empty) (hmovements : db₀.stock.stockMovements = [])
    (hrun : committedStockMachine.Run db₀ ls db) :
    (∀ ks, ks <+: ls → ∀ db₁, committedStockMachine.Run db₀ ks db₁ →
      ∀ warehouseId productVariantId, StockCardRuns db₁ warehouseId productVariantId) ↔
      committedStockMachine.RunWith (fun db l => ¬ l.RepeatsVariant db) db₀ ls db := by
  have h₀ : db₀.stock.Chained := by
    intro k
    simp [hstocks, hmovements, onHandIn, statement, Running]
  refine Machine.prefixes_iff_runWith (I := fun db => db.stock.Chained)
    (fun _ _ _ h hc hs => (committedStockMachine_chained_iff h hs).2 hc)
    (fun db h => (chained_iff db).1 h)
    (fun _ _ s' h hs hP => (committedStockMachine_chained_iff h hs).1 ((chained_iff s').2 hP))
    h₀ hrun

theorem stock_cards_run_iff_counted :
    (∀ ks, ks <+: [.request openingCount] → ∀ db₁, committedStockMachine.Run shopDb ks db₁ →
      ∀ warehouseId productVariantId, StockCardRuns db₁ warehouseId productVariantId) ↔
      committedStockMachine.RunWith (fun db l => ¬ l.RepeatsVariant db) shopDb
        [.request openingCount] stockedDb :=
  stock_cards_run_iff rfl rfl (.step trivial rfl (.done _))

def twoLineTransfer : StockRequest :=
  .stockTransfer 10 99 noon
    { sourceWarehouseId := 1, destinationWarehouseId := 2,
      items := [{ productVariantId := 7, quantity := 2 }, { productVariantId := 7, quantity := 1 }] }

def transferredDb : Db := (run twoLineTransfer.transaction stockedDb).2

/-- Five units, then two and one leave. The card of the source reads 5, 2, 2: the
first of the two lines already shows what the second left. -/
theorem two_line_transfer_breaks_card :
    committedStockMachine.Run shopDb [.request openingCount, .request twoLineTransfer]
      transferredDb ∧ ¬ StockCardRuns transferredDb 1 7 := by
  refine ⟨.step trivial rfl (.step trivial rfl (.done _)), fun h => ?_⟩
  have hcard : (InventoryLedgerService.movementsOf transferredDb 1 7).map
      (fun m => (m.quantityChange, m.quantityAfter)) = [(5, 5), (-2, 2), (-1, 2)] := by
    decide +kernel
  have hchain := h.chain
  rw [hcard] at hchain
  obtain ⟨-, hsecond, -⟩ := hchain
  exact absurd hsecond (by decide)

end FashionErp
