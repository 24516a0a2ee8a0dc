/-
`inventory/services/goods-receipts.service.ts`: receiving a purchase order.

`create` works in two loops.
-/
import FashionErp.Core.MasterData
import FashionErp.Inventory.StockLock
import Mathlib.Data.List.Sort

namespace FashionErp.GoodsReceiptsService

open Lib Lib.Tx

structure CreateGoodsReceiptItemDto where
  purchaseOrderItemId : Uuid
  productVariantId : Uuid
  receivedQuantity : ℕ
  rejectedQuantity : Option ℕ

structure CreateGoodsReceiptDto where
  purchaseOrderId : Uuid
  warehouseId : Uuid
  receiptDate : Option Instant
  items : List CreateGoodsReceiptItemDto

def computeBaseQuantity (quantity conversionFactorToBase : ℤ) (fieldName : String) :
    DbTx ℤ := do
  let rawBaseQuantity := quantity * conversionFactorToBase
  rejectIf (rawBaseQuantity < 0 ∨ ¬ 10000 ∣ rawBaseQuantity)
    (appException .ValidationError s!"{fieldName} must convert to a whole base-unit quantity")
  return rawBaseQuantity / 10000

def generateReceiptNumber (companyId : Uuid) (year : ℕ) : DbTx String :=
  nextDocumentNumber .GoodsReceipt "GR" companyId year

def priorHandled (receipts : List GoodsReceipt) (purchaseOrderItemId : Uuid) : ℤ :=
  (((receipts.flatMap (·.items)).filter fun i => i.purchaseOrderItemId = purchaseOrderItemId).map
    fun i => i.receivedQuantity + i.rejectedQuantity).sum

def increaseStock (k : StockKey) (receivedQuantity baseReceivedQuantity : ℤ) : DbTx Unit :=
  if 0 < receivedQuantity then do
    let stock ← lockWarehouseStockRow k
    updateOnHand stock (stock.onHandQuantity + baseReceivedQuantity)
  else
    pure ()

def receiveItem (companyId : Uuid) (dto : CreateGoodsReceiptDto) (purchaseOrder : PurchaseOrder)
    (itemRows : List GoodsReceiptItem) (itemDto : CreateGoodsReceiptItemDto) :
    DbTx (List GoodsReceiptItem) := do
  let itemId := itemDto.purchaseOrderItemId
  let purchaseOrderItem ← orReject (purchaseOrder.items.find? fun poi => poi.id = itemId)
    (appException .NotFound s!"Purchase order item {itemId} not found on this purchase order")
  rejectIf (purchaseOrderItem.productVariantId ≠ itemDto.productVariantId)
    (appException .ValidationError
      s!"productVariantId does not match purchase order item {itemId}")
  let db ← get
  -- `withDeleted: true`: a variant archived since still receives.
  let variantId := itemDto.productVariantId
  let _variant ← orReject
    ((db.master.productVariants.find? variantId).filter fun v => v.companyId = companyId)
    (appException .NotFound s!"Product variant {variantId} not found")
  let remaining := purchaseOrderItem.quantity - priorHandled db.stock.goodsReceipts itemId
  let receivedQuantity : ℤ := itemDto.receivedQuantity
  let rejectedQuantity : ℤ := (itemDto.rejectedQuantity.getD 0 : ℕ)
  let handledQuantity := receivedQuantity + rejectedQuantity
  let conversionFactorToBase := purchaseOrderItem.conversionFactorToBaseSnapshot.getD 10000
  let baseReceivedQuantity ← computeBaseQuantity receivedQuantity conversionFactorToBase
    s!"receivedQuantity for purchase order item {itemId}"
  let baseRejectedQuantity ← computeBaseQuantity rejectedQuantity conversionFactorToBase
    s!"rejectedQuantity for purchase order item {itemId}"
  rejectIf (handledQuantity ≤ 0)
    (appException .ValidationError
      s!"Goods receipt item {itemId} must receive or reject at least 1 unit")
  rejectIf (remaining < handledQuantity)
    (appException .Conflict s!"Cannot handle {handledQuantity} units for purchase order item {itemId}: only {remaining} remaining")
  increaseStock (stockKey dto.warehouseId variantId) receivedQuantity baseReceivedQuantity
  return itemRows ++
    [{ purchaseOrderItemId := itemId, productVariantId := variantId,
       receivedQuantity := receivedQuantity, rejectedQuantity := rejectedQuantity,
       conversionFactorToBaseSnapshot := conversionFactorToBase,
       baseReceivedQuantity := baseReceivedQuantity,
       baseRejectedQuantity := baseRejectedQuantity }]

def saveReceiptMovement (userId : Uuid) (receipt : GoodsReceipt) (row : GoodsReceiptItem) :
    DbTx Unit :=
  if 0 < row.receivedQuantity then do
    let db ← get
    let stock ← orReject
      (db.stock.warehouseStock.find? (stockKey receipt.warehouseId row.productVariantId))
      .entityNotFound
    saveMovement
      { warehouseId := receipt.warehouseId
        productVariantId := row.productVariantId
        movementType := .PurchaseReceipt
        quantityChange := row.baseReceivedQuantity
        quantityAfter := stock.onHandQuantity
        referenceType := .GoodsReceipt
        referenceId := receipt.id
        createdBy := some userId }
  else
    pure ()

/-- The transaction of `create`, for a warehouse loaded before it. -/
def createTransaction (companyId userId : Uuid) (now : Instant) (warehouse : Warehouse)
    (dto : CreateGoodsReceiptDto) : DbTx GoodsReceipt := do
  let receiptDate := dto.receiptDate.getD now
  let db ← get
  let purchaseOrder ← orReject
    ((db.buying.purchaseOrders.find? dto.purchaseOrderId).filter fun o => o.companyId = companyId)
    (appException .NotFound "Purchase order not found")
  rejectIf (purchaseOrder.status = .Draft ∨ purchaseOrder.status = .Submitted)
    (appException .Conflict
      "Cannot receive against a DRAFT purchase order — it must be CONFIRMED first")
  rejectIf (purchaseOrder.status = .Cancelled ∨ purchaseOrder.status = .Rejected ∨
      purchaseOrder.status = .Closed)
    (appException .Conflict "Cannot receive against a CANCELLED purchase order")
  rejectIf (purchaseOrder.branchId.any fun branchId => warehouse.branchId ≠ branchId)
    (appException .ValidationError "warehouseId does not belong to the purchase order branch")
  rejectIf (purchaseOrder.warehouseId.any fun warehouseId => warehouse.id ≠ warehouseId)
    (appException .ValidationError "warehouseId does not match the purchase order warehouse")
  let receiptNumber ← generateReceiptNumber companyId receiptDate.getUTCFullYear
  let sortedItems := dto.items.insertionSort
    fun a b => a.purchaseOrderItemId ≤ b.purchaseOrderItemId
  let itemRows ← sortedItems.foldlM (receiveItem companyId dto purchaseOrder) []
  let id ← randomUUID
  let goodsReceipt : GoodsReceipt :=
    { id := id, receiptNumber := receiptNumber, purchaseOrderId := dto.purchaseOrderId,
      warehouseId := dto.warehouseId, supplierId := purchaseOrder.supplierId,
      companyId := companyId, receiptDate := receiptDate, receivedBy := userId,
      items := itemRows }
  modify fun db =>
    { db with stock.goodsReceipts := db.stock.goodsReceipts ++ [goodsReceipt] }
  itemRows.forM (saveReceiptMovement userId goodsReceipt)
  return goodsReceipt

def create (companyId userId : Uuid) (now : Instant) (dto : CreateGoodsReceiptDto) :
    DbTx GoodsReceipt := do
  let warehouse ← WarehousesService.findById dto.warehouseId
  assertWarehouseUsable "warehouseId" warehouse companyId
  createTransaction companyId userId now warehouse dto

/-! ## What a receipt posts -/

def postings (warehouseId : Uuid) (rows : List GoodsReceiptItem) : List (StockKey × ℤ) :=
  (rows.filter fun r => 0 < r.receivedQuantity).map fun r =>
    (stockKey warehouseId r.productVariantId, r.baseReceivedQuantity)

theorem postings_append (warehouseId : Uuid) (rows rows' : List GoodsReceiptItem) :
    postings warehouseId (rows ++ rows') =
      postings warehouseId rows ++ postings warehouseId rows' := by
  simp [postings]

theorem net_postings_singleton (warehouseId : Uuid) (row : GoodsReceiptItem) (k : StockKey) :
    net (postings warehouseId [row]) k =
      if 0 < row.receivedQuantity ∧ stockKey warehouseId row.productVariantId = k
        then row.baseReceivedQuantity else 0 := by
  by_cases hpos : 0 < row.receivedQuantity
  · have hrow : postings warehouseId [row] =
        [(stockKey warehouseId row.productVariantId, row.baseReceivedQuantity)] := by
      simp [postings, hpos]
    rw [hrow, net_singleton]
    simp only [hpos, true_and]
  · simp [postings, hpos]

def Received (db : Db) (warehouseId : Uuid) (rows : List GoodsReceiptItem) (db' : Db) : Prop :=
  ∃ stocks, db' = db.setStocks stocks ∧
    ∀ k, onHandIn stocks k =
      onHandIn db.stock.warehouseStock k + net (postings warehouseId rows) k

variable {db db' : Db} {companyId userId : Uuid} {dto : CreateGoodsReceiptDto}
  {rows rows' : List GoodsReceiptItem} {receipt : GoodsReceipt} {now : Instant}
  {warehouse : Warehouse} {line : CreateGoodsReceiptItemDto}

theorem increaseStock_spec {k : StockKey} {received base : ℤ} {u : Unit}
    (h : Commits (increaseStock k received base) db u db') :
    ∃ stocks, db' = db.setStocks stocks ∧
      ∀ j, onHandIn stocks j =
        onHandIn db.stock.warehouseStock j + if 0 < received ∧ k = j then base else 0 := by
  rw [increaseStock, commits_ite] at h
  rcases h with ⟨hpos, h⟩ | ⟨hpos, h⟩
  · rw [commits_bind] at h
    obtain ⟨stock, db₁, hlock, hupd⟩ := h
    obtain ⟨stocks, rfl, hin⟩ := (lockWarehouseStockRow_succeeds k db).of_commits hlock
    have hrow : (db.setStocks stocks).stock.warehouseStock.find? (key stock) = some stock := by
      rw [Table.key_of_find? hin.row]
      exact hin.row
    have hupd' := (commits_updateOnHand stock hrow _ _).1 hupd
    rw [Db.setStocks_setStocks] at hupd'
    refine ⟨_, hupd', fun j => ?_⟩
    rw [Db.setStocks_stocks, onHandIn_save hin.row, hin.onHand, add_sub_cancel_left]
    simp [hpos]
  · obtain ⟨-, rfl⟩ := (commits_pure _ _ _ _).1 h
    exact ⟨db.stock.warehouseStock, rfl, fun j => by simp [hpos]⟩

theorem receiveItem_spec {purchaseOrder : PurchaseOrder} {itemDto : CreateGoodsReceiptItemDto}
    {db₀ : Db} (hI : Received db₀ dto.warehouseId rows db)
    (h : Commits (receiveItem companyId dto purchaseOrder rows itemDto) db rows' db') :
    Received db₀ dto.warehouseId rows' db' := by
  simp only [receiveItem, computeBaseQuantity, commits_bind, commits_orReject, commits_rejectIf,
    commits_get, commits_pure] at h
  -- Only the raised stock row is a write; the other steps are checks.
  obtain ⟨_, _, ⟨-, rfl⟩, _, _, ⟨-, rfl⟩, _, _, ⟨rfl, rfl⟩, _, _, ⟨-, rfl⟩, base, _,
    ⟨_, _, ⟨-, rfl⟩, rfl, rfl⟩, _, _, ⟨_, _, ⟨-, rfl⟩, -, rfl⟩, _, _, ⟨-, rfl⟩, _, _, ⟨-, rfl⟩,
    _, _, hinc, rfl, rfl⟩ := h
  obtain ⟨stocks, rfl, hon⟩ := hI
  obtain ⟨stocks', rfl, hon'⟩ := increaseStock_spec hinc
  refine ⟨stocks', rfl, fun k => ?_⟩
  rw [hon', Db.setStocks_stocks, hon, postings_append, net_append, add_assoc,
    net_postings_singleton]

theorem saveReceiptMovement_spec {row : GoodsReceiptItem} {u : Unit}
    (h : Commits (saveReceiptMovement userId receipt row) db u db') :
    ∃ ms, db' = db.addMovements ms ∧ ms.map StockMovement.entry =
      settled (onHandIn db.stock.warehouseStock) (postings receipt.warehouseId [row]) := by
  rw [saveReceiptMovement, commits_ite] at h
  rcases h with ⟨hpos, h⟩ | ⟨hpos, h⟩
  · simp only [commits_bind, commits_get, commits_orReject, saveMovement, commits_modify] at h
    obtain ⟨_, _, ⟨rfl, rfl⟩, stock, _, ⟨hstock, rfl⟩, rfl⟩ := h
    have hon : onHandIn db.stock.warehouseStock
        (stockKey receipt.warehouseId row.productVariantId) = stock.onHandQuantity := by
      rw [onHandIn, hstock, Option.map_some, Option.getD_some]
    exact ⟨_, rfl, by simp [postings, hpos, StockMovement.entry, settled, hon]⟩
  · obtain ⟨-, rfl⟩ := (commits_pure _ _ _ _).1 h
    exact ⟨[], by simp, by simp [postings, hpos, settled]⟩

/-- A receipt posts its lines. Whatever the lines, including several for one
variant, the stock rows and the movements of a committed receipt change by the
same list. All movements are written after the stock rows. -/
theorem createTransaction_settles
    (h : Commits (createTransaction companyId userId now warehouse dto) db receipt db') :
    Settles db.stock db'.stock (postings dto.warehouseId receipt.items) := by
  simp only [createTransaction, generateReceiptNumber, commits_bind, commits_get,
    commits_orReject, commits_rejectIf, commits_modify, commits_pure] at h
  obtain ⟨_, _, ⟨rfl, rfl⟩, order, _, ⟨-, rfl⟩, _, _, ⟨-, rfl⟩, _, _, ⟨-, rfl⟩, _, _, ⟨-, rfl⟩,
    _, _, ⟨-, rfl⟩, number, db₁, hnumber, rows, db₂, hloop, id, db₃, hid, _, db₄, hsave, _,
    _, hmoves, rfl, rfl⟩ := h
  have hnumber' := nextDocumentNumber_spec hnumber
  have hid' := (randomUUID_spec hid).1
  -- The first loop: on-hand quantities move by the postings of the rows.
  have hrec : Received db₁ dto.warehouseId rows db₂ :=
    foldlM_invariant (fun _ rows db' => Received db₁ dto.warehouseId rows db')
      (fun _ _ _ _ _ _ _ _ hI hc => receiveItem_spec hI hc)
      ⟨db₁.stock.warehouseStock, rfl, fun k => by simp [postings]⟩ hloop
  obtain ⟨stocks, rfl, hon⟩ := hrec
  -- The second loop: the movements inserted post the rows.
  have hmov := forM_invariant (fun done db' => ∃ ms, db' = db₄.addMovements ms ∧
      ms.map StockMovement.entry =
        settled (onHandIn db₄.stock.warehouseStock) (postings dto.warehouseId done))
    (fun done row _ s s' _ hI hc => by
      obtain ⟨ms, rfl, hms⟩ := hI
      obtain ⟨ms', rfl, hms'⟩ := saveReceiptMovement_spec hc
      refine ⟨ms ++ ms', by simp, ?_⟩
      rw [List.map_append, hms, hms', postings_append, Db.addMovements_stocks, settled_append])
    ⟨[], by simp, by simp [postings, settled]⟩ hmoves
  obtain ⟨ms, rfl, hms⟩ := hmov
  have hstocks : db₄.stock.warehouseStock = stocks := by rw [hsave, hid']; rfl
  have hmovements : db₄.stock.stockMovements = db.stock.stockMovements := by
    rw [hsave, hid', hnumber']; rfl
  refine ⟨posts_iff.2 ⟨fun k => ?_, ?_⟩, ms, ?_, hms⟩
  · rw [Db.addMovements_stocks, hstocks, hon, hnumber']
  · rw [Db.addMovements_movements, List.map_append, hmovements, map_posting_of_settled hms]
  · rw [Db.addMovements_movements, hmovements]

theorem createTransaction_posts
    (h : Commits (createTransaction companyId userId now warehouse dto) db receipt db') :
    Posts db.stock db'.stock (postings dto.warehouseId receipt.items) :=
  (createTransaction_settles h).1

/-! ## What a receipt posts, from its request -/

def sortedItems (dto : CreateGoodsReceiptDto) : List CreateGoodsReceiptItemDto :=
  dto.items.insertionSort fun a b => a.purchaseOrderItemId ≤ b.purchaseOrderItemId

def baseReceivedQuantity (order : PurchaseOrder) (item : CreateGoodsReceiptItemDto) : ℤ :=
  item.receivedQuantity *
    (((order.items.find? fun poi => poi.id = item.purchaseOrderItemId).bind
      (·.conversionFactorToBaseSnapshot)).getD 10000) / 10000

def receivedLines (order : PurchaseOrder) (items : List CreateGoodsReceiptItemDto) :
    List (Uuid × ℤ) :=
  (items.filter fun i => 0 < i.receivedQuantity).map fun i =>
    (i.productVariantId, baseReceivedQuantity order i)

variable {order : PurchaseOrder}

theorem receiveItem_line (h : Commits (receiveItem companyId dto order rows line) db rows' db') :
    ∃ row, rows' = rows ++ [row] ∧ row.productVariantId = line.productVariantId ∧
      row.receivedQuantity = (line.receivedQuantity : ℤ) ∧
      row.baseReceivedQuantity = baseReceivedQuantity order line := by
  simp only [receiveItem, computeBaseQuantity, commits_bind, commits_orReject, commits_rejectIf,
    commits_get, commits_pure] at h
  obtain ⟨item, _, ⟨hitem, rfl⟩, _, _, ⟨-, rfl⟩, _, _, ⟨rfl, rfl⟩, _, _, ⟨-, rfl⟩, base, _,
    ⟨_, _, ⟨-, rfl⟩, rfl, rfl⟩, _, _, ⟨_, _, ⟨-, rfl⟩, -, rfl⟩, _, _, ⟨-, rfl⟩, _, _, ⟨-, rfl⟩,
    _, _, -, rfl, -⟩ := h
  refine ⟨_, rfl, rfl, rfl, ?_⟩
  rw [baseReceivedQuantity, hitem]
  rfl

/-- A receipt posts the lines of its request, in the order they are worked off. -/
theorem createTransaction_lines
    (h : Commits (createTransaction companyId userId now warehouse dto) db receipt db') :
    ∃ order, db.buying.purchaseOrders.find? dto.purchaseOrderId = some order ∧
      postings dto.warehouseId receipt.items =
        (receivedLines order (sortedItems dto)).map fun p => (stockKey dto.warehouseId p.1, p.2) := by
  simp only [createTransaction, generateReceiptNumber, commits_bind, commits_get,
    commits_orReject, commits_rejectIf, commits_modify, commits_pure] at h
  obtain ⟨_, _, ⟨rfl, rfl⟩, order, _, ⟨horder, rfl⟩, _, _, ⟨-, rfl⟩, _, _, ⟨-, rfl⟩, _, _,
    ⟨-, rfl⟩, _, _, ⟨-, rfl⟩, number, db₁, hnumber, rows, db₂, hloop, id, db₃, hid, _, db₄, hsave,
    _, _, hmoves, rfl, -⟩ := h
  refine ⟨order, (Option.filter_eq_some_iff.1 horder).1, ?_⟩
  exact foldlM_invariant (fun done rows _ => postings dto.warehouseId rows =
      (receivedLines order done).map fun p => (stockKey dto.warehouseId p.1, p.2))
    (fun done line _ rows rows' _ _ _ hI hc => by
      obtain ⟨row, rfl, hvariant, hreceived, hbase⟩ := receiveItem_line hc
      rw [postings_append, hI, receivedLines, receivedLines, List.filter_append, List.map_append,
        List.map_append]
      by_cases hpos : 0 < line.receivedQuantity
      · simp [postings, hreceived, hvariant, hbase, hpos]
      · simp [postings, hreceived, hpos])
    rfl hloop

/-! ## What a receipt records -/

structure ForItem (order : PurchaseOrder) (row : GoodsReceiptItem) : Prop where
  item : ∃ item ∈ order.items, row.purchaseOrderItemId = item.id ∧
    row.productVariantId = item.productVariantId ∧
    row.baseReceivedQuantity * 10000 =
      row.receivedQuantity * item.conversionFactorToBaseSnapshot.getD 10000
  received_nonneg : 0 ≤ row.receivedQuantity

theorem receiveItem_forItem (h : Commits (receiveItem companyId dto order rows line) db rows' db') :
    ∃ row, rows' = rows ++ [row] ∧ ForItem order row := by
  simp only [receiveItem, computeBaseQuantity, commits_bind, commits_orReject, commits_rejectIf,
    commits_get, commits_pure, not_or, not_not] at h
  obtain ⟨item, _, ⟨hitem, rfl⟩, _, _, ⟨hvariant, rfl⟩, _, _, ⟨rfl, rfl⟩, _, _, ⟨-, rfl⟩, base, _,
    ⟨_, _, ⟨⟨-, hwhole⟩, rfl⟩, rfl, rfl⟩, _, _, ⟨_, _, ⟨-, rfl⟩, -, rfl⟩, _, _, ⟨-, rfl⟩, _, _,
    ⟨-, rfl⟩, _, _, -, rfl, -⟩ := h
  have hid : item.id = line.purchaseOrderItemId := by simpa using List.find?_some hitem
  exact ⟨_, rfl, ⟨item, List.mem_of_find?_eq_some hitem, hid.symm, hvariant.symm,
    Int.ediv_mul_cancel hwhole⟩, Int.natCast_nonneg _⟩

theorem createTransaction_spec
    (h : Commits (createTransaction companyId userId now warehouse dto) db receipt db') :
    ∃ order, db.buying.purchaseOrders.find? dto.purchaseOrderId = some order ∧
      (∀ w ∈ order.warehouseId, warehouse.id = w) ∧
      receipt.purchaseOrderId = dto.purchaseOrderId ∧ (∀ row ∈ receipt.items, ForItem order row) ∧
      db'.buying = db.buying ∧
      db'.stock.goodsReceipts = db.stock.goodsReceipts ++ [receipt] := by
  simp only [createTransaction, generateReceiptNumber, commits_bind, commits_get,
    commits_orReject, commits_rejectIf, commits_modify, commits_pure] at h
  obtain ⟨_, _, ⟨rfl, rfl⟩, order, _, ⟨horder, rfl⟩, _, _, ⟨-, rfl⟩, _, _, ⟨-, rfl⟩, _, _, ⟨-, rfl⟩,
    _, _, ⟨hplace, rfl⟩, number, db₁, hnumber, rows, db₂, hloop, id, db₃, hid, _, db₄, hsave, _,
    db₅, hmoves, rfl, rfl⟩ := h
  have hnumber' := nextDocumentNumber_spec hnumber
  have hid' := (randomUUID_spec hid).1
  rw [SequencesOnly] at hnumber' hid'
  obtain ⟨hrec, hrows⟩ : Received db₁ dto.warehouseId rows db₂ ∧ ∀ row ∈ rows, ForItem order row := by
    refine foldlM_invariant (fun _ rows s => Received db₁ dto.warehouseId rows s ∧
        ∀ row ∈ rows, ForItem order row)
      (fun done line _ rows s rows' s' _ hI hc => ⟨receiveItem_spec hI.1 hc, fun x hx => ?_⟩)
      ⟨⟨db₁.stock.warehouseStock, rfl, fun k => by simp [postings]⟩,
        fun _ hrow => absurd hrow List.not_mem_nil⟩ hloop
    obtain ⟨row, rfl, hrow⟩ := receiveItem_forItem hc
    rcases List.mem_append.1 hx with hx | hx
    · exact hI.2 x hx
    · rw [List.mem_singleton.1 hx]
      exact hrow
  obtain ⟨stocks, rfl, -⟩ := hrec
  obtain ⟨ms, rfl⟩ : ∃ ms, db₅ = db₄.addMovements ms := by
    refine forM_invariant (fun _ s => ∃ ms, s = db₄.addMovements ms)
      (fun done row _ s s' _ hI hc => ?_) ⟨[], by simp⟩ hmoves
    obtain ⟨ms, rfl⟩ := hI
    obtain ⟨ms', rfl, -⟩ := saveReceiptMovement_spec hc
    exact ⟨ms ++ ms', by simp⟩
  refine ⟨order, (Option.filter_eq_some_iff.1 horder).1, fun w hw => ?_, rfl, hrows, ?_, ?_⟩
  · rw [Option.mem_def] at hw
    rw [hw, Option.any_some, decide_eq_true_eq, not_not] at hplace
    exact hplace
  · rw [hsave, hid', hnumber']
    rfl
  · rw [hsave, hid', hnumber']
    rfl

/-- What a creation does: its rows are posted, in the order's warehouse if it has
one, and it is recorded. -/
theorem create_spec (h : Commits (create companyId userId now dto) db receipt db') :
    ∃ order, db.buying.purchaseOrders.find? dto.purchaseOrderId = some order ∧
      (∀ w ∈ order.warehouseId, dto.warehouseId = w) ∧
      receipt.purchaseOrderId = dto.purchaseOrderId ∧ (∀ row ∈ receipt.items, ForItem order row) ∧
      Posts db.stock db'.stock (postings dto.warehouseId receipt.items) ∧
      db'.buying = db.buying ∧
      db'.stock.goodsReceipts = db.stock.goodsReceipts ++ [receipt] := by
  simp only [create, WarehousesService.findById, assertWarehouseUsable, commits_bind, commits_get,
    commits_orReject, commits_rejectIf] at h
  obtain ⟨warehouse, _, ⟨_, _, ⟨rfl, rfl⟩, hwarehouse, rfl⟩, _, _, ⟨_, _, ⟨-, rfl⟩, -, rfl⟩, htx⟩ := h
  have hid : warehouse.id = dto.warehouseId :=
    Table.key_of_find? (Option.filter_eq_some_iff.1 hwarehouse).1
  obtain ⟨order, horder, hplace, hrest⟩ := createTransaction_spec htx
  rw [hid] at hplace
  obtain ⟨hreceipt, hrows, hbuying, hreceipts⟩ := hrest
  exact ⟨order, horder, hplace, hreceipt, hrows, createTransaction_posts htx, hbuying, hreceipts⟩

/-! ## What a receipt counts for its order items -/

theorem receiveItem_handled (h : Commits (receiveItem companyId dto order rows line) db rows' db') :
    ∃ row, rows' = rows ++ [row] ∧ 0 ≤ row.receivedQuantity + row.rejectedQuantity := by
  simp only [receiveItem, computeBaseQuantity, commits_bind, commits_orReject, commits_rejectIf,
    commits_get, commits_pure] at h
  obtain ⟨item, _, ⟨-, rfl⟩, _, _, ⟨-, rfl⟩, _, _, ⟨rfl, rfl⟩, _, _, ⟨-, rfl⟩, base, _,
    ⟨_, _, ⟨-, rfl⟩, rfl, rfl⟩, _, _, ⟨_, _, ⟨-, rfl⟩, -, rfl⟩, _, _, ⟨hpos, rfl⟩, _, _, ⟨-, rfl⟩,
    _, _, -, rfl, -⟩ := h
  exact ⟨_, rfl, (Int.not_le.1 hpos).le⟩

theorem create_touches (h : Commits (create companyId userId now dto) db receipt db') :
    db' = { db with stock := db'.stock, sequences := db'.sequences } ∧
      ∀ row ∈ receipt.items, 0 ≤ row.receivedQuantity + row.rejectedQuantity := by
  simp only [create, WarehousesService.findById, assertWarehouseUsable, createTransaction,
    generateReceiptNumber, commits_bind, commits_get, commits_orReject, commits_rejectIf,
    commits_modify, commits_pure] at h
  obtain ⟨warehouse, _, ⟨_, _, ⟨rfl, rfl⟩, -, rfl⟩, _, _, ⟨_, _, ⟨-, rfl⟩, -, rfl⟩, _, _, ⟨rfl, rfl⟩,
    order, _, ⟨-, rfl⟩, _, _, ⟨-, rfl⟩, _, _, ⟨-, rfl⟩, _, _, ⟨-, rfl⟩, _, _, ⟨-, rfl⟩, number, db₁,
    hnumber, rows, db₂, hloop, id, db₃, hid, _, db₄, hsave, _, db₅, hmoves, rfl, rfl⟩ := h
  have hnumber' := nextDocumentNumber_spec hnumber
  have hid' := (randomUUID_spec hid).1
  rw [SequencesOnly] at hnumber' hid'
  obtain ⟨⟨stocks, rfl, -⟩, hrows⟩ : Received db₁ dto.warehouseId rows db₂ ∧
      ∀ row ∈ rows, 0 ≤ row.receivedQuantity + row.rejectedQuantity := by
    refine foldlM_invariant (fun _ rows s => Received db₁ dto.warehouseId rows s ∧
        ∀ row ∈ rows, 0 ≤ row.receivedQuantity + row.rejectedQuantity)
      (fun done line _ rows s rows' s' _ hI hc => ⟨receiveItem_spec hI.1 hc, fun x hx => ?_⟩)
      ⟨⟨db₁.stock.warehouseStock, rfl, fun k => by simp [postings]⟩,
        fun _ hrow => absurd hrow List.not_mem_nil⟩ hloop
    obtain ⟨row, rfl, hrow⟩ := receiveItem_handled hc
    rcases List.mem_append.1 hx with hx | hx
    · exact hI.2 x hx
    · rw [List.mem_singleton.1 hx]
      exact hrow
  obtain ⟨ms, rfl⟩ : ∃ ms, db₅ = db₄.addMovements ms := by
    refine forM_invariant (fun _ s => ∃ ms, s = db₄.addMovements ms)
      (fun done row _ s s' _ hI hc => ?_) ⟨[], by simp⟩ hmoves
    obtain ⟨ms, rfl⟩ := hI
    obtain ⟨ms', rfl, -⟩ := saveReceiptMovement_spec hc
    exact ⟨ms ++ ms', by simp⟩
  refine ⟨?_, hrows⟩
  rw [hsave, hid', hnumber']
  rfl

end FashionErp.GoodsReceiptsService
