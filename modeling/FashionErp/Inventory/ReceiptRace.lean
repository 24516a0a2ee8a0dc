/-
Goods receipts made side by side against the same purchase orders.

A receipt reads the order in its snapshot, then locks the order items it names, one
after the other, and checks each against what is left of it.
-/
import FashionErp.Inventory.GoodsReceipts
import FashionErp.Lib.LineTx

namespace FashionErp

open Lib Lib.Tx

/-- The rows of `purchase_order_items`. -/
def orderItems (db : Db) : List PurchaseOrderItem :=
  db.buying.purchaseOrders.rows.flatMap (·.items)

/-- The primary key of `purchase_order_items`. -/
def OrderItemsKeyed (db : Db) : Prop := ((orderItems db).map (·.id)).Nodup

namespace ReceiptRace

open GoodsReceiptsService

/-- The arguments of a `GoodsReceiptsService.create`, and the time it is called. -/
structure Call where
  companyId : Uuid
  userId : Uuid
  now : Instant
  dto : CreateGoodsReceiptDto

/-- `create` up to its loop: the order, if it can be received against. -/
def openOrder (companyId : Uuid) (dto : CreateGoodsReceiptDto) : DbTx PurchaseOrder := do
  let warehouse ← WarehousesService.findById dto.warehouseId
  assertWarehouseUsable "warehouseId" warehouse companyId
  let db ← get
  let purchaseOrder ← orReject
    ((db.buying.purchaseOrders.find? dto.purchaseOrderId).filter fun o => o.companyId = companyId)
    (appException .NotFound "Purchase order not found")
  rejectIf (purchaseOrder.status = .Draft ∨ purchaseOrder.status = .Submitted)
    (appException .Conflict
      "Cannot receive against a DRAFT purchase order — it must be CONFIRMED first")
  rejectIf (purchaseOrder.status = .Cancelled ∨ purchaseOrder.status = .Rejected ∨
      purchaseOrder.status = .Closed)
    (appException .Conflict "Cannot receive against a CANCELLED purchase order")
  rejectIf (purchaseOrder.branchId.any fun branchId => warehouse.branchId ≠ branchId)
    (appException .ValidationError "warehouseId does not belong to the purchase order branch")
  rejectIf (purchaseOrder.warehouseId.any fun warehouseId => warehouse.id ≠ warehouseId)
    (appException .ValidationError "warehouseId does not match the purchase order warehouse")
  return purchaseOrder

/-- What `create` writes for the rows it has checked: the number, the stock rows, the
receipt and its movements. -/
def saveReceipt (c : Call) (purchaseOrder : PurchaseOrder) (itemRows : List GoodsReceiptItem) :
    DbTx GoodsReceipt := do
  let receiptDate := c.dto.receiptDate.getD c.now
  let receiptNumber ← generateReceiptNumber c.companyId receiptDate.getUTCFullYear
  itemRows.forM fun row => increaseStock (stockKey c.dto.warehouseId row.productVariantId)
    row.receivedQuantity row.baseReceivedQuantity
  let id ← randomUUID
  let goodsReceipt : GoodsReceipt :=
    { id := id, receiptNumber := receiptNumber, purchaseOrderId := c.dto.purchaseOrderId,
      warehouseId := c.dto.warehouseId, supplierId := purchaseOrder.supplierId,
      companyId := c.companyId, receiptDate := receiptDate, receivedBy := c.userId,
      items := itemRows }
  modify fun db =>
    { db with stock.goodsReceipts := db.stock.goodsReceipts ++ [goodsReceipt] }
  itemRows.forM (saveReceiptMovement c.userId goodsReceipt)
  return goodsReceipt

/-- `create` line by line. The order is read in the snapshot, what was handled
before is read as it is committed. The counter and the stock rows, which are locked
too, are written by nobody else before the commit. -/
def receiptTx (c : Call) : LineTx Db Uuid CreateGoodsReceiptItemDto GoodsReceiptItem Failure where
  start db := do
    let _order ← value (openOrder c.companyId c.dto) db
    return c.dto.items.insertionSort fun a b => a.purchaseOrderItemId ≤ b.purchaseOrderItemId
  lock line := line.purchaseOrderItemId
  check snapshot db rows line := do
    let order ← value (openOrder c.companyId c.dto) snapshot
    value (receiveItem c.companyId c.dto order rows line) db
  finish snapshot rows db := do
    let order ← value (openOrder c.companyId c.dto) snapshot
    result (saveReceipt c order rows) db

abbrev Phase := LinePhase Db CreateGoodsReceiptItemDto GoodsReceiptItem Failure

def protocol (call : ℕ → Call) : Protocol Db Uuid Phase LineLabel := fun i l p db =>
  (receiptTx (call i)).move id l p db

def machine (call : ℕ → Call) : Machine (Shared Db Uuid Phase) (ℕ × LineLabel) :=
  concurrent (protocol call)

/-! ## What is claimed -/

def NotOverReceived (db : Db) : Prop :=
  ∀ item ∈ orderItems db, priorHandled db.stock.goodsReceipts item.id ≤ item.quantity

def draws (rows : List GoodsReceiptItem) : List (Uuid × ℤ) :=
  rows.map fun r => (r.purchaseOrderItemId, r.receivedQuantity + r.rejectedQuantity)

def orderedQuantity (db : Db) (id : Uuid) : ℤ :=
  (((orderItems db).find? fun item => item.id = id).map (·.quantity)).getD 0

def remaining (db : Db) (id : Uuid) : ℤ :=
  orderedQuantity db id - priorHandled db.stock.goodsReceipts id

def SharedLinesFit (s : Shared Db Uuid Phase) : ℕ × LineLabel → Prop
  | (i, .commit) =>
    match s.phase i with
    | .checking _ rows [] =>
      ∀ l ∈ draws rows, NamedTwice (draws rows) l.1 → net (draws rows) l.1 ≤ remaining s.db l.1
    | _ => True
  | _ => True

instance (s : Shared Db Uuid Phase) (l : ℕ × LineLabel) : Decidable (SharedLinesFit s l) := by
  unfold SharedLinesFit
  split
  · split <;> infer_instance
  · infer_instance

/-! ## What the parts of `create` do -/

theorem priorHandled_eq (receipts : List GoodsReceipt) (id : Uuid) :
    priorHandled receipts id = net (draws (receipts.flatMap (·.items))) id := by
  simp only [priorHandled, net, draws, List.filter_map, List.map_map, Function.comp_def]

theorem priorHandled_append (receipts : List GoodsReceipt) (receipt : GoodsReceipt) (id : Uuid) :
    priorHandled (receipts ++ [receipt]) id =
      priorHandled receipts id + net (draws receipt.items) id := by
  rw [priorHandled_eq, priorHandled_eq, List.flatMap_append, List.flatMap_singleton, draws,
    List.map_append, net_append]
  rfl

theorem orderedQuantity_eq {db : Db} (hkeys : OrderItemsKeyed db) {item : PurchaseOrderItem}
    (hitem : item ∈ orderItems db) : orderedQuantity db item.id = item.quantity := by
  have hfind := (Table.mem_rows_iff ⟨orderItems db, hkeys⟩ item).1 hitem
  change ((orderItems db).find? fun i => i.id = item.id) = some item at hfind
  rw [orderedQuantity, hfind]
  rfl

variable {db' snapshot : Db} {rows : List GoodsReceiptItem} {held : Uuid → Prop}
  {dto : CreateGoodsReceiptDto}

theorem openOrder_spec {companyId : Uuid} {order : PurchaseOrder}
    {db : Db} (h : Commits (openOrder companyId dto) db order db') :
    db = db' ∧ order ∈ db.buying.purchaseOrders.rows := by
  simp only [openOrder, WarehousesService.findById, assertWarehouseUsable, commits_bind,
    commits_get, commits_orReject, commits_rejectIf, commits_pure] at h
  obtain ⟨warehouse, _, ⟨_, _, ⟨rfl, rfl⟩, -, rfl⟩, _, _, ⟨_, _, ⟨-, rfl⟩, -, rfl⟩, _, _,
    ⟨rfl, rfl⟩, found, _, ⟨hfind, rfl⟩, _, _, ⟨-, rfl⟩, _, _, ⟨-, rfl⟩, _, _, ⟨-, rfl⟩, _, _,
    ⟨-, rfl⟩, rfl, rfl⟩ := h
  exact ⟨rfl, Table.mem_of_find? (Option.filter_eq_some_iff.1 hfind).1⟩

variable {rows' : List GoodsReceiptItem}

theorem receiveItem_row {companyId : Uuid} {order : PurchaseOrder} {line : CreateGoodsReceiptItemDto} {db : Db}
    (h : Commits (receiveItem companyId dto order rows line) db rows' db') :
    ∃ item ∈ order.items, item.id = line.purchaseOrderItemId ∧ ∃ row, rows' = rows ++ [row] ∧
      row.purchaseOrderItemId = item.id ∧ 0 ≤ row.receivedQuantity ∧
        row.receivedQuantity + row.rejectedQuantity ≤
          item.quantity - priorHandled db.stock.goodsReceipts item.id := by
  simp only [receiveItem, computeBaseQuantity, commits_bind, commits_orReject, commits_rejectIf,
    commits_get, commits_pure] at h
  obtain ⟨item, _, ⟨hitem, rfl⟩, _, _, ⟨-, rfl⟩, _, _, ⟨rfl, rfl⟩, _, _, ⟨-, rfl⟩, base, _,
    ⟨_, _, ⟨-, rfl⟩, rfl, rfl⟩, _, _, ⟨_, _, ⟨-, rfl⟩, -, rfl⟩, _, _, ⟨-, rfl⟩, _, _,
    ⟨hfits, rfl⟩, _, _, -, rfl, -⟩ := h
  have hid := List.find?_some hitem
  have hid' : item.id = line.purchaseOrderItemId := of_decide_eq_true hid
  refine ⟨item, List.mem_of_find?_eq_some hitem, hid', _, rfl, hid'.symm, Int.natCast_nonneg _, ?_⟩
  rw [hid']
  exact Int.not_lt.1 hfits

def Stocked (warehouseId : Uuid) (rows : List GoodsReceiptItem) (stocks : Table WarehouseStock) :
    Prop :=
  ∀ r ∈ rows, 0 < r.receivedQuantity →
    (stocks.find? (stockKey warehouseId r.productVariantId)).isSome

theorem increaseStock_succeeds (k : StockKey) (received base : ℤ) (db : Db) :
    Succeeds (increaseStock k received base) db fun _ db' => ∃ stocks, db' = db.setStocks stocks ∧
      (∀ j, (db.stock.warehouseStock.find? j).isSome → (stocks.find? j).isSome) ∧
      (0 < received → (stocks.find? k).isSome) := by
  unfold increaseStock
  split
  · refine (lockWarehouseStockRow_succeeds k db).bind ?_
    rintro stock _ ⟨stocks, rfl, hlock⟩
    have hkey : key stock = k := Table.key_of_find? hlock.row
    have hrow : stocks.find? (key stock) = some stock := by rw [hkey, hlock.row]
    refine ⟨⟨⟩, _, (commits_updateOnHand stock hrow ⟨⟩ _).2 rfl, _, rfl, fun j hj => ?_, fun _ => ?_⟩
    · obtain ⟨r, hr⟩ := Option.isSome_iff_exists.1 hj
      rw [Db.setStocks_stocks, Table.find?_save]
      split
      · rfl
      · rw [hlock.kept j r hr]
        rfl
    · rw [Db.setStocks_stocks, Table.find?_save, if_pos]
      · rfl
      · exact hkey
  · rename_i hnot
    exact .pure ⟨db.stock.warehouseStock, rfl, fun _ h => h, fun h => absurd h hnot⟩

theorem increaseStocks_succeed (warehouseId : Uuid) (rows : List GoodsReceiptItem) (db : Db) :
    Succeeds (rows.forM fun row => increaseStock (stockKey warehouseId row.productVariantId)
      row.receivedQuantity row.baseReceivedQuantity) db fun _ db' =>
        ∃ stocks, db' = db.setStocks stocks ∧ Stocked warehouseId rows stocks := by
  refine forM_succeeds (fun done db' => ∃ stocks, db' = db.setStocks stocks ∧
    Stocked warehouseId done stocks) ?_ ⟨db.stock.warehouseStock, rfl, by simp [Stocked]⟩
  rintro done row rest _ - ⟨stocks, rfl, hstocked⟩
  refine (increaseStock_succeeds _ _ _ _).mono ?_
  rintro _ _ ⟨stocks', rfl, hkept, hrow⟩
  refine ⟨stocks', rfl, fun r hr hpos => ?_⟩
  rcases List.mem_append.1 hr with hr | hr
  · exact hkept _ (hstocked r hr hpos)
  · obtain rfl := List.mem_singleton.1 hr
    exact hrow hpos

theorem saveReceiptMovements_succeed (userId : Uuid) (receipt : GoodsReceipt) {db : Db}
    (hstocked : Stocked receipt.warehouseId rows db.stock.warehouseStock) :
    Succeeds (rows.forM (saveReceiptMovement userId receipt)) db fun _ db' =>
      ∃ ms, db' = db.addMovements ms := by
  refine forM_succeeds (fun _ db' => ∃ ms, db' = db.addMovements ms) ?_ ⟨[], by simp⟩
  rintro done row rest _ hrows ⟨ms, rfl⟩
  unfold saveReceiptMovement
  split
  · rename_i hpos
    have hmem : row ∈ rows := by
      rw [hrows]
      simp
    obtain ⟨stock, hstock⟩ := Option.isSome_iff_exists.1 (hstocked row hmem hpos)
    refine Succeeds.get_bind (Succeeds.orReject_bind (hstock : _ = some stock) ?_)
    exact ⟨⟨⟩, _, (commits_modify _ _ _ _).2 rfl, _, Db.addMovements_addMovements _ _ _⟩
  · exact .pure ⟨ms, rfl⟩

theorem saveReceipt_succeeds (c : Call) (order : PurchaseOrder) (rows : List GoodsReceiptItem)
    (db : Db) :
    Succeeds (saveReceipt c order rows) db fun receipt db' => db'.buying = db.buying ∧
      db'.stock.goodsReceipts = db.stock.goodsReceipts ++ [receipt] ∧ receipt.items = rows ∧
        receipt.purchaseOrderId = c.dto.purchaseOrderId := by
  refine (nextDocumentNumber_succeeds _ _ _ _ db).bind fun number db₁ hnumber => ?_
  refine (increaseStocks_succeed c.dto.warehouseId rows db₁).bind ?_
  rintro _ _ ⟨stocks, rfl, hstocked⟩
  refine (randomUUID_succeeds _).bind fun id db₂ hid => Succeeds.modify_bind ?_
  have htables : db₂.buying = db.buying ∧ db₂.stock.goodsReceipts = db.stock.goodsReceipts ∧
      db₂.stock.warehouseStock = stocks := by
    rw [hid, hnumber]
    exact ⟨rfl, rfl, rfl⟩
  obtain ⟨hbuying, hreceipts, hstocks⟩ := htables
  refine (saveReceiptMovements_succeed c.userId _ (by rw [hstocks]; exact hstocked)).bind ?_
  rintro _ _ ⟨ms, rfl⟩
  refine .pure ⟨hbuying, ?_, rfl, rfl⟩
  show db₂.stock.goodsReceipts ++ [_] = _
  rw [hreceipts]

/-! ## The invariant -/

structure Sound (db : Db) : Prop where
  keyed : OrderItemsKeyed db
  within : NotOverReceived db

/-- What is known of the rows in memory: the order could be opened in the snapshot,
nobody has changed an order since, and each row names a locked order item and fits what
is left of it. -/
structure RowsOk (c : Call) (held : Uuid → Prop) (snapshot db : Db) (rows : List GoodsReceiptItem) :
    Prop where
  opened : ∃ order, Commits (openOrder c.companyId c.dto) snapshot order snapshot
  buying : db.buying = snapshot.buying
  drawn : Drawn held (remaining db) (draws rows)
  named : ∀ l ∈ draws rows, ∃ item ∈ orderItems db, item.id = l.1

def PhaseOk (call : ℕ → Call) (held : Uuid → Prop) (db : Db) (i : ℕ) (p : Phase) : Prop :=
  LineOk (receiptTx (call i)) (RowsOk (call i)) held db p

structure Received (db db' : Db) (rows : List GoodsReceiptItem) : Prop where
  buying : db'.buying = db.buying
  handled : ∀ id, priorHandled db'.stock.goodsReceipts id =
    priorHandled db.stock.goodsReceipts id + net (draws rows) id

theorem Received.orderItems {db : Db} (h : Received db db' rows) :
    orderItems db' = orderItems db := by
  rw [FashionErp.orderItems, FashionErp.orderItems, h.buying]

theorem Received.remaining {db : Db} (h : Received db db' rows) (id : Uuid) :
    remaining db' id = remaining db id - net (draws rows) id := by
  rw [ReceiptRace.remaining, ReceiptRace.remaining, orderedQuantity, orderedQuantity,
    h.orderItems, h.handled]
  omega

theorem Sound.remaining {db : Db} (h : Sound db) {item : PurchaseOrderItem}
    (hitem : item ∈ orderItems db) :
    remaining db item.id = item.quantity - priorHandled db.stock.goodsReceipts item.id ∧
      0 ≤ remaining db item.id := by
  have heq : ReceiptRace.remaining db item.id =
      item.quantity - priorHandled db.stock.goodsReceipts item.id := by
    rw [ReceiptRace.remaining, orderedQuantity_eq h.keyed hitem]
  refine ⟨heq, ?_⟩
  have hle := h.within item hitem
  omega

variable {call : ℕ → Call} {c : Call}

theorem RowsOk.check {db : Db}
    {line : CreateGoodsReceiptItemDto} (hdb : Sound db) (h : RowsOk c held snapshot db rows)
    (hheld : held line.purchaseOrderItemId)
    (hcheck : (receiptTx c).check snapshot db rows line = .ok rows') :
    RowsOk c held snapshot db rows' := by
  obtain ⟨order, hopen, hreceive⟩ := except_bind_eq_ok.1 hcheck
  obtain ⟨_, hopen⟩ := value_eq_ok.1 hopen
  obtain ⟨_, hreceive⟩ := value_eq_ok.1 hreceive
  obtain ⟨item, hitem, hid, row, rfl, hrow, -, hfits⟩ := receiveItem_row hreceive
  have hmem : item ∈ orderItems db := by
    rw [orderItems, h.buying]
    exact List.mem_flatMap.2 ⟨order, (openOrder_spec hopen).2, hitem⟩
  have hdraws : draws (rows ++ [row]) =
      draws rows ++ [(item.id, row.receivedQuantity + row.rejectedQuantity)] := by
    rw [draws, List.map_append, List.map_singleton, hrow]
    rfl
  refine { opened := h.opened, buying := h.buying, drawn := ?_, named := fun l hl => ?_ }
  · rw [hdraws]
    refine h.drawn.append (hid ▸ hheld) ?_
    rw [(hdb.remaining hmem).1]
    exact hfits
  · rw [hdraws] at hl
    rcases List.mem_append.1 hl with hl | hl
    · exact h.named l hl
    · obtain rfl := List.mem_singleton.1 hl
      exact ⟨item, hmem, rfl⟩

theorem RowsOk.of_received {heldBy : Uuid → Prop} {db : Db}
    {others : List GoodsReceiptItem} (h : RowsOk c held snapshot db rows)
    (hby : Drawn heldBy (remaining db) (draws others)) (hapart : ∀ k, held k → ¬ heldBy k)
    (hdb : Received db db' others) : RowsOk c held snapshot db' rows where
  opened := h.opened
  buying := hdb.buying.trans h.buying
  drawn := h.drawn.of_drawn hby hapart fun k => (hdb.remaining k).ge
  named := by
    rw [hdb.orderItems]
    exact h.named

theorem finish_spec {db : Db} (h : (receiptTx c).finish snapshot rows db = .ok db') :
    Received db db' rows := by
  obtain ⟨order, -, hsave⟩ := except_bind_eq_ok.1 h
  obtain ⟨receipt, hsave⟩ := result_eq_ok.1 hsave
  obtain ⟨hbuying, hreceipts, rfl, -⟩ := (saveReceipt_succeeds c order rows db).of_commits hsave
  exact ⟨hbuying, fun id => by rw [hreceipts, priorHandled_append]⟩

theorem finish_succeeds {db : Db} (h : RowsOk c held snapshot db rows) :
    ∃ db', (receiptTx c).finish snapshot rows db = .ok db' := by
  obtain ⟨order, hopen⟩ := h.opened
  obtain ⟨receipt, db', hsave, -⟩ := saveReceipt_succeeds c order rows db
  exact ⟨db', except_bind_eq_ok.2
    ⟨order, value_eq_ok.2 ⟨_, hopen⟩, result_eq_ok.2 ⟨receipt, hsave⟩⟩⟩

/-- A receipt leaves a sound database sound exactly if its shared lines fit. -/
theorem sound_received_iff {db : Db} (hdb : Sound db)
    (hdrawn : Drawn held (remaining db) (draws rows))
    (hnamed : ∀ l ∈ draws rows, ∃ item ∈ orderItems db, item.id = l.1) (h : Received db db' rows) :
    NotOverReceived db' ↔
      ∀ l ∈ draws rows, NamedTwice (draws rows) l.1 →
        net (draws rows) l.1 ≤ remaining db l.1 := by
  constructor
  · intro hwithin l hl _
    obtain ⟨item, hitem, hid⟩ := hnamed l hl
    have hle := hwithin item (by rw [h.orderItems]; exact hitem)
    rw [h.handled] at hle
    rw [← hid, (hdb.remaining hitem).1]
    omega
  · intro hshared item hitem
    rw [h.orderItems] at hitem
    have hle := hdrawn.net_le_of_shared hshared (hdb.remaining hitem).2
    rw [(hdb.remaining hitem).1] at hle
    rw [h.handled]
    omega

/-! ## Steps and runs -/

theorem RowsOk.mono {held' : Uuid → Prop} {db : Db} (h : RowsOk c held snapshot db rows)
    (hheld : ∀ k, held k → held' k) : RowsOk c held' snapshot db rows :=
  { h with drawn := h.drawn.mono hheld fun _ _ => le_rfl }

theorem protocol_cases {db : Db} {i : ℕ} {l : LineLabel} {p : Phase} {m : Move Db Uuid Phase}
    (hdb : Sound db) (h : PhaseOk call held db i p) (hm : protocol call i l p db = some m) :
    Shared.MoveOk (fun _ => False) (PhaseOk call) held db i m ∨
      ∃ snapshot rows db', p = .checking snapshot rows [] ∧ l = .commit ∧
        RowsOk (call i) held snapshot db rows ∧ Received db db' rows ∧
          m = .commit db' .returned := by
  refine (LineOk.move h hm (fun _ _ hq => hq) (fun todo htodo => ?_)
    (fun k snapshot rows hrows => hrows.mono fun _ => .inr)
    (fun snapshot rows line todo rows' _ _ hheld hrows hcheck =>
      hrows.check hdb hheld hcheck)).imp_right ?_
  · obtain ⟨order, hopen, -⟩ := except_bind_eq_ok.1 htodo
    obtain ⟨db', hopen⟩ := value_eq_ok.1 hopen
    obtain ⟨rfl, -⟩ := openOrder_spec hopen
    exact { opened := ⟨order, hopen⟩, buying := rfl, drawn := nofun, named := nofun }
  · rintro ⟨snapshot, rows, db', rfl, rfl, hfinish, rfl⟩
    exact ⟨snapshot, rows, db', rfl, rfl, h, finish_spec hfinish, rfl⟩

theorem notOverReceived_iff_sharedLinesFit {s s' : Shared Db Uuid Phase} {l : ℕ × LineLabel}
    (h : s.Inv Sound (PhaseOk call)) (hs : (machine call).step s l = some s') :
    NotOverReceived s'.db ↔ SharedLinesFit s l := by
  obtain ⟨i, l⟩ := l
  obtain ⟨m, hm, hmove⟩ := Shared.step_move hs
  have hi := h.phase i
  generalize hp : s.phase i = p at hi hm
  rcases protocol_cases h.db hi hm with
    hquiet | ⟨snapshot, rows, db', rfl, rfl, hrows, hreceived, rfl⟩
  · refine iff_of_true (by rw [hquiet.db_eq hmove]; exact h.db.within) ?_
    unfold SharedLinesFit
    split
    · rename_i heq
      obtain ⟨rfl, rfl⟩ := Prod.mk.inj heq
      rw [hp]
      split
      · -- A receipt that has checked its last line commits; it is not quiet.
        rename_i snapshot rows
        obtain ⟨db', hfinish⟩ := finish_succeeds hi
        obtain rfl := Option.some.inj ((LineTx.move_commit hfinish).symm.trans hm)
        exact hquiet.1.elim
      · trivial
    · trivial
  · cases hmove
    rw [sound_received_iff h.db hrows.drawn hrows.named hreceived]
    simp only [SharedLinesFit, hp]

theorem inv_step {s s' : Shared Db Uuid Phase} {l : ℕ × LineLabel}
    (h : s.Inv Sound (PhaseOk call)) (hs : (machine call).step s l = some s')
    (hwithin : NotOverReceived s'.db) : s'.Inv Sound (PhaseOk call) := by
  obtain ⟨i, l⟩ := l
  refine h.step hs (fun m hm => ?_) fun db' q hm j _ held hapart hj => ?_
  · obtain ⟨m', hm', hmove⟩ := Option.bind_eq_some_iff.1 hs
    obtain rfl := Option.some.inj (hm.symm.trans hm')
    rcases protocol_cases h.db (h.phase i) hm with
      hquiet | ⟨snapshot, rows, db', hp, rfl, hrows, hreceived, rfl⟩
    · cases m with
      | commit db' q => exact hquiet.1.elim
      | _ => exact hquiet
    · cases hmove
      refine ⟨{ keyed := ?_, within := hwithin }, trivial⟩
      rw [OrderItemsKeyed, hreceived.orderItems]
      exact h.db.keyed
  · rcases protocol_cases h.db (h.phase i) hm with
      hquiet | ⟨snapshot, rows, db₁, hp, rfl, hrows, hreceived, heq⟩
    · exact hquiet.1.elim
    · obtain ⟨rfl, rfl⟩ := Move.commit.inj heq
      exact hj.mono fun _ _ hok => hok.of_received hrows.drawn hapart hreceived

/-- Received within what was ordered. Any number of receipts may be under way, each
with any list of lines. No order item is received beyond its quantity in any state of a
run exactly when, for each receipt that commits, the lines that name one order item
together fit what is left of it; a receipt that names each item once always does. -/
theorem not_over_received_iff (call : ℕ → Call) {db : Db} (hkeys : OrderItemsKeyed db)
    (hdb : NotOverReceived db) {ls : List (ℕ × LineLabel)} {s : Shared Db Uuid Phase}
    (hrun : (machine call).Run (.start db .called) ls s) :
    (∀ ks, ks <+: ls → ∀ s₁, (machine call).Run (.start db .called) ks s₁ →
        NotOverReceived s₁.db) ↔
      (machine call).RunWith SharedLinesFit (.start db .called) ls s := by
  have hstart : (Shared.start db .called : Shared Db Uuid Phase).Inv Sound (PhaseOk call) :=
    Shared.inv_start ⟨hkeys, hdb⟩ fun _ _ => trivial
  refine Machine.prefixes_iff_runWith (fun s l s' h hc hs => ?_) (fun _ h => h.db.within)
    (fun _ _ _ h hs hwithin => (notOverReceived_iff_sharedLinesFit h hs).1 hwithin) hstart hrun
  exact inv_step h hs ((notOverReceived_iff_sharedLinesFit h hs).2 hc)

/-! An order for ten pieces: received whole by two receipts, and by one that names its
item twice. -/

namespace ReceiptDemo

def order : PurchaseOrder :=
  { id := 70, purchaseOrderNumber := "PO-2026-000001", supplierId := 40, companyId := 10,
    branchId := none, warehouseId := none, status := .Confirmed, grandTotal := 10000,
    paidAmount := 0, balanceAmount := 10000, currency := "MMK", updatedBy := none,
    items := [{ id := 71, productVariantId := 7, quantity := 10, unitCostSnapshot := 1000,
                conversionFactorToBaseSnapshot := none }] }

def db : Db where
  master :=
    { warehouses := .ofRows [{ id := 20, companyId := 10, branchId := 15, status := .Active }]
      productVariants := .ofRows [{ id := 7, companyId := 10, status := .Active }] }
  buying := { purchaseOrders := .ofRows [order] }

def line (quantity : ℕ) : CreateGoodsReceiptItemDto :=
  { purchaseOrderItemId := 71, productVariantId := 7, receivedQuantity := quantity,
    rejectedQuantity := none }

def receive (items : List CreateGoodsReceiptItemDto) : Call where
  companyId := 10
  userId := 99
  now := { date := ⟨2026, 3, 1⟩, millis := 0 }
  dto := { purchaseOrderId := 70, warehouseId := 20, receiptDate := none, items := items }

/-- Request `0` names the item twice, the others take four pieces. -/
def calls (i : ℕ) : Call := if i = 0 then receive [line 10, line 10] else receive [line 4]

def received (s : Shared Db Uuid Phase) : ℤ := priorHandled s.db.stock.goodsReceipts 71

theorem keyed : OrderItemsKeyed db := by
  unfold OrderItemsKeyed
  decide

theorem within : NotOverReceived db := by
  unfold NotOverReceived
  decide

end ReceiptDemo

open ReceiptDemo in
/-- Two receipts of four pieces each that both start before either commits. -/
theorem not_over_received_iff_twice :
    ∃ s, (machine calls).Run (.start db .called)
        [(1, .start), (2, .start), (1, .lock), (1, .check), (1, .commit), (2, .lock),
          (2, .check), (2, .commit)] s ∧ received s = 8 ∧ NotOverReceived s.db := by
  obtain ⟨s, hrun, hs⟩ := Machine.exists_runWith (machine calls) SharedLinesFit
    (.start db .called)
    [(1, .start), (2, .start), (1, .lock), (1, .check), (1, .commit), (2, .lock),
      (2, .check), (2, .commit)]
    (fun s => received s = 8) (by decide +kernel)
  exact ⟨s, hrun.run, of_decide_eq_true hs,
    (not_over_received_iff calls keyed within hrun.run).2 hrun _ (List.prefix_refl _) s hrun.run⟩

open ReceiptDemo in
/-- One receipt names the item twice with ten pieces each: twenty of ten are received. -/
theorem repeated_line_over_received :
    ∃ s, (machine calls).Run (.start db .called)
        [(0, .start), (0, .lock), (0, .check), (0, .lock), (0, .check), (0, .commit)] s ∧
      received s = 20 ∧ ¬ NotOverReceived s.db := by
  obtain ⟨s, hrun, hs⟩ := Machine.exists_runWith (machine calls) (fun _ _ => True)
    (.start db .called)
    [(0, .start), (0, .lock), (0, .check), (0, .lock), (0, .check), (0, .commit)]
    (fun s => received s = 20 && (orderItems s.db).any fun item => item.id = 71 && item.quantity = 10)
    (by decide +kernel)
  simp only [Bool.and_eq_true, List.any_eq_true, decide_eq_true_eq] at hs
  obtain ⟨hreceived, item, hitem, hid, hquantity⟩ := hs
  refine ⟨s, hrun, hreceived, fun hwithin => ?_⟩
  have hle := hwithin item hitem
  rw [hid, hquantity] at hle
  change received s ≤ 10 at hle
  omega

end ReceiptRace

end FashionErp
