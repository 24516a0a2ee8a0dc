/-
Purchase returns and goods receipts side by side.

`create` locks each order item, but what was received of it and what was returned of it
are plain reads: they count what the snapshot shows that its first read, of the invoice,
has fixed.
-/
import FashionErp.Inventory.ReceiptRace
import FashionErp.Purchase.PurchaseReturns
import Mathlib.Algebra.Order.Group.Int

namespace FashionErp.PurchaseReturnRace

open Lib Lib.Tx PurchaseReturnsService

/-- The arguments of a `PurchaseReturnsService.create`, and the time it is called. -/
structure Call where
  companyId : Uuid
  userId : Uuid
  now : Instant
  dto : CreatePurchaseReturnDto

inductive Request
  | create (c : Call)
  | complete (id companyId userId : Uuid) (now : Instant)
  | cancel (id companyId : Uuid)
  | receive (c : ReceiptRace.Call)

inductive Lock
  | orderItem (id : Uuid)
  | purchaseReturn (id : Uuid)
  deriving DecidableEq

/-! ## `create` in parts -/

def sortedLines (dto : CreatePurchaseReturnDto) : List CreatePurchaseReturnItemDto :=
  dto.items.insertionSort fun a b => a.purchaseOrderItemId ≤ b.purchaseOrderItemId

/-- `create` up to its loop: the invoice and its order. -/
def openInvoice (companyId : Uuid) (dto : CreatePurchaseReturnDto) :
    DbTx (PurchaseInvoice × PurchaseOrder) := do
  let db ← get
  let invoice ← orReject
    ((db.buying.purchaseInvoices.find? dto.purchaseInvoiceId).filter fun i =>
      i.companyId = companyId)
    (appException .ValidationError "purchaseInvoiceId does not reference a purchase invoice in the specified company")
  rejectIf (dto.supplierId ≠ invoice.supplierId)
    (appException .ValidationError
      "supplierId does not match the selected purchase invoice supplier")
  let purchaseOrder ← orReject
    ((db.buying.purchaseOrders.find? invoice.purchaseOrderId).filter fun o =>
      o.companyId = companyId)
    (appException .ValidationError
      "The selected purchase invoice is missing its source purchase order")
  return (invoice, purchaseOrder)

/-- `create` after its loop: the number and the inserts. -/
def insertReturn (c : Call) (invoice : PurchaseInvoice) (purchaseOrder : PurchaseOrder)
    (itemsToCreate : List PurchaseReturnItem) : DbTx PurchaseReturn := do
  let returnNumber ← generateReturnNumber c.companyId c.now.getUTCFullYear
  let id ← randomUUID
  let db ← get
  rejectIf (db.buying.purchaseReturns.find? id).isSome (.duplicateEntry "PRIMARY")
  let purchaseReturn : PurchaseReturn :=
    { id := id, returnNumber := returnNumber, companyId := c.companyId,
      branchId := purchaseOrder.branchId, supplierId := invoice.supplierId,
      purchaseOrderId := purchaseOrder.id, purchaseInvoiceId := invoice.id, status := .Draft,
      reason := c.dto.reason, subtotal := (itemsToCreate.map (·.lineTotal)).sum,
      creditAppliedAmount := 0, supplierCreditAmount := 0, currency := invoice.currency,
      createdBy := some c.userId, completedBy := none, completedAt := none,
      items := itemsToCreate }
  saveReturn purchaseReturn
  return purchaseReturn

theorem create_eq (c : Call) :
    create c.companyId c.userId c.now c.dto = (do
      let opened ← openInvoice c.companyId c.dto
      let itemsToCreate ← (sortedLines c.dto).foldlM (createItem c.companyId opened.2) []
      insertReturn c opened.1 opened.2 itemsToCreate) := by
  simp only [create, openInvoice, insertReturn, sortedLines, bind_assoc, pure_bind]

/-- `create` line by line. What was received and returned of an order item is read in
the snapshot; the items of an order never change. -/
def createTx (c : Call) : LineTx Db Lock CreatePurchaseReturnItemDto PurchaseReturnItem Failure where
  start db := do
    let _opened ← value (openInvoice c.companyId c.dto) db
    return sortedLines c.dto
  lock line := .orderItem line.purchaseOrderItemId
  check snapshot _ rows line := do
    let opened ← value (openInvoice c.companyId c.dto) snapshot
    value (createItem c.companyId opened.2 rows line) snapshot
  finish snapshot rows db := do
    let opened ← value (openInvoice c.companyId c.dto) snapshot
    result (insertReturn c opened.1 opened.2 rows) db

/-- `complete`, whose checks are under the lock of the return. -/
def completeTx (id companyId userId : Uuid) (now : Instant) : LineTx Db Lock Unit Unit Failure :=
  .locking (.purchaseReturn id) (result (complete id companyId userId now))

/-- `cancel`, whose reads are under the lock of the return. -/
def cancelTx (id companyId : Uuid) : LineTx Db Lock Unit Unit Failure :=
  .locking (.purchaseReturn id) (result (cancel id companyId))

/-- A goods receipt, which locks order items too. -/
def receiveTx (c : ReceiptRace.Call) :
    LineTx Db Lock GoodsReceiptsService.CreateGoodsReceiptItemDto GoodsReceiptItem Failure :=
  (ReceiptRace.receiptTx c).mapLock .orderItem

inductive Phase
  | called
  | creating (p : LinePhase Db CreatePurchaseReturnItemDto PurchaseReturnItem Failure)
  | closing (p : LinePhase Db Unit Unit Failure)
  | receiving (p : ReceiptRace.Phase)

def protocol (request : ℕ → Request) : Protocol Db Lock Phase LineLabel := fun i l p db =>
  match request i, p with
  | .create c, .called => (createTx c).move .creating l .called db
  | .create c, .creating p => (createTx c).move .creating l p db
  | .complete id companyId userId now, .called =>
    (completeTx id companyId userId now).move .closing l .called db
  | .complete id companyId userId now, .closing p =>
    (completeTx id companyId userId now).move .closing l p db
  | .cancel id companyId, .called => (cancelTx id companyId).move .closing l .called db
  | .cancel id companyId, .closing p => (cancelTx id companyId).move .closing l p db
  | .receive c, .called => (receiveTx c).move .receiving l .called db
  | .receive c, .receiving p => (receiveTx c).move .receiving l p db
  | _, _ => none

def machine (request : ℕ → Request) : Machine (Shared Db Lock Phase) (ℕ × LineLabel) :=
  concurrent (protocol request)

/-! ## What is claimed -/

def receivedQuantity (db : Db) (purchaseOrderItemId : Uuid) : ℤ :=
  net ((db.stock.goodsReceipts.flatMap (·.items)).map fun i =>
    (i.purchaseOrderItemId, i.receivedQuantity)) purchaseOrderItemId

def NotOverReturned (db : Db) : Prop :=
  ∀ id, getReturnedQuantityForOrderItem db id ≤ receivedQuantity db id

def returnable (db : Db) (id : Uuid) : ℤ :=
  receivedQuantity db id - getReturnedQuantityForOrderItem db id

def ExposedLinesFit (s : Shared Db Lock Phase) : ℕ × LineLabel → Prop
  | (i, .commit) =>
    match s.phase i with
    | .creating (.checking snapshot rows []) =>
      s.db.buying.purchaseReturns.find? s.db.sequences.nextId = none → ∀ l ∈ draws rows,
        Exposed (returnable snapshot) (returnable s.db) (draws rows) l.1 →
          net (draws rows) l.1 ≤ returnable s.db l.1
    | _ => True
  | _ => True

instance (s : Shared Db Lock Phase) (l : ℕ × LineLabel) : Decidable (ExposedLinesFit s l) := by
  obtain ⟨i, l⟩ := l
  cases l with
  | commit =>
    unfold ExposedLinesFit
    dsimp only
    split <;> infer_instance
  | _ => exact isTrue trivial

/-! ## The invariant -/

structure Sound (db : Db) : Prop where
  within : NotOverReturned db
  returns : ∀ r ∈ db.buying.purchaseReturns.rows, ∀ i ∈ r.items, 0 ≤ i.quantity
  receipts : ∀ g ∈ db.stock.goodsReceipts, ∀ i ∈ g.items, 0 ≤ i.receivedQuantity

/-- What is known of the rows in memory: the invoice could be opened in the snapshot,
and each row fits what could be returned of its order item in the snapshot. -/
structure RowsOk (c : Call) (snapshot : Db) (rows : List PurchaseReturnItem) : Prop where
  opened : ∃ opened, Commits (openInvoice c.companyId c.dto) snapshot opened snapshot
  receipts : ∀ g ∈ snapshot.stock.goodsReceipts, ∀ i ∈ g.items, 0 ≤ i.receivedQuantity
  drawn : Drawn (fun _ => True) (returnable snapshot) (draws rows)
  nonneg : ∀ r ∈ rows, 0 ≤ r.quantity

def PhaseOk (request : ℕ → Request) (held : Lock → Prop) (db : Db) (i : ℕ) (p : Phase) : Prop :=
  match request i, p with
  | .create c, .creating p =>
    LineOk (createTx c) (fun _ snapshot _ rows => RowsOk c snapshot rows) held db p
  | .complete id companyId userId now, .closing p =>
    LineOk (completeTx id companyId userId now) (fun _ _ _ _ => True) held db p
  | .cancel id companyId, .closing p =>
    LineOk (cancelTx id companyId) (fun _ _ _ _ => True) held db p
  | .receive c, .receiving p =>
    LineOk (receiveTx c) (fun _ _ _ rows => ∀ r ∈ rows, 0 ≤ r.receivedQuantity) held db p
  | _, _ => True

/-! ## What the parts of `create` do -/

variable {companyId id : Uuid}

theorem openInvoice_spec {dto : CreatePurchaseReturnDto}
    {opened : PurchaseInvoice × PurchaseOrder} {db db' : Db}
    (h : Commits (openInvoice companyId dto) db opened db') : db = db' := by
  simp only [openInvoice, commits_bind, commits_get, commits_orReject, commits_rejectIf,
    commits_pure] at h
  obtain ⟨_, _, ⟨rfl, rfl⟩, _, _, ⟨-, rfl⟩, _, _, ⟨-, rfl⟩, _, _, ⟨-, rfl⟩, -, rfl⟩ := h
  rfl

variable {rows : List PurchaseReturnItem} {c : Call}

theorem insertReturn_spec {invoice : PurchaseInvoice} {purchaseOrder : PurchaseOrder} {purchaseReturn : PurchaseReturn} {db db' : Db}
    (h : Commits (insertReturn c invoice purchaseOrder rows) db purchaseReturn db') :
    purchaseReturn.id = db.sequences.nextId ∧
      db.buying.purchaseReturns.find? purchaseReturn.id = none ∧
      db' = { db with
        buying := { db.buying with
          purchaseReturns := db.buying.purchaseReturns.save purchaseReturn }
        sequences := db'.sequences } ∧
      purchaseReturn.status = .Draft ∧ purchaseReturn.items = rows := by
  simp only [insertReturn, generateReturnNumber, saveReturn, commits_bind, commits_get,
    commits_rejectIf, commits_modify, commits_pure] at h
  obtain ⟨number, db₁, hnumber, id, db₂, hid, _, _, ⟨rfl, rfl⟩, _, _, ⟨hnew, rfl⟩, _, _, rfl, rfl,
    rfl⟩ := h
  have hseq₁ := nextDocumentNumber_spec hnumber
  obtain ⟨hseq₂, hdrawn⟩ := randomUUID_spec hid
  rw [SequencesOnly] at hseq₁ hseq₂
  have hsame : db₂.buying = db.buying := by rw [hseq₂, hseq₁]
  refine ⟨hdrawn.trans (nextDocumentNumber_nextId hnumber), ?_, ?_, rfl, rfl⟩
  · rw [← hsame]
    exact Option.not_isSome_iff_eq_none.1 hnew
  · rw [hseq₂, hseq₁]

theorem insertReturn_succeeds (c : Call) (invoice : PurchaseInvoice) (purchaseOrder : PurchaseOrder)
    (rows : List PurchaseReturnItem) {db : Db}
    (hnew : db.buying.purchaseReturns.find? db.sequences.nextId = none) :
    Succeeds (insertReturn c invoice purchaseOrder rows) db fun _ _ => True := by
  obtain ⟨number, db₁, hnumber, hseq⟩ := nextDocumentNumber_succeeds .PurchaseReturn "PRTN"
    c.companyId c.now.getUTCFullYear db
  have hnext := nextDocumentNumber_nextId hnumber
  refine hnumber.succeeds.bind ?_
  rintro _ _ ⟨rfl, rfl⟩
  obtain ⟨id, db₂, hid, hseq₂⟩ := randomUUID_succeeds db₁
  obtain ⟨-, hdrawn⟩ := randomUUID_spec hid
  refine hid.succeeds.bind ?_
  rintro _ _ ⟨rfl, rfl⟩
  refine Succeeds.get_bind (Succeeds.rejectIf_bind ?_ (Succeeds.modify_bind (.pure trivial)))
  rw [SequencesOnly] at hseq hseq₂
  rw [hdrawn, hnext, hseq₂, hseq]
  simp [hnew]

/-! ## What the commits do -/

structure Returned (db db' : Db) (rows : List PurchaseReturnItem) : Prop where
  fresh : db.buying.purchaseReturns.find? db.sequences.nextId = none
  stock : db'.stock = db.stock
  returned : ∀ id, getReturnedQuantityForOrderItem db' id =
    getReturnedQuantityForOrderItem db id + net (draws rows) id
  items : ∀ r ∈ db'.buying.purchaseReturns.rows,
    r ∈ db.buying.purchaseReturns.rows ∨ r.items = rows

structure Loosened (db db' : Db) : Prop where
  received : ∀ id, receivedQuantity db id ≤ receivedQuantity db' id
  returned : ∀ id, getReturnedQuantityForOrderItem db' id ≤ getReturnedQuantityForOrderItem db id
  returns : ∀ r ∈ db'.buying.purchaseReturns.rows, ∃ r₀ ∈ db.buying.purchaseReturns.rows,
    r.items = r₀.items
  receipts : ∀ g ∈ db'.stock.goodsReceipts, g ∈ db.stock.goodsReceipts ∨
    ∀ i ∈ g.items, 0 ≤ i.receivedQuantity

theorem Loosened.sound {db db' : Db} (h : Loosened db db') (hdb : Sound db) : Sound db' where
  within id := (h.returned id).trans ((hdb.within id).trans (h.received id))
  returns r hr i hi := by
    obtain ⟨r₀, hr₀, hitems⟩ := h.returns r hr
    rw [hitems] at hi
    exact hdb.returns r₀ hr₀ i hi
  receipts g hg := (h.receipts g hg).elim (hdb.receipts g) id

theorem finish_spec {snapshot db db' : Db}
    (h : (createTx c).finish snapshot rows db = .ok db') : Returned db db' rows := by
  obtain ⟨opened, -, hinsert⟩ := except_bind_eq_ok.1 h
  obtain ⟨purchaseReturn, hinsert⟩ := result_eq_ok.1 hinsert
  obtain ⟨hid, hnew, hdb, hstatus, hitems⟩ := insertReturn_spec hinsert
  have hreturns : db'.buying.purchaseReturns = db.buying.purchaseReturns.save purchaseReturn := by
    rw [hdb]
  have hdraft : purchaseReturn.status ≠ .Cancelled := by
    rw [hstatus]
    decide
  refine
    { fresh := hid ▸ hnew, stock := by rw [hdb], returned := fun itemId => ?_,
      items := fun r hr => ?_ }
  · rw [returnedQuantity_eq, returnedQuantity_eq, hreturns, Table.sum_save_new _ _ _ hnew, counts,
      if_pos hdraft, hitems]
  · rw [hreturns, Table.mem_save] at hr
    rcases hr with rfl | ⟨hr, -⟩
    · exact .inr hitems
    · exact .inl hr

theorem finish_succeeds {snapshot db : Db} (h : RowsOk c snapshot rows)
    (hnew : db.buying.purchaseReturns.find? db.sequences.nextId = none) :
    ∃ db', (createTx c).finish snapshot rows db = .ok db' := by
  obtain ⟨opened, hopen⟩ := h.opened
  obtain ⟨purchaseReturn, db', hinsert, -⟩ :=
    insertReturn_succeeds c opened.1 opened.2 rows hnew
  exact ⟨db', except_bind_eq_ok.2
    ⟨opened, value_eq_ok.2 ⟨_, hopen⟩, result_eq_ok.2 ⟨purchaseReturn, hinsert⟩⟩⟩

theorem loosened_of_closed {db db' : Db} {draft : PurchaseReturn}
    (closed : PurchaseReturn) (hdb : Sound db) (hfind : db.buying.purchaseReturns.find? id = some draft)
    (hdraft : draft.status = .Draft) (hid : closed.id = draft.id)
    (hitems : closed.items = draft.items)
    (hreturns : db'.buying.purchaseReturns = db.buying.purchaseReturns.save closed)
    (hreceipts : db'.stock.goodsReceipts = db.stock.goodsReceipts) : Loosened db db' := by
  have hmem := Table.mem_of_find? hfind
  have hkey : db.buying.purchaseReturns.find? (key closed) = some draft := by
    rw [← hfind, ← Table.key_of_find? hfind]
    exact congrArg _ hid
  refine
    { received := fun itemId => ?_, returned := fun itemId => ?_, returns := fun r hr => ?_,
      receipts := fun g hg => .inl (hreceipts ▸ hg) }
  · rw [receivedQuantity, receivedQuantity, hreceipts]
  · have hnonneg : 0 ≤ net (draws draft.items) itemId := net_nonneg (fun p hp => by
      obtain ⟨i, hi, rfl⟩ := List.mem_map.1 hp
      exact hdb.returns draft hmem i hi) itemId
    have hcounted : counts itemId draft = net (draws draft.items) itemId := by
      rw [counts, if_pos]
      rw [hdraft]
      decide
    have hleft : counts itemId closed ≤ net (draws draft.items) itemId := by
      rw [counts, hitems]
      split
      · exact le_rfl
      · exact hnonneg
    rw [returnedQuantity_eq, returnedQuantity_eq, hreturns, Table.sum_save_over _ _ _ _ hkey]
    omega
  · rw [hreturns, Table.mem_save] at hr
    rcases hr with rfl | ⟨hr, -⟩
    · exact ⟨draft, hmem, hitems⟩
    · exact ⟨r, hr, rfl⟩

theorem loosened_of_complete {userId : Uuid} {now : Instant} {db db' : Db}
    (hdb : Sound db) (h : result (complete id companyId userId now) db = .ok db') :
    Loosened db db' := by
  obtain ⟨completed, hcomplete⟩ := result_eq_ok.1 h
  obtain ⟨draft, invoice, order, warehouseId, hfind, hdraft, -, -, -, -, -, stocks, ms, rfl⟩ :=
    complete_spec hcomplete
  exact loosened_of_closed (completedReturn userId now invoice draft) hdb hfind hdraft rfl rfl rfl
    rfl

theorem loosened_of_cancel {db db' : Db} (hdb : Sound db)
    (h : result (cancel id companyId) db = .ok db') : Loosened db db' := by
  obtain ⟨cancelled, hcancel⟩ := result_eq_ok.1 h
  obtain ⟨draft, hfind, hdraft, rfl⟩ := cancel_spec hcancel
  exact loosened_of_closed { draft with status := .Cancelled } hdb hfind hdraft rfl rfl rfl rfl

theorem loosened_of_receive {c : ReceiptRace.Call} {snapshot db db' : Db}
    {rows : List GoodsReceiptItem} (hrows : ∀ r ∈ rows, 0 ≤ r.receivedQuantity)
    (h : (receiveTx c).finish snapshot rows db = .ok db') : Loosened db db' := by
  obtain ⟨order, -, hsave⟩ := except_bind_eq_ok.1 h
  obtain ⟨receipt, hsave⟩ := result_eq_ok.1 hsave
  obtain ⟨hbuying, hreceipts, rfl, -⟩ :=
    (ReceiptRace.saveReceipt_succeeds c order rows db).of_commits hsave
  refine
    { received := fun id => ?_, returned := fun id => ?_, returns := fun r hr => ?_,
      receipts := fun g hg => ?_ }
  · have hnonneg : 0 ≤ net (receipt.items.map fun i => (i.purchaseOrderItemId, i.receivedQuantity))
        id := net_nonneg (fun p hp => by
      obtain ⟨i, hi, rfl⟩ := List.mem_map.1 hp
      exact hrows i hi) id
    rw [receivedQuantity, receivedQuantity, hreceipts, List.flatMap_append, List.flatMap_singleton,
      List.map_append, net_append]
    omega
  · rw [getReturnedQuantityForOrderItem, getReturnedQuantityForOrderItem, hbuying]
  · rw [hbuying] at hr
    exact ⟨r, hr, rfl⟩
  · rw [hreceipts] at hg
    rcases List.mem_append.1 hg with hg | hg
    · exact .inl hg
    · obtain rfl := List.mem_singleton.1 hg
      exact .inr hrows

/-! ## Steps -/

variable {request : ℕ → Request}

theorem receivedByOrderItem_le {db : Db}
    (h : ∀ g ∈ db.stock.goodsReceipts, ∀ i ∈ g.items, 0 ≤ i.receivedQuantity)
    (companyId purchaseOrderId id : Uuid) :
    receivedByOrderItem db companyId purchaseOrderId id ≤ receivedQuantity db id := by
  let received (g : GoodsReceipt) : List (Uuid × ℤ) :=
    g.items.map fun i => (i.purchaseOrderItemId, i.receivedQuantity)
  have hcounted : receivedByOrderItem db companyId purchaseOrderId id =
      net ((db.stock.goodsReceipts.filter fun r =>
        r.companyId = companyId ∧ r.purchaseOrderId = purchaseOrderId).flatMap received) id := by
    simp only [receivedByOrderItem, net, received, List.filter_map, List.map_map,
      Function.comp_def, ← List.map_flatMap]
  have hall : receivedQuantity db id = (db.stock.goodsReceipts.map fun g => net (received g) id).sum := by
    have hsum := net_filter_flatMap db.stock.goodsReceipts (fun _ => true) received id
    simp only [List.filter_true, if_true] at hsum
    rw [← hsum, receivedQuantity, List.map_flatMap]
  rw [hcounted, hall, net_filter_flatMap]
  refine List.sum_le_sum fun g hg => ?_
  split
  · exact le_rfl
  · refine net_nonneg (fun p hp => ?_) id
    obtain ⟨i, hi, rfl⟩ := List.mem_map.1 hp
    exact h g hg i hi

theorem RowsOk.check {snapshot db : Db} {rows' : List PurchaseReturnItem}
    {line : CreatePurchaseReturnItemDto} (h : RowsOk c snapshot rows)
    (hcheck : (createTx c).check snapshot db rows line = .ok rows') : RowsOk c snapshot rows' := by
  obtain ⟨opened, -, hcheck⟩ := except_bind_eq_ok.1 hcheck
  obtain ⟨_, hcheck⟩ := value_eq_ok.1 hcheck
  obtain ⟨-, row, rfl, hnonneg, hfits⟩ := createItem_spec hcheck
  have hle := receivedByOrderItem_le h.receipts c.companyId opened.2.id row.purchaseOrderItemId
  refine { opened := h.opened, receipts := h.receipts, drawn := ?_, nonneg := fun r hr => ?_ }
  · rw [draws, List.map_append]
    refine h.drawn.append trivial ?_
    rw [returnable]
    omega
  · rcases List.mem_append.1 hr with hr | hr
    · exact h.nonneg r hr
    · rwa [List.mem_singleton.1 hr]

inductive MoveCase (request : ℕ → Request) (held : Lock → Prop) (db : Db) (i : ℕ) :
    LineLabel → Phase → Move Db Lock Phase → Prop
  | quiet {l p m} (hok : Shared.MoveOk (fun _ => False) (PhaseOk request) held db i m) :
    MoveCase request held db i l p m
  | inserted {c snapshot rows db'} (hrows : RowsOk c snapshot rows)
      (hreturned : Returned db db' rows) :
    MoveCase request held db i .commit (.creating (.checking snapshot rows []))
      (.commit db' (.creating .returned))
  | closed {p db'} (hloosened : Loosened db db') :
    MoveCase request held db i .commit (.closing p) (.commit db' (.closing .returned))
  | received {p db'} (hloosened : Loosened db db') :
    MoveCase request held db i .commit (.receiving p) (.commit db' (.receiving .returned))

variable {m : Move Db Lock Phase} {l : LineLabel} {i : ℕ} {held : Lock → Prop}

theorem createMove_cases {db : Db}
    {p : LinePhase Db CreatePurchaseReturnItemDto PurchaseReturnItem Failure} (hdb : Sound db) (hrequest : request i = .create c)
    (h : LineOk (createTx c) (fun _ snapshot _ rows => RowsOk c snapshot rows) held db p)
    (hm : (createTx c).move .creating l p db = some m) :
    Shared.MoveOk (fun _ => False) (PhaseOk request) held db i m ∨
      ∃ snapshot rows db', p = .checking snapshot rows [] ∧ l = .commit ∧
        RowsOk c snapshot rows ∧ Returned db db' rows ∧ m = .commit db' (.creating .returned) := by
  refine (LineOk.move h hm (fun held q hq => ?_) (fun todo htodo => ?_) (fun _ _ _ hrows => hrows)
    (fun _ _ _ _ _ _ _ _ hrows hcheck => hrows.check hcheck)).imp_right ?_
  · simp only [PhaseOk, hrequest]
    exact hq
  · obtain ⟨opened, hopen, -⟩ := except_bind_eq_ok.1 htodo
    obtain ⟨db', hopen⟩ := value_eq_ok.1 hopen
    obtain rfl := openInvoice_spec hopen
    exact { opened := ⟨opened, hopen⟩, receipts := hdb.receipts, drawn := nofun, nonneg := nofun }
  · rintro ⟨snapshot, rows, db', rfl, rfl, hfinish, rfl⟩
    exact ⟨snapshot, rows, db', rfl, rfl, h, finish_spec hfinish, rfl⟩

variable {p : LinePhase Db Unit Unit Failure}

theorem closeMove_cases {db : Db} {body : Db → Except Failure Db}
    (hbody : ∀ db', body db = .ok db' → Loosened db db')
    (hok : ∀ held q, LineOk (LineTx.locking (Lock.purchaseReturn id) body) (fun _ _ _ _ => True)
      held db q → PhaseOk request held db i (.closing q))
    (h : LineOk (LineTx.locking (Lock.purchaseReturn id) body) (fun _ _ _ _ => True) held db p)
    (hm : (LineTx.locking (Lock.purchaseReturn id) body).move .closing l p db = some m) :
    Shared.MoveOk (fun _ => False) (PhaseOk request) held db i m ∨
      ∃ snapshot rows db', p = .checking snapshot rows [] ∧ l = .commit ∧ Loosened db db' ∧
        m = .commit db' (.closing .returned) := by
  refine (LineOk.move h hm hok (fun _ _ => trivial) (fun _ _ _ _ => trivial)
    (fun _ _ _ _ _ _ _ _ _ _ => trivial)).imp_right ?_
  rintro ⟨snapshot, rows, db', rfl, rfl, hfinish, rfl⟩
  exact ⟨snapshot, rows, db', rfl, rfl, hbody db' hfinish, rfl⟩

theorem receiveMove_cases {db : Db} {c : ReceiptRace.Call} {p : ReceiptRace.Phase}
    (hrequest : request i = .receive c)
    (h : LineOk (receiveTx c) (fun _ _ _ rows => ∀ r ∈ rows, 0 ≤ r.receivedQuantity) held db p)
    (hm : (receiveTx c).move .receiving l p db = some m) :
    Shared.MoveOk (fun _ => False) (PhaseOk request) held db i m ∨
      ∃ snapshot rows db', p = .checking snapshot rows [] ∧ l = .commit ∧ Loosened db db' ∧
        m = .commit db' (.receiving .returned) := by
  refine (LineOk.move h hm (fun held q hq => ?_) (fun _ _ => nofun) (fun _ _ _ hrows => hrows)
    (fun snapshot rows line todo rows' _ _ _ hrows hcheck => ?_)).imp_right ?_
  · simp only [PhaseOk, hrequest]
    exact hq
  · obtain ⟨order, -, hcheck⟩ := except_bind_eq_ok.1 hcheck
    obtain ⟨_, hcheck⟩ := value_eq_ok.1 hcheck
    obtain ⟨-, -, -, row, rfl, -, hnonneg, -⟩ := ReceiptRace.receiveItem_row hcheck
    intro r hr
    rcases List.mem_append.1 hr with hr | hr
    · exact hrows r hr
    · rwa [List.mem_singleton.1 hr]
  · rintro ⟨snapshot, rows, db', rfl, rfl, hfinish, rfl⟩
    exact ⟨snapshot, rows, db', rfl, rfl, loosened_of_receive h hfinish, rfl⟩

theorem closing_of_complete {db : Db} {userId : Uuid} {now : Instant}
    (hrequest : request i = .complete id companyId userId now)
    (h : LineOk (completeTx id companyId userId now) (fun _ _ _ _ => True) held db p) :
    PhaseOk request held db i (.closing p) := by
  simp only [PhaseOk, hrequest]
  exact h

theorem closing_of_cancel {db : Db} (hrequest : request i = .cancel id companyId)
    (h : LineOk (cancelTx id companyId) (fun _ _ _ _ => True) held db p) :
    PhaseOk request held db i (.closing p) := by
  simp only [PhaseOk, hrequest]
  exact h

theorem protocol_cases {db : Db} {p : Phase} (hdb : Sound db) (h : PhaseOk request held db i p)
    (hm : protocol request i l p db = some m) : MoveCase request held db i l p m := by
  unfold protocol at hm
  split at hm
  case h_1 c hrequest =>
    rcases createMove_cases (p := .called) hdb hrequest trivial hm with hok | ⟨_, _, _, hp, -⟩
    · exact .quiet hok
    · cases hp
  case h_2 c p hrequest =>
    simp only [PhaseOk, hrequest] at h
    rcases createMove_cases hdb hrequest h hm with
      hok | ⟨snapshot, rows, db', rfl, rfl, hrows, hreturned, rfl⟩
    · exact .quiet hok
    · exact .inserted hrows hreturned
  case h_3 id companyId userId now hrequest =>
    rcases closeMove_cases (p := .called) (fun _ => loosened_of_complete hdb)
        (fun _ _ => closing_of_complete hrequest) trivial hm with hok | ⟨_, _, _, hp, -⟩
    · exact .quiet hok
    · cases hp
  case h_4 id companyId userId now p hrequest =>
    simp only [PhaseOk, hrequest] at h
    rcases closeMove_cases (fun _ => loosened_of_complete hdb)
        (fun _ _ => closing_of_complete hrequest) h hm with hok | ⟨_, _, _, rfl, rfl, hloosened, rfl⟩
    · exact .quiet hok
    · exact .closed hloosened
  case h_5 id companyId hrequest =>
    rcases closeMove_cases (p := .called) (fun _ => loosened_of_cancel hdb)
        (fun _ _ => closing_of_cancel hrequest) trivial hm with hok | ⟨_, _, _, hp, -⟩
    · exact .quiet hok
    · cases hp
  case h_6 id companyId p hrequest =>
    simp only [PhaseOk, hrequest] at h
    rcases closeMove_cases (fun _ => loosened_of_cancel hdb)
        (fun _ _ => closing_of_cancel hrequest) h hm with hok | ⟨_, _, _, rfl, rfl, hloosened, rfl⟩
    · exact .quiet hok
    · exact .closed hloosened
  case h_7 c hrequest =>
    rcases receiveMove_cases (p := .called) hrequest trivial hm with hok | ⟨_, _, _, hp, -⟩
    · exact .quiet hok
    · cases hp
  case h_8 c p hrequest =>
    simp only [PhaseOk, hrequest] at h
    rcases receiveMove_cases hrequest h hm with hok | ⟨_, _, _, rfl, rfl, hloosened, rfl⟩
    · exact .quiet hok
    · exact .received hloosened
  case h_9 => cases hm

/-- An insert leaves the database sound exactly if its exposed lines fit. -/
theorem notOverReturned_iff {held : Uuid → Prop} {snapshot db db' : Db} (hdb : Sound db)
    (hdrawn : Drawn held (returnable snapshot) (draws rows)) (h : Returned db db' rows) :
    NotOverReturned db' ↔
      ∀ l ∈ draws rows, Exposed (returnable snapshot) (returnable db) (draws rows) l.1 →
        net (draws rows) l.1 ≤ returnable db l.1 := by
  have hreceived : ∀ id, receivedQuantity db' id = receivedQuantity db id := by
    intro id
    rw [receivedQuantity, receivedQuantity, h.stock]
  constructor
  · intro hwithin l hl _
    have hle := hwithin l.1
    rw [h.returned, hreceived] at hle
    rw [returnable]
    omega
  · intro hfit id
    have hroom : 0 ≤ returnable db id := by
      have hle := hdb.within id
      rw [returnable]
      omega
    have hle := hdrawn.net_le_of_exposed hfit hroom
    rw [returnable] at hle
    rw [h.returned, hreceived]
    omega

theorem commit_of_checked {snapshot db : Db}
    (hnew : db.buying.purchaseReturns.find? db.sequences.nextId = none)
    (h : PhaseOk request held db i (.creating (.checking snapshot rows [])))
    (hm : protocol request i .commit (.creating (.checking snapshot rows [])) db = some m) :
    ∃ db', m = .commit db' (.creating .returned) := by
  cases hrequest : request i with
  | create c =>
    simp only [PhaseOk, hrequest] at h
    simp only [protocol, hrequest] at hm
    obtain ⟨db', hfinish⟩ := finish_succeeds h hnew
    exact ⟨db', Option.some.inj (hm.symm.trans (LineTx.move_commit hfinish))⟩
  | _ =>
    simp only [protocol, hrequest] at hm
    cases hm

theorem notOverReturned_iff_exposedLinesFit {s s' : Shared Db Lock Phase} {l : ℕ × LineLabel}
    (h : s.Inv Sound (PhaseOk request)) (hs : (machine request).step s l = some s') :
    NotOverReturned s'.db ↔ ExposedLinesFit s l := by
  obtain ⟨i, l⟩ := l
  obtain ⟨m, hm, hmove⟩ := Shared.step_move hs
  have hi := h.phase i
  generalize hp : s.phase i = p at hi hm
  cases protocol_cases h.db hi hm with
  | quiet hok =>
    refine iff_of_true (by rw [hok.db_eq hmove]; exact h.db.within) ?_
    unfold ExposedLinesFit
    split
    · rename_i heq
      obtain ⟨rfl, rfl⟩ := Prod.mk.inj heq
      rw [hp]
      split
      · -- Only an id that is taken keeps a checked return from being inserted.
        intro hnew
        obtain ⟨db', rfl⟩ := commit_of_checked hnew hi hm
        exact hok.1.elim
      · trivial
    · trivial
  | inserted hrows hreturned =>
    cases hmove
    rw [notOverReturned_iff h.db hrows.drawn hreturned]
    simp only [ExposedLinesFit, hp]
    exact ⟨fun hfit _ => hfit, fun hfit => hfit hreturned.fresh⟩
  | closed hloosened =>
    cases hmove
    refine iff_of_true (hloosened.sound h.db).within ?_
    simp only [ExposedLinesFit, hp]
  | received hloosened =>
    cases hmove
    refine iff_of_true (hloosened.sound h.db).within ?_
    simp only [ExposedLinesFit, hp]

theorem PhaseOk.of_commit {db : Db} {j : ℕ} {p : Phase}
    (hp : PhaseOk request held db j p) (db' : Db) : PhaseOk request held db' j p := by
  unfold PhaseOk at hp ⊢
  split at hp
  · exact hp.mono fun _ _ hrows => hrows
  · exact hp.mono fun _ _ hrows => hrows
  · exact hp.mono fun _ _ hrows => hrows
  · exact hp.mono fun _ _ hrows => hrows
  · trivial

theorem inv_step {s s' : Shared Db Lock Phase} {l : ℕ × LineLabel}
    (h : s.Inv Sound (PhaseOk request)) (hs : (machine request).step s l = some s')
    (hwithin : NotOverReturned s'.db) : s'.Inv Sound (PhaseOk request) := by
  obtain ⟨i, l⟩ := l
  have hi := h.phase i
  generalize hp : s.phase i = p at hi
  have hdone : ∀ db, PhaseOk request (fun _ => False) db i (.creating .returned) ∧
      PhaseOk request (fun _ => False) db i (.closing .returned) ∧
      PhaseOk request (fun _ => False) db i (.receiving .returned) := by
    intro db
    unfold PhaseOk
    cases request i <;> exact ⟨trivial, trivial, trivial⟩
  refine h.step hs (fun m hm => ?_) fun db' q _ j _ held _ hj => hj.of_commit db'
  obtain ⟨m', hm', hmove⟩ := Option.bind_eq_some_iff.1 hs
  obtain rfl := Option.some.inj (hm.symm.trans hm')
  rw [hp] at hm
  cases protocol_cases h.db hi hm with
  | quiet hok =>
    cases m with
    | commit db' q => exact hok.1.elim
    | _ => exact hok
  | inserted hrows hreturned =>
    cases hmove
    refine ⟨{ within := hwithin, returns := fun r hr i hi => ?_, receipts := ?_ }, (hdone _).1⟩
    · rcases hreturned.items r hr with hr | hitems
      · exact h.db.returns r hr i hi
      · exact hrows.nonneg i (hitems ▸ hi)
    · rw [hreturned.stock]
      exact h.db.receipts
  | closed hloosened => exact ⟨hloosened.sound h.db, (hdone _).2.1⟩
  | received hloosened => exact ⟨hloosened.sound h.db, (hdone _).2.2⟩

/-! ## Runs -/

/-- Returned within what was received. Any number of returns may be made, completed
and cancelled side by side, and goods received, each with any list of lines. No order item
is returned beyond what was received of it in any state of a run exactly when, for each
return that is inserted, its lines on an item fit what can still be returned of it wherever
two of them name the item or less can be returned of it than at the return's first read. -/
theorem within_received_iff (request : ℕ → Request) {db : Db} (hdb : Sound db)
    {ls : List (ℕ × LineLabel)} {s : Shared Db Lock Phase}
    (hrun : (machine request).Run (.start db .called) ls s) :
    (∀ ks, ks <+: ls → ∀ s₁, (machine request).Run (.start db .called) ks s₁ →
        NotOverReturned s₁.db) ↔
      (machine request).RunWith ExposedLinesFit (.start db .called) ls s := by
  have hstart : (Shared.start db .called : Shared Db Lock Phase).Inv Sound (PhaseOk request) := by
    refine Shared.inv_start hdb fun i held => ?_
    unfold PhaseOk
    split <;> trivial
  refine Machine.prefixes_iff_runWith (fun s l s' h hc hs => ?_) (fun _ h => h.db.within)
    (fun _ _ _ h hs hwithin => (notOverReturned_iff_exposedLinesFit h hs).1 hwithin) hstart hrun
  exact inv_step h hs ((notOverReturned_iff_exposedLinesFit h hs).2 hc)

/-! An order of ten pieces that is received, returned in two parts of which one is
completed and one cancelled, and returned whole by two requests at once. -/

namespace ReturnDemo

def order : PurchaseOrder := { ReceiptRace.ReceiptDemo.order with warehouseId := some 20 }

def invoice : PurchaseInvoice :=
  { id := 50, invoiceNumber := "PINV-2026-000001", companyId := 10, supplierId := 40,
    purchaseOrderId := 70, status := .Posted, grandTotal := 10000, paidAmount := 0,
    creditedAmount := 0, balanceAmount := 10000, currency := "MMK", updatedBy := none,
    postedAt := none, postedBy := none, voidedAt := none, voidedBy := none, voidReason := none }

def db : Db where
  master := ReceiptRace.ReceiptDemo.db.master
  buying := { purchaseOrders := .ofRows [order], purchaseInvoices := .ofRows [invoice] }

def now : Instant := { date := ⟨2026, 3, 1⟩, millis := 0 }

def giveBack (quantity : ℕ) : Call where
  companyId := 10
  userId := 99
  now := now
  dto :=
    { supplierId := 40, purchaseInvoiceId := 50, reason := "damaged"
      items := [{ purchaseOrderItemId := 71, quantity := quantity }] }

def requests : ℕ → Request
  | 0 => .receive (ReceiptRace.ReceiptDemo.receive [ReceiptRace.ReceiptDemo.line 10])
  | 1 => .create (giveBack 6)
  | 2 => .create (giveBack 4)
  | 3 => .complete 1 10 99 now
  | 4 => .cancel 2 10
  | _ => .create (giveBack 10)

def make (i : ℕ) : List (ℕ × LineLabel) := [(i, .start), (i, .lock), (i, .check), (i, .commit)]

theorem sound : Sound db where
  within _ := le_rfl
  returns _ hr := absurd hr List.not_mem_nil
  receipts _ hg := absurd hg List.not_mem_nil

end ReturnDemo

open ReturnDemo in
theorem within_received_iff_completed :
    ∃ s, (machine requests).Run (.start db .called)
        (make 0 ++ make 1 ++ make 3 ++ make 2 ++ make 4) s ∧
      receivedQuantity s.db 71 = 10 ∧ getReturnedQuantityForOrderItem s.db 71 = 6 ∧
      NotOverReturned s.db := by
  obtain ⟨s, hrun, hs⟩ := Machine.exists_runWith (machine requests) ExposedLinesFit
    (.start db .called) (make 0 ++ make 1 ++ make 3 ++ make 2 ++ make 4)
    (fun s => receivedQuantity s.db 71 = 10 && getReturnedQuantityForOrderItem s.db 71 = 6)
    (by decide +kernel)
  simp only [Bool.and_eq_true, decide_eq_true_eq] at hs
  exact ⟨s, hrun.run, hs.1, hs.2,
    (within_received_iff requests sound hrun.run).2 hrun _ (List.prefix_refl _) s hrun.run⟩

open ReturnDemo in
/-- Two requests open the invoice of the received order, one after the other locks the
item, and both return all of it: twenty of ten. -/
theorem waiting_return_over_returns :
    ∃ s, (machine requests).Run (.start db .called)
        (make 0 ++ [(5, .start), (6, .start), (5, .lock), (5, .check), (5, .commit), (6, .lock),
          (6, .check), (6, .commit)]) s ∧
      receivedQuantity s.db 71 = 10 ∧ getReturnedQuantityForOrderItem s.db 71 = 20 ∧
      ¬ NotOverReturned s.db := by
  obtain ⟨s, hrun, hs⟩ := Machine.exists_runWith (machine requests) (fun _ _ => True)
    (.start db .called)
    (make 0 ++ [(5, .start), (6, .start), (5, .lock), (5, .check), (5, .commit), (6, .lock),
      (6, .check), (6, .commit)])
    (fun s => receivedQuantity s.db 71 = 10 && getReturnedQuantityForOrderItem s.db 71 = 20)
    (by decide +kernel)
  simp only [Bool.and_eq_true, decide_eq_true_eq] at hs
  refine ⟨s, hrun, hs.1, hs.2, fun hwithin => ?_⟩
  have hle := hwithin 71
  rw [hs.1, hs.2] at hle
  omega

end FashionErp.PurchaseReturnRace
