/-
`purchase/services/purchase-returns.service.ts`: returning received goods to a
supplier.

`create` writes a draft return against an invoice and its purchase order.
-/
import FashionErp.Inventory.StockLock
import Mathlib.Data.List.Sort

namespace FashionErp.PurchaseReturnsService

open Lib Lib.Tx

structure CreatePurchaseReturnItemDto where
  purchaseOrderItemId : Uuid
  quantity : ℕ

structure CreatePurchaseReturnDto where
  supplierId : Uuid
  purchaseInvoiceId : Uuid
  reason : String
  items : List CreatePurchaseReturnItemDto

/-- `manager.save(PurchaseReturn, purchaseReturn)`. -/
def saveReturn (purchaseReturn : PurchaseReturn) : DbTx Unit :=
  modify fun db =>
    { db with buying := { db.buying with
        purchaseReturns := db.buying.purchaseReturns.save purchaseReturn } }

/-! ## `create` -/

def receivedByOrderItem (db : Db) (companyId purchaseOrderId purchaseOrderItemId : Uuid) : ℤ :=
  let receipts := db.stock.goodsReceipts.filter fun r =>
    r.companyId = companyId ∧ r.purchaseOrderId = purchaseOrderId
  (((receipts.flatMap (·.items)).filter fun i => i.purchaseOrderItemId = purchaseOrderItemId).map
    (·.receivedQuantity)).sum

def getReturnedQuantityForOrderItem (db : Db) (purchaseOrderItemId : Uuid) : ℤ :=
  let returns := db.buying.purchaseReturns.rows.filter fun r => r.status ≠ .Cancelled
  (((returns.flatMap (·.items)).filter fun i => i.purchaseOrderItemId = purchaseOrderItemId).map
    (·.quantity)).sum

/-- One iteration of the loop of `create`: check a line and push its row. -/
def createItem (companyId : Uuid) (purchaseOrder : PurchaseOrder)
    (itemsToCreate : List PurchaseReturnItem) (itemDto : CreatePurchaseReturnItemDto) :
    DbTx (List PurchaseReturnItem) := do
  let db ← get
  let itemId := itemDto.purchaseOrderItemId
  let orderId := purchaseOrder.id
  let purchaseOrderItem ← orReject (purchaseOrder.items.find? fun poi => poi.id = itemId)
    (appException .ValidationError
      s!"purchaseOrderItemId {itemId} does not belong to purchase order {orderId}")
  let receivedQuantity := receivedByOrderItem db companyId orderId itemId
  rejectIf (receivedQuantity ≤ 0)
    (appException .Conflict
      s!"Purchase order item {itemId} has no received quantity available to return")
  let remainingReturnable := receivedQuantity - getReturnedQuantityForOrderItem db itemId
  let quantity : ℤ := itemDto.quantity
  rejectIf (remainingReturnable < quantity)
    (appException .Conflict s!"Cannot return {quantity} of purchase order item {itemId}: only {remainingReturnable} remain returnable")
  return itemsToCreate ++
    [{ purchaseOrderItemId := itemId, productVariantId := purchaseOrderItem.productVariantId,
       quantity := quantity, unitCostSnapshot := purchaseOrderItem.unitCostSnapshot,
       lineTotal := purchaseOrderItem.unitCostSnapshot * quantity }]

def generateReturnNumber (companyId : Uuid) (year : ℕ) : DbTx String :=
  nextDocumentNumber .PurchaseReturn "PRTN" companyId year

def create (companyId userId : Uuid) (now : Instant) (dto : CreatePurchaseReturnDto) :
    DbTx PurchaseReturn := do
  let db ← get
  let invoice ← orReject
    ((db.buying.purchaseInvoices.find? dto.purchaseInvoiceId).filter fun i =>
      i.companyId = companyId)
    (appException .ValidationError "purchaseInvoiceId does not reference a purchase invoice in the specified company")
  rejectIf (dto.supplierId ≠ invoice.supplierId)
    (appException .ValidationError
      "supplierId does not match the selected purchase invoice supplier")
  let purchaseOrder ← orReject
    ((db.buying.purchaseOrders.find? invoice.purchaseOrderId).filter fun o =>
      o.companyId = companyId)
    (appException .ValidationError
      "The selected purchase invoice is missing its source purchase order")
  let sortedItems := dto.items.insertionSort
    fun a b => a.purchaseOrderItemId ≤ b.purchaseOrderItemId
  let itemsToCreate ← sortedItems.foldlM (createItem companyId purchaseOrder) []
  let returnNumber ← generateReturnNumber companyId now.getUTCFullYear
  let id ← randomUUID
  let db ← get
  rejectIf (db.buying.purchaseReturns.find? id).isSome (.duplicateEntry "PRIMARY")
  let purchaseReturn : PurchaseReturn :=
    { id := id, returnNumber := returnNumber, companyId := companyId,
      branchId := purchaseOrder.branchId, supplierId := invoice.supplierId,
      purchaseOrderId := purchaseOrder.id, purchaseInvoiceId := invoice.id, status := .Draft,
      reason := dto.reason, subtotal := (itemsToCreate.map (·.lineTotal)).sum,
      creditAppliedAmount := 0, supplierCreditAmount := 0, currency := invoice.currency,
      createdBy := some userId, completedBy := none, completedAt := none,
      items := itemsToCreate }
  saveReturn purchaseReturn
  return purchaseReturn

/-! ## `complete` -/

/-- The locked read of a draft return, as `complete` and `cancel` make it. -/
def findDraft (verb : String) (id companyId : Uuid) : DbTx PurchaseReturn := do
  let db ← get
  let purchaseReturn ← orReject
    ((db.buying.purchaseReturns.find? id).filter fun r => r.companyId = companyId)
    (appException .NotFound "Purchase return not found")
  let current := purchaseReturn.status.value
  rejectIf (purchaseReturn.status ≠ .Draft)
    (appException .UnprocessableEntity s!"Cannot {verb} a purchase return in status {current}")
  return purchaseReturn

def returnMovement (userId purchaseReturnId warehouseId : Uuid) (item : PurchaseReturnItem)
    (quantityAfter : ℤ) : StockMovement where
  warehouseId := warehouseId
  productVariantId := item.productVariantId
  movementType := .PurchaseReturn
  quantityChange := -item.quantity
  quantityAfter := quantityAfter
  referenceType := .PurchaseReturn
  referenceId := purchaseReturnId
  createdBy := some userId

/-- One iteration of the loop of `complete`. -/
def takeItem (userId warehouseId : Uuid) (purchaseReturn : PurchaseReturn)
    (item : PurchaseReturnItem) : DbTx Unit := do
  let stock ← lockWarehouseStockRow (stockKey warehouseId item.productVariantId)
  let number := purchaseReturn.returnNumber
  let variant := item.productVariantId
  let available := stock.onHandQuantity
  rejectIf (stock.onHandQuantity < item.quantity)
    (appException .Conflict s!"Cannot complete return {number}: warehouse stock for variant {variant} is only {available}")
  let newQuantity := stock.onHandQuantity - item.quantity
  updateOnHand stock newQuantity
  saveMovement (returnMovement userId purchaseReturn.id warehouseId item newQuantity)

/-- `creditAppliedAmount`. -/
def creditApplied (invoice : PurchaseInvoice) (returnAmount : Cents) : Cents :=
  min invoice.balanceAmount returnAmount

/-- `supplierCreditAmount`. -/
def supplierCredit (invoice : PurchaseInvoice) (returnAmount : Cents) : Cents :=
  max 0 (returnAmount - invoice.balanceAmount)

def newBalance (invoice : PurchaseInvoice) (returnAmount : Cents) : Cents :=
  max 0 (invoice.grandTotal - invoice.paidAmount -
    (invoice.creditedAmount + creditApplied invoice returnAmount))

/-- The invoice `complete` leaves. -/
def creditedInvoice (userId : Uuid) (returnAmount : Cents) (invoice : PurchaseInvoice) :
    PurchaseInvoice :=
  { invoice with
    creditedAmount := invoice.creditedAmount + creditApplied invoice returnAmount
    balanceAmount := newBalance invoice returnAmount
    updatedBy := some userId }

/-- The return `complete` leaves. -/
def completedReturn (userId : Uuid) (now : Instant) (invoice : PurchaseInvoice)
    (purchaseReturn : PurchaseReturn) : PurchaseReturn :=
  { purchaseReturn with
    status := .Completed
    creditAppliedAmount := creditApplied invoice purchaseReturn.subtotal
    supplierCreditAmount := supplierCredit invoice purchaseReturn.subtotal
    completedBy := some userId
    completedAt := some now }

def sortedItems (purchaseReturn : PurchaseReturn) : List PurchaseReturnItem :=
  purchaseReturn.items.insertionSort fun a b => a.productVariantId ≤ b.productVariantId

def complete (id companyId userId : Uuid) (now : Instant) : DbTx PurchaseReturn := do
  let purchaseReturn ← findDraft "complete" id companyId
  let db ← get
  let invoice ← orReject
    ((db.buying.purchaseInvoices.find? purchaseReturn.purchaseInvoiceId).filter fun i =>
      i.companyId = companyId)
    (appException .NotFound "Purchase invoice linked to the return was not found")
  let purchaseOrder ← orReject
    ((db.buying.purchaseOrders.find? purchaseReturn.purchaseOrderId).filter fun o =>
      o.companyId = companyId)
    (appException .NotFound "Purchase order linked to the return was not found")
  let warehouseId ← orReject purchaseOrder.warehouseId
    (appException .ValidationError "This purchase order has no warehouse assigned, so the return cannot reduce stock automatically")
  (sortedItems purchaseReturn).forM (takeItem userId warehouseId purchaseReturn)
  savePurchaseInvoice (creditedInvoice userId purchaseReturn.subtotal invoice)
  savePurchaseOrder { purchaseOrder with
    balanceAmount := newBalance invoice purchaseReturn.subtotal, updatedBy := some userId }
  saveReturn (completedReturn userId now invoice purchaseReturn)
  return completedReturn userId now invoice purchaseReturn

def cancel (id companyId : Uuid) : DbTx PurchaseReturn := do
  let purchaseReturn ← findDraft "cancel" id companyId
  let cancelled := { purchaseReturn with status := .Cancelled }
  saveReturn cancelled
  return cancelled

/-! ## What a return takes from the order items -/

def draws (items : List PurchaseReturnItem) : List (Uuid × ℤ) :=
  items.map fun i => (i.purchaseOrderItemId, i.quantity)

def counts (purchaseOrderItemId : Uuid) (purchaseReturn : PurchaseReturn) : ℤ :=
  if purchaseReturn.status ≠ .Cancelled then net (draws purchaseReturn.items) purchaseOrderItemId
  else 0

theorem returnedQuantity_eq (db : Db) (purchaseOrderItemId : Uuid) :
    getReturnedQuantityForOrderItem db purchaseOrderItemId =
      db.buying.purchaseReturns.sum (counts purchaseOrderItemId) := by
  have hnet : getReturnedQuantityForOrderItem db purchaseOrderItemId =
      net ((db.buying.purchaseReturns.rows.filter fun r => r.status ≠ .Cancelled).flatMap
        fun r => draws r.items) purchaseOrderItemId := by
    simp only [getReturnedQuantityForOrderItem, net, draws, List.filter_map, List.map_map,
      Function.comp_def, ← List.map_flatMap]
  rw [hnet, net_filter_flatMap]
  simp only [Table.sum, decide_eq_true_eq]
  rfl

variable {companyId userId : Uuid} {rows rows' : List PurchaseReturnItem} {db db' : Db}
  {purchaseReturn : PurchaseReturn}

theorem createItem_spec {purchaseOrder : PurchaseOrder} {itemDto : CreatePurchaseReturnItemDto}
    (h : Commits (createItem companyId purchaseOrder rows itemDto) db rows' db') :
    db = db' ∧ ∃ row, rows' = rows ++ [row] ∧ 0 ≤ row.quantity ∧
      row.quantity ≤ receivedByOrderItem db companyId purchaseOrder.id row.purchaseOrderItemId -
        getReturnedQuantityForOrderItem db row.purchaseOrderItemId := by
  simp only [createItem, commits_bind, commits_get, commits_orReject, commits_rejectIf,
    commits_pure] at h
  obtain ⟨_, _, ⟨rfl, rfl⟩, item, _, ⟨-, rfl⟩, _, _, ⟨-, rfl⟩, _, _, ⟨hfits, rfl⟩, rfl, rfl⟩ := h
  exact ⟨rfl, _, rfl, Int.natCast_nonneg _, Int.not_lt.1 hfits⟩

def ForItem (order : PurchaseOrder) (row : PurchaseReturnItem) : Prop :=
  ∃ item ∈ order.items, row.purchaseOrderItemId = item.id ∧
    row.productVariantId = item.productVariantId

variable {line : CreatePurchaseReturnItemDto}

theorem createItem_forItem {order : PurchaseOrder}
    (h : Commits (createItem companyId order rows line) db rows' db') :
    db = db' ∧ ∃ row, rows' = rows ++ [row] ∧ ForItem order row := by
  simp only [createItem, commits_bind, commits_get, commits_orReject, commits_rejectIf,
    commits_pure] at h
  obtain ⟨_, _, ⟨rfl, rfl⟩, item, _, ⟨hitem, rfl⟩, _, _, ⟨-, rfl⟩, _, _, ⟨-, rfl⟩, rfl, rfl⟩ := h
  have hid : item.id = line.purchaseOrderItemId := by simpa using List.find?_some hitem
  exact ⟨rfl, _, rfl, item, List.mem_of_find?_eq_some hitem, hid.symm, rfl⟩

variable {dto : CreatePurchaseReturnDto} {now : Instant}

/-- What a creation does: a new draft return against an order, with a row for each
line. -/
theorem create_spec {r : PurchaseReturn} (h : Commits (create companyId userId now dto) db r db') :
    ∃ order, db.buying.purchaseOrders.find? r.purchaseOrderId = some order ∧
      db.buying.purchaseReturns.find? r.id = none ∧ r.status = .Draft ∧
      (∀ row ∈ r.items, ForItem order row) ∧
      db' = { db with
        buying := { db.buying with purchaseReturns := db.buying.purchaseReturns.save r }
        sequences := db'.sequences } := by
  simp only [create, generateReturnNumber, saveReturn, commits_bind, commits_get, commits_orReject,
    commits_rejectIf, commits_modify, commits_pure] at h
  obtain ⟨_, _, ⟨rfl, rfl⟩, invoice, _, ⟨-, rfl⟩, _, _, ⟨-, rfl⟩, order, _, ⟨horder, rfl⟩, rows, db₁,
    hloop, number, db₂, hnumber, id, db₃, hid, _, _, ⟨rfl, rfl⟩, _, _, ⟨hnew, rfl⟩, _, _, rfl, rfl,
    rfl⟩ := h
  obtain ⟨rfl, hrows⟩ : db = db₁ ∧ ∀ row ∈ rows, ForItem order row := by
    refine foldlM_invariant (fun _ rows s => db = s ∧ ∀ row ∈ rows, ForItem order row)
      (fun done line _ rows s rows' s' _ hI hc => ?_) ⟨rfl, fun _ hrow => absurd hrow List.not_mem_nil⟩ hloop
    obtain ⟨rfl, hrows⟩ := hI
    obtain ⟨rfl, row, rfl, hrow⟩ := createItem_forItem hc
    refine ⟨rfl, fun x hx => ?_⟩
    rcases List.mem_append.1 hx with hx | hx
    · exact hrows x hx
    · rw [List.mem_singleton.1 hx]
      exact hrow
  have hseq₂ := nextDocumentNumber_spec hnumber
  have hseq₃ := (randomUUID_spec hid).1
  rw [SequencesOnly] at hseq₂ hseq₃
  have hbuying : db₃.buying = db.buying := by rw [hseq₃, hseq₂]
  have hfind := (Option.filter_eq_some_iff.1 horder).1
  have horderId : order.id = invoice.purchaseOrderId := Table.key_of_find? hfind
  refine ⟨order, ?_, ?_, rfl, hrows, ?_⟩
  · rw [← horderId] at hfind
    exact hfind
  · rw [← hbuying]
    exact Option.not_isSome_iff_eq_none.1 hnew
  · rw [hseq₃, hseq₂]

theorem createItem_lineTotal {order : PurchaseOrder}
    (h : Commits (createItem companyId order rows line) db rows' db') :
    ∃ row, rows' = rows ++ [row] ∧ ∃ item ∈ order.items,
      row.lineTotal = item.unitCostSnapshot * (line.quantity : ℤ) := by
  simp only [createItem, commits_bind, commits_get, commits_orReject, commits_rejectIf,
    commits_pure] at h
  obtain ⟨_, _, ⟨rfl, rfl⟩, item, _, ⟨hitem, rfl⟩, _, _, ⟨-, rfl⟩, _, _, ⟨-, rfl⟩, rfl, rfl⟩ := h
  exact ⟨_, rfl, item, List.mem_of_find?_eq_some hitem, rfl⟩

/-- A draft is worth nothing negative where no item costs anything negative. -/
theorem create_subtotal_nonneg {r : PurchaseReturn}
    (hcosts : ∀ o ∈ db.buying.purchaseOrders.rows, ∀ item ∈ o.items, 0 ≤ item.unitCostSnapshot)
    (h : Commits (create companyId userId now dto) db r db') : 0 ≤ r.subtotal := by
  simp only [create, generateReturnNumber, saveReturn, commits_bind, commits_get, commits_orReject,
    commits_rejectIf, commits_modify, commits_pure] at h
  obtain ⟨_, _, ⟨rfl, rfl⟩, invoice, _, ⟨-, rfl⟩, _, _, ⟨-, rfl⟩, order, _, ⟨horder, rfl⟩, rows, db₁,
    hloop, number, db₂, -, id, db₃, -, _, _, ⟨rfl, rfl⟩, _, _, ⟨-, rfl⟩, _, _, rfl, rfl, rfl⟩ := h
  have hmem := Table.mem_of_find? (Option.filter_eq_some_iff.1 horder).1
  have hrows : ∀ row ∈ rows, 0 ≤ row.lineTotal := by
    refine foldlM_invariant (fun _ rows _ => ∀ row ∈ rows, 0 ≤ row.lineTotal)
      (fun done line _ rows s rows' s' _ hI hc x hx => ?_)
      (fun _ hrow => absurd hrow List.not_mem_nil) hloop
    obtain ⟨row, rfl, item, hitem, htotal⟩ := createItem_lineTotal hc
    rcases List.mem_append.1 hx with hx | hx
    · exact hI x hx
    · rw [List.mem_singleton.1 hx, htotal]
      exact Int.mul_nonneg (hcosts order hmem item hitem) (Int.natCast_nonneg _)
  refine List.sum_nonneg fun total htotal => ?_
  obtain ⟨row, hrow, rfl⟩ := List.mem_map.1 htotal
  exact hrows row hrow

theorem cancel_spec {id : Uuid} (h : Commits (cancel id companyId) db purchaseReturn db') :
    ∃ draft, db.buying.purchaseReturns.find? id = some draft ∧ draft.status = .Draft ∧
      db' = { db with buying := { db.buying with
        purchaseReturns := db.buying.purchaseReturns.save { draft with status := .Cancelled } } } := by
  simp only [cancel, findDraft, saveReturn, commits_bind, commits_get, commits_orReject,
    commits_rejectIf, commits_modify, commits_pure] at h
  obtain ⟨draft, _, ⟨_, _, ⟨rfl, rfl⟩, found, _, ⟨hfind, rfl⟩, _, _, ⟨hstatus, rfl⟩, rfl, rfl⟩, _,
    _, rfl, -, rfl⟩ := h
  exact ⟨draft, (Option.filter_eq_some_iff.1 hfind).1, not_not.1 hstatus, rfl⟩

/-! ## What a completed return posts -/

def postings (warehouseId : Uuid) (items : List PurchaseReturnItem) : List (StockKey × ℤ) :=
  items.map fun i => (stockKey warehouseId i.productVariantId, -i.quantity)

theorem takeItem_posts {warehouseId : Uuid} {item : PurchaseReturnItem} {u : Unit}
    (h : Commits (takeItem userId warehouseId purchaseReturn item) db u db') :
    (∃ stocks ms, db' = (db.setStocks stocks).addMovements ms) ∧
      Posts db.stock db'.stock (postings warehouseId [item]) ∧
      item.quantity ≤
        onHandIn db.stock.warehouseStock (stockKey warehouseId item.productVariantId) := by
  simp only [takeItem, commits_bind, commits_rejectIf, not_lt, saveMovement, commits_modify] at h
  obtain ⟨stock, db₁, hlock, _, _, ⟨hcov, rfl⟩, _, db₂, hupd, rfl⟩ := h
  obtain ⟨stocks, rfl, hin⟩ := (lockWarehouseStockRow_succeeds _ db).of_commits hlock
  have hrow : (db.setStocks stocks).stock.warehouseStock.find? (key stock) = some stock := by
    rw [Table.key_of_find? hin.row]
    exact hin.row
  obtain rfl := (commits_updateOnHand stock hrow _ _).1 hupd
  refine ⟨⟨_, _, rfl⟩, posts_iff.2 ⟨fun k => ?_, ?_⟩, ?_⟩
  · rw [Db.addMovements_stocks, Db.setStocks_stocks, Db.setStocks_stocks,
      onHandIn_save hin.row, hin.onHand, sub_sub_cancel_left, postings, List.map_singleton,
      net_singleton]
  · rw [Db.addMovements_movements, List.map_append]
    rfl
  · rw [← hin.onHand, onHandIn, hin.row]
    exact hcov

theorem takeItems_posts {warehouseId : Uuid} {items : List PurchaseReturnItem} {u : PUnit}
    (h : Commits (items.forM (takeItem userId warehouseId purchaseReturn)) db u db') :
    (∃ stocks ms, db' = (db.setStocks stocks).addMovements ms) ∧
      Posts db.stock db'.stock (postings warehouseId items) ∧
      (db.stock.book.Nonneg → db'.stock.book.Nonneg) := by
  refine forM_invariant (fun done db' =>
    (∃ stocks ms, db' = (db.setStocks stocks).addMovements ms) ∧
      Posts db.stock db'.stock (postings warehouseId done) ∧
      (db.stock.book.Nonneg → db'.stock.book.Nonneg)) ?_
    ⟨⟨db.stock.warehouseStock, [], by simp⟩, Posts.refl _, fun h => h⟩ h
  rintro done item rest _ s' - ⟨⟨stocks, ms, rfl⟩, hposts, hnonneg⟩ hc
  obtain ⟨⟨stocks', ms', rfl⟩, hitem, hcov⟩ := takeItem_posts hc
  refine ⟨⟨stocks', ms ++ ms', by simp⟩, ?_, fun h k => ?_⟩
  · rw [postings, List.map_append]
    exact hposts.trans hitem
  · -- The line's own row keeps what the check left over; the others stay.
    have hk := hnonneg h k
    rw [hitem, Book.post_balance, postings, List.map_singleton, net_singleton]
    by_cases hkey : stockKey warehouseId item.productVariantId = k
    · subst hkey
      rw [if_pos rfl]
      exact Int.sub_nonneg_of_le hcov
    · rw [if_neg hkey, add_zero]
      exact hk

theorem complete_spec {id : Uuid} {completed : PurchaseReturn}
    (h : Commits (complete id companyId userId now) db completed db') :
    ∃ purchaseReturn invoice purchaseOrder warehouseId,
      db.buying.purchaseReturns.find? id = some purchaseReturn ∧
      purchaseReturn.status = .Draft ∧
      db.buying.purchaseInvoices.find? purchaseReturn.purchaseInvoiceId = some invoice ∧
      db.buying.purchaseOrders.find? purchaseReturn.purchaseOrderId = some purchaseOrder ∧
      purchaseOrder.warehouseId = some warehouseId ∧
      Posts db.stock db'.stock (postings warehouseId (sortedItems purchaseReturn)) ∧
      (db.stock.book.Nonneg → db'.stock.book.Nonneg) ∧
      ∃ stocks ms, db' =
        { (db.setStocks stocks).addMovements ms with
          buying := {
            purchaseInvoices := db.buying.purchaseInvoices.save
              (creditedInvoice userId purchaseReturn.subtotal invoice)
            purchaseOrders := db.buying.purchaseOrders.save
              { purchaseOrder with
                balanceAmount := newBalance invoice purchaseReturn.subtotal,
                updatedBy := some userId }
            purchaseReturns := db.buying.purchaseReturns.save
              (completedReturn userId now invoice purchaseReturn) } } := by
  simp only [complete, findDraft, savePurchaseInvoice, savePurchaseOrder, saveReturn, commits_bind,
    commits_get, commits_orReject, commits_rejectIf, commits_modify, commits_pure, not_not,
    Option.filter_eq_some_iff] at h
  obtain ⟨purchaseReturn, _, ⟨_, _, ⟨rfl, rfl⟩, _, _, ⟨⟨hreturn, -⟩, rfl⟩, _, _, ⟨hdraft, rfl⟩,
    rfl, rfl⟩, _, _, ⟨rfl, rfl⟩, invoice, _, ⟨⟨hinvoice, -⟩, rfl⟩, purchaseOrder, _,
    ⟨⟨horder, -⟩, rfl⟩, warehouseId, _, ⟨hwarehouse, rfl⟩, _, db₁, hloop, _, _, rfl, _, _, rfl, _, _, rfl,
    -, rfl⟩ := h
  obtain ⟨⟨stocks, ms, rfl⟩, hposts, hnonneg⟩ := takeItems_posts hloop
  exact ⟨purchaseReturn, invoice, purchaseOrder, warehouseId, hreturn, hdraft, hinvoice, horder,
    hwarehouse, hposts, hnonneg, stocks, ms, rfl⟩

end FashionErp.PurchaseReturnsService
