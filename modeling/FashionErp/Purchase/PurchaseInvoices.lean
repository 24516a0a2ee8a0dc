/-
`purchase/services/purchase-invoices.service.ts`: what the company owes for an
order it has received goods on.

Invoices are not entered: `syncEligibleInvoices` makes a draft for every released
order that has a goods receipt and no invoice yet.
-/
import FashionErp.Core.Db
import Mathlib.Algebra.Order.Ring.Int

namespace FashionErp

open Lib Lib.Tx

namespace PurchaseInvoicesService

def isReleasedPurchaseOrder : PurchaseOrderStatus → Bool
  | .Approved | .Confirmed | .Closed => true
  | _ => false

/-! ## `syncEligibleInvoices` -/

def deriveInvoiceNumber (purchaseOrderNumber : String) : String :=
  match purchaseOrderNumber.toList with
  | 'P' :: 'O' :: '-' :: rest => "PINV-" ++ String.ofList rest
  | _ => purchaseOrderNumber

def goodsReceiptsOf (db : Db) (companyId purchaseOrderId : Uuid) : List GoodsReceipt :=
  db.stock.goodsReceipts.filter fun r =>
    r.companyId = companyId ∧ r.purchaseOrderId = purchaseOrderId

/-- `existingByPurchaseOrder.has(order.id)`: an invoice of any status counts. -/
def hasInvoice (db : Db) (companyId purchaseOrderId : Uuid) : Bool :=
  db.buying.purchaseInvoices.rows.any fun i =>
    i.companyId = companyId ∧ i.purchaseOrderId = purchaseOrderId

/-- The orders `syncEligibleInvoices` makes an invoice for. -/
def eligibleOrders (db : Db) (companyId : Uuid) (supplierId : Option Uuid) :
    List PurchaseOrder :=
  db.buying.purchaseOrders.rows.filter fun order =>
    order.companyId = companyId && isReleasedPurchaseOrder order.status &&
      supplierId.all (fun s => order.supplierId = s) &&
      !(goodsReceiptsOf db companyId order.id).isEmpty && !hasInvoice db companyId order.id

def draftInvoice (id : Uuid) (order : PurchaseOrder) : PurchaseInvoice where
  id := id
  invoiceNumber := deriveInvoiceNumber order.purchaseOrderNumber
  companyId := order.companyId
  supplierId := order.supplierId
  purchaseOrderId := order.id
  status := .Draft
  grandTotal := order.grandTotal
  paidAmount := order.paidAmount
  creditedAmount := 0
  balanceAmount := order.balanceAmount
  currency := order.currency
  updatedBy := order.updatedBy
  postedAt := none
  postedBy := none
  voidedAt := none
  voidedBy := none
  voidReason := none

def insertInvoice (order : PurchaseOrder) : DbTx Unit := do
  let id ← randomUUID
  let db ← get
  rejectIf (db.buying.purchaseInvoices.find? id).isSome (.duplicateEntry "PRIMARY")
  rejectIf (db.buying.purchaseInvoices.rows.any fun i =>
      i.companyId = order.companyId ∧
        i.invoiceNumber = deriveInvoiceNumber order.purchaseOrderNumber)
    (.duplicateEntry "purchase_invoices.company_id_invoice_number")
  savePurchaseInvoice (draftInvoice id order)

def syncEligibleInvoices (companyId : Uuid) (supplierId : Option Uuid) : DbTx Unit := do
  let db ← get
  (eligibleOrders db companyId supplierId).forM insertInvoice

/-! ## `post` and `void`, after the synchronisation -/

/-- The read of `findEntityByIdInCompany`. -/
def findEntity (id companyId : Uuid) : DbTx PurchaseInvoice := do
  let db ← get
  orReject ((db.buying.purchaseInvoices.find? id).filter fun i => i.companyId = companyId)
    (appException .NotFound "Purchase invoice not found")

def findOrder (invoice : PurchaseInvoice) (companyId : Uuid) : DbTx PurchaseOrder := do
  let db ← get
  orReject ((db.buying.purchaseOrders.find? invoice.purchaseOrderId).filter fun o =>
      o.companyId = companyId)
    (appException .NotFound "Purchase order linked to the invoice was not found")

/-- What `post` writes into the invoice. -/
def markPosted (userId : Uuid) (now : Instant) (invoice : PurchaseInvoice) : PurchaseInvoice :=
  { invoice with
    status := .Posted, postedAt := some now, postedBy := some userId, updatedBy := some userId }

def post (id companyId userId : Uuid) (now : Instant) : DbTx PurchaseInvoice := do
  let invoice ← findEntity id companyId
  let current := invoice.status.value
  rejectIf (invoice.status ≠ .Draft)
    (appException .Conflict s!"Cannot post a {current} purchase invoice")
  let purchaseOrder ← findOrder invoice companyId
  rejectIf (isReleasedPurchaseOrder purchaseOrder.status = false)
    (appException .Conflict "Only approved purchase orders can be posted to AP invoices")
  let db ← get
  rejectIf (goodsReceiptsOf db companyId invoice.purchaseOrderId).isEmpty
    (appException .Conflict "Cannot post a purchase invoice before any goods receipt exists")
  savePurchaseInvoice (markPosted userId now invoice)
  return markPosted userId now invoice

/-- What `void` writes into the invoice. -/
def markVoided (userId : Uuid) (now : Instant) (reason : String) (invoice : PurchaseInvoice) :
    PurchaseInvoice :=
  { invoice with
    status := .Voided, voidedAt := some now, voidedBy := some userId, voidReason := some reason,
    balanceAmount := 0, updatedBy := some userId }

def void (id companyId userId : Uuid) (now : Instant) (reason : String) :
    DbTx PurchaseInvoice := do
  let invoice ← findEntity id companyId
  rejectIf (invoice.status = .Voided)
    (appException .Conflict "Purchase invoice is already voided")
  rejectIf (0 < invoice.paidAmount ∨ 0 < invoice.creditedAmount)
    (appException .Conflict "Cannot void a purchase invoice that already has payment or credit activity")
  savePurchaseInvoice (markVoided userId now reason invoice)
  return markVoided userId now reason invoice

/-! ## `applyPayment` and `unapplyPayment` -/

/-- The invoice once `paid` of it is paid. -/
def settledInvoice (userId : Uuid) (paid : Cents) (invoice : PurchaseInvoice) : PurchaseInvoice :=
  { invoice with
    paidAmount := paid
    balanceAmount := invoice.grandTotal - invoice.creditedAmount - paid
    updatedBy := some userId }

def settledOrder (userId : Uuid) (paid : Cents) (invoice : PurchaseInvoice)
    (purchaseOrder : PurchaseOrder) : PurchaseOrder :=
  { purchaseOrder with
    paidAmount := paid
    balanceAmount := invoice.grandTotal - invoice.creditedAmount - paid
    updatedBy := some userId }

/-- The two updates with the same `payload`. -/
def savePayload (userId : Uuid) (paid : Cents) (invoice : PurchaseInvoice)
    (purchaseOrder : PurchaseOrder) : DbTx Unit := do
  savePurchaseInvoice (settledInvoice userId paid invoice)
  savePurchaseOrder (settledOrder userId paid invoice purchaseOrder)

def applyPayment (id companyId : Uuid) (allocatedAmount : Cents) (userId : Uuid) :
    DbTx Unit := do
  let invoice ← findEntity id companyId
  rejectIf (invoice.status ≠ .Posted)
    (appException .Conflict "Payments can only be applied to posted purchase invoices")
  let purchaseOrder ← findOrder invoice companyId
  let effectiveTotal := invoice.grandTotal - invoice.creditedAmount
  let newPaid := invoice.paidAmount + allocatedAmount
  let allocating := toFixed2 allocatedAmount
  let paid := toFixed2 invoice.paidAmount
  let total := toFixed2 effectiveTotal
  rejectIf (effectiveTotal < newPaid)
    (appException .Conflict s!"Allocating {allocating} to purchase invoice {id} would exceed its remaining payable amount (already paid {paid} of {total})")
  savePayload userId newPaid invoice purchaseOrder

def unapplyPayment (id companyId : Uuid) (allocatedAmount : Cents) (userId : Uuid) :
    DbTx Unit := do
  let invoice ← findEntity id companyId
  let purchaseOrder ← findOrder invoice companyId
  let newPaid := invoice.paidAmount - allocatedAmount
  let reversing := toFixed2 allocatedAmount
  rejectIf (newPaid < 0)
    (appException .Conflict
      s!"Reversing {reversing} from purchase invoice {id} would drive paid amount negative")
  savePayload userId (max 0 newPaid) invoice purchaseOrder

end PurchaseInvoicesService

/-! ## `PurchaseOrdersService.applyPayment` -/

def PurchaseOrdersService.isReleasedStatus : PurchaseOrderStatus → Bool
  | .Approved | .Confirmed => true
  | _ => false

def PurchaseOrdersService.applyPayment (id companyId : Uuid) (allocatedAmount : Cents)
    (userId : Uuid) : DbTx Unit := do
  let db ← get
  let purchaseOrder ← orReject
    ((db.buying.purchaseOrders.find? id).filter fun o => o.companyId = companyId)
    (appException .NotFound "Purchase order not found")
  rejectIf (isReleasedStatus purchaseOrder.status = false)
    (appException .Conflict "Payments can only be applied to an approved purchase order")
  let newPaid := purchaseOrder.paidAmount + allocatedAmount
  let allocating := toFixed2 allocatedAmount
  let paid := toFixed2 purchaseOrder.paidAmount
  let total := toFixed2 purchaseOrder.grandTotal
  rejectIf (purchaseOrder.grandTotal < newPaid)
    (appException .Conflict s!"Allocating {allocating} to purchase order {id} would exceed its grand total (already paid {paid} of {total})")
  savePurchaseOrder { purchaseOrder with
    paidAmount := newPaid
    balanceAmount := purchaseOrder.grandTotal - newPaid
    updatedBy := some userId }

namespace PurchaseInvoicesService

/-! ## What the two writes do -/

/-- `invoice` and `purchaseOrder` are the invoice `id` of the company and its order. -/
structure Found (db : Db) (id companyId : Uuid) (invoice : PurchaseInvoice)
    (purchaseOrder : PurchaseOrder) : Prop where
  row : db.buying.purchaseInvoices.find? id = some invoice
  company : invoice.companyId = companyId
  order : db.buying.purchaseOrders.find? invoice.purchaseOrderId = some purchaseOrder
  orderCompany : purchaseOrder.companyId = companyId

/-- The purchase tables once `paid` of `invoice` is paid. -/
def settle (userId : Uuid) (paid : Cents) (invoice : PurchaseInvoice)
    (purchaseOrder : PurchaseOrder) (tables : PurchaseTables) : PurchaseTables :=
  { tables with
    purchaseInvoices := tables.purchaseInvoices.save (settledInvoice userId paid invoice)
    purchaseOrders := tables.purchaseOrders.save (settledOrder userId paid invoice purchaseOrder) }

theorem commits_findEntity (id companyId : Uuid) (db : Db) (invoice : PurchaseInvoice) (db' : Db) :
    Commits (findEntity id companyId) db invoice db' ↔
      (db.buying.purchaseInvoices.find? id = some invoice ∧ invoice.companyId = companyId) ∧
        db = db' := by
  simp only [findEntity, commits_lookup, Option.filter_eq_some_iff, decide_eq_true_eq]

theorem commits_findOrder (invoice : PurchaseInvoice) (companyId : Uuid) (db : Db)
    (purchaseOrder : PurchaseOrder) (db' : Db) :
    Commits (findOrder invoice companyId) db purchaseOrder db' ↔
      (db.buying.purchaseOrders.find? invoice.purchaseOrderId = some purchaseOrder ∧
        purchaseOrder.companyId = companyId) ∧ db = db' := by
  simp only [findOrder, commits_lookup, Option.filter_eq_some_iff, decide_eq_true_eq]

theorem commits_savePayload (userId : Uuid) (paid : Cents) (invoice : PurchaseInvoice)
    (purchaseOrder : PurchaseOrder) (db : Db) (u : Unit) (db' : Db) :
    Commits (savePayload userId paid invoice purchaseOrder) db u db' ↔
      db' = { db with buying := settle userId paid invoice purchaseOrder db.buying } := by
  simp only [savePayload, savePurchaseInvoice, savePurchaseOrder, commits_bind, commits_modify]
  constructor
  · rintro ⟨_, _, rfl, h⟩
    exact h
  · intro h
    exact ⟨⟨⟩, _, rfl, h⟩

theorem commits_applyPayment (id companyId : Uuid) (amount : Cents) (userId : Uuid) (db : Db)
    (u : Unit) (db' : Db) :
    Commits (applyPayment id companyId amount userId) db u db' ↔
      ∃ invoice purchaseOrder, Found db id companyId invoice purchaseOrder ∧
        invoice.status = .Posted ∧
        invoice.paidAmount + amount ≤ invoice.grandTotal - invoice.creditedAmount ∧
        db' = { db with
          buying := settle userId (invoice.paidAmount + amount) invoice purchaseOrder db.buying } := by
  simp only [applyPayment, commits_bind, commits_findEntity, commits_findOrder, commits_rejectIf,
    commits_savePayload, not_not, not_lt]
  constructor
  · rintro ⟨invoice, _, ⟨⟨hinvoice, hcompany⟩, rfl⟩, _, _, ⟨hposted, rfl⟩, purchaseOrder, _,
      ⟨⟨horder, horderCompany⟩, rfl⟩, _, _, ⟨hroom, rfl⟩, rfl⟩
    exact ⟨invoice, purchaseOrder, ⟨hinvoice, hcompany, horder, horderCompany⟩, hposted, hroom, rfl⟩
  · rintro ⟨invoice, purchaseOrder, ⟨hinvoice, hcompany, horder, horderCompany⟩, hposted, hroom, rfl⟩
    exact ⟨invoice, db, ⟨⟨hinvoice, hcompany⟩, rfl⟩, ⟨⟩, db, ⟨hposted, rfl⟩, purchaseOrder, db,
      ⟨⟨horder, horderCompany⟩, rfl⟩, ⟨⟩, db, ⟨hroom, rfl⟩, rfl⟩

/-- `unapplyPayment` commits where at least the amount has been paid: the
clamp at zero never moves anything. -/
theorem commits_unapplyPayment (id companyId : Uuid) (amount : Cents) (userId : Uuid) (db : Db)
    (u : Unit) (db' : Db) :
    Commits (unapplyPayment id companyId amount userId) db u db' ↔
      ∃ invoice purchaseOrder, Found db id companyId invoice purchaseOrder ∧
        0 ≤ invoice.paidAmount - amount ∧
        db' = { db with
          buying := settle userId (invoice.paidAmount - amount) invoice purchaseOrder db.buying } := by
  simp only [unapplyPayment, commits_bind, commits_findEntity, commits_findOrder, commits_rejectIf,
    commits_savePayload, not_lt]
  constructor
  · rintro ⟨invoice, _, ⟨⟨hinvoice, hcompany⟩, rfl⟩, purchaseOrder, _,
      ⟨⟨horder, horderCompany⟩, rfl⟩, _, _, ⟨hpaid, rfl⟩, rfl⟩
    exact ⟨invoice, purchaseOrder, ⟨hinvoice, hcompany, horder, horderCompany⟩, hpaid,
      by rw [max_eq_right hpaid]⟩
  · rintro ⟨invoice, purchaseOrder, ⟨hinvoice, hcompany, horder, horderCompany⟩, hpaid, rfl⟩
    exact ⟨invoice, db, ⟨⟨hinvoice, hcompany⟩, rfl⟩, purchaseOrder, db,
      ⟨⟨horder, horderCompany⟩, rfl⟩, ⟨⟩, db, ⟨hpaid, rfl⟩, by rw [max_eq_right hpaid]⟩

end PurchaseInvoicesService

end FashionErp
