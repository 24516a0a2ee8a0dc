/-
`purchase/services/purchase-orders.service.ts`: the life of a purchase order.

Six calls change the status of an order.
-/
import FashionErp.Inventory.GoodsReceipts
import FashionErp.Purchase.PurchaseInvoices

namespace FashionErp

open Lib Lib.Tx

def ALLOWED_TRANSITIONS : PurchaseOrderStatus → List PurchaseOrderStatus
  | .Draft => [.Submitted, .Approved, .Confirmed, .Cancelled]
  | .Submitted => [.Approved, .Confirmed, .Rejected, .Cancelled]
  | .Approved => [.Closed]
  | .Confirmed => [.Closed]
  | .Rejected => []
  | .Closed => []
  | .Cancelled => []

namespace PurchaseOrdersService

open GoodsReceiptsService PurchaseInvoicesService

def findByIdInCompany (id companyId : Uuid) : DbTx PurchaseOrder := do
  let db ← get
  orReject ((db.buying.purchaseOrders.find? id).filter fun o => o.companyId = companyId)
    (appException .NotFound "Purchase order not found")

def assertTransitionAllowed (current target : PurchaseOrderStatus) : DbTx Unit :=
  let currentName := current.value
  let targetName := target.value
  rejectIf (target ∉ ALLOWED_TRANSITIONS current)
    (appException .Conflict
      s!"Cannot transition purchase order from {currentName} to {targetName}")

def handledByItemId (db : Db) (companyId purchaseOrderId purchaseOrderItemId : Uuid) : ℤ :=
  priorHandled (goodsReceiptsOf db companyId purchaseOrderId) purchaseOrderItemId

def hasOutstandingQuantity (db : Db) (companyId : Uuid) (purchaseOrder : PurchaseOrder) : Bool :=
  purchaseOrder.items.any fun item =>
    handledByItemId db companyId purchaseOrder.id item.id < item.quantity

def assertCloseable (purchaseOrder : PurchaseOrder) (companyId : Uuid) : DbTx Unit := do
  let db ← get
  rejectIf (goodsReceiptsOf db companyId purchaseOrder.id).isEmpty
    (appException .Conflict "Cannot close a purchase order that has no goods receipts")
  rejectIf (hasOutstandingQuantity db companyId purchaseOrder)
    (appException .Conflict
      "Cannot close a purchase order that still has outstanding receipt quantities")
  rejectIf (0 < purchaseOrder.balanceAmount)
    (appException .Conflict "Cannot close a purchase order with an outstanding payable balance")

/-- The count of `cancel`, over the receipts of every company. -/
def assertNoReceipts (id : Uuid) : DbTx Unit := do
  let db ← get
  rejectIf (db.stock.goodsReceipts.any fun r => r.purchaseOrderId = id)
    (appException .Conflict
      "Cannot cancel a purchase order that already has a goods receipt recorded against it")

/-! ## What the calls write -/

def markSubmitted (userId : Uuid) (now : Instant) (order : PurchaseOrder) : PurchaseOrder :=
  { order with
    status := .Submitted, submittedAt := some now, submittedBy := some userId,
    updatedBy := some userId }

def markApproved (userId : Uuid) (now : Instant) (order : PurchaseOrder) : PurchaseOrder :=
  { order with
    status := .Approved
    submittedAt := some (order.submittedAt.getD now)
    submittedBy := some (order.submittedBy.getD userId)
    approvedAt := some now
    approvedBy := some userId
    updatedBy := some userId }

def markConfirmed (userId : Uuid) (now : Instant) (order : PurchaseOrder) : PurchaseOrder :=
  { order with
    status := .Confirmed
    approvedAt := some (order.approvedAt.getD now)
    approvedBy := some (order.approvedBy.getD userId)
    submittedAt := some (order.submittedAt.getD now)
    submittedBy := some (order.submittedBy.getD userId)
    updatedBy := some userId }

def markRejected (userId : Uuid) (now : Instant) (reason : String) (order : PurchaseOrder) :
    PurchaseOrder :=
  { order with
    status := .Rejected, rejectedAt := some now, rejectedBy := some userId,
    rejectedReason := some reason, updatedBy := some userId }

def markClosed (userId : Uuid) (now : Instant) (reason : Option String) (order : PurchaseOrder) :
    PurchaseOrder :=
  { order with
    status := .Closed, closedAt := some now, closedBy := some userId, closeReason := reason,
    updatedBy := some userId }

def markCancelled (userId : Uuid) (order : PurchaseOrder) : PurchaseOrder :=
  { order with status := .Cancelled, updatedBy := some userId }

/-! ## The calls -/

/-- A call that changes the status, with what its request carries. -/
inductive Transition
  | submit
  | approve
  | confirm
  | reject (reason : String)
  | close (reason : Option String)
  | cancel

def Transition.target : Transition → PurchaseOrderStatus
  | submit => .Submitted
  | approve => .Approved
  | confirm => .Confirmed
  | reject _ => .Rejected
  | close _ => .Closed
  | cancel => .Cancelled

/-- The checks between the read and the save. `cancel` counts receipts before it looks at
the status, `close` after. -/
def Transition.check (companyId : Uuid) (order : PurchaseOrder) : Transition → DbTx Unit
  | close _ => do
    assertTransitionAllowed order.status .Closed
    assertCloseable order companyId
  | cancel => do
    assertNoReceipts order.id
    assertTransitionAllowed order.status .Cancelled
  | t => assertTransitionAllowed order.status t.target

def Transition.mark (userId : Uuid) (now : Instant) : Transition → PurchaseOrder → PurchaseOrder
  | submit => markSubmitted userId now
  | approve => markApproved userId now
  | confirm => markConfirmed userId now
  | reject reason => markRejected userId now reason
  | close reason => markClosed userId now reason
  | cancel => markCancelled userId

def changeStatus (t : Transition) (id companyId userId : Uuid) (now : Instant) :
    DbTx PurchaseOrder := do
  let order ← findByIdInCompany id companyId
  t.check companyId order
  savePurchaseOrder (t.mark userId now order)
  return t.mark userId now order

def submit (id companyId userId : Uuid) (now : Instant) : DbTx PurchaseOrder :=
  changeStatus .submit id companyId userId now

def approve (id companyId userId : Uuid) (now : Instant) : DbTx PurchaseOrder :=
  changeStatus .approve id companyId userId now

def confirm (id companyId userId : Uuid) (now : Instant) : DbTx PurchaseOrder :=
  changeStatus .confirm id companyId userId now

def reject (id companyId userId : Uuid) (now : Instant) (reason : String) : DbTx PurchaseOrder :=
  changeStatus (.reject reason) id companyId userId now

def close (id companyId userId : Uuid) (now : Instant) (reason : Option String) :
    DbTx PurchaseOrder :=
  changeStatus (.close reason) id companyId userId now

def cancel (id companyId userId : Uuid) (now : Instant) : DbTx PurchaseOrder :=
  changeStatus .cancel id companyId userId now

/-! ## When they commit -/

/-- What `close` and `cancel` ask of the receipts and the balance. -/
def Transition.Guard (db : Db) (companyId : Uuid) (order : PurchaseOrder) : Transition → Prop
  | close _ => goodsReceiptsOf db companyId order.id ≠ [] ∧
      (∀ item ∈ order.items, item.quantity ≤ handledByItemId db companyId order.id item.id) ∧
      order.balanceAmount ≤ 0
  | cancel => ∀ r ∈ db.stock.goodsReceipts, r.purchaseOrderId ≠ order.id
  | _ => True

@[simp] theorem Transition.mark_status (t : Transition) (userId : Uuid) (now : Instant)
    (order : PurchaseOrder) : (t.mark userId now order).status = t.target := by
  cases t <;> rfl

theorem commits_findByIdInCompany (id companyId : Uuid) (db : Db) (order : PurchaseOrder)
    (db' : Db) :
    Commits (findByIdInCompany id companyId) db order db' ↔
      (db.buying.purchaseOrders.find? id = some order ∧ order.companyId = companyId) ∧
        db = db' := by
  simp only [findByIdInCompany, commits_lookup, Option.filter_eq_some_iff, decide_eq_true_eq]

theorem commits_assertTransitionAllowed (current target : PurchaseOrderStatus) (db : Db) (u : Unit)
    (db' : Db) :
    Commits (assertTransitionAllowed current target) db u db' ↔
      target ∈ ALLOWED_TRANSITIONS current ∧ db = db' := by
  simp only [assertTransitionAllowed, commits_rejectIf, not_not]

theorem hasOutstandingQuantity_eq_false (db : Db) (companyId : Uuid) (order : PurchaseOrder) :
    hasOutstandingQuantity db companyId order = false ↔
      ∀ item ∈ order.items, item.quantity ≤ handledByItemId db companyId order.id item.id := by
  simp only [hasOutstandingQuantity, List.any_eq_false, decide_eq_true_eq, not_lt]

theorem commits_assertCloseable (order : PurchaseOrder) (companyId : Uuid) (db : Db) (u : Unit)
    (db' : Db) :
    Commits (assertCloseable order companyId) db u db' ↔
      (goodsReceiptsOf db companyId order.id ≠ [] ∧
        (∀ item ∈ order.items, item.quantity ≤ handledByItemId db companyId order.id item.id) ∧
        order.balanceAmount ≤ 0) ∧ db = db' := by
  simp only [assertCloseable, commits_bind, commits_get, commits_rejectIf, Bool.not_eq_true,
    List.isEmpty_eq_false_iff, hasOutstandingQuantity_eq_false, not_lt]
  constructor
  · rintro ⟨_, _, ⟨rfl, rfl⟩, _, _, ⟨hreceipts, rfl⟩, _, _, ⟨hhandled, rfl⟩, hbalance, rfl⟩
    exact ⟨⟨hreceipts, hhandled, hbalance⟩, rfl⟩
  · rintro ⟨⟨hreceipts, hhandled, hbalance⟩, rfl⟩
    exact ⟨db, db, ⟨rfl, rfl⟩, ⟨⟩, db, ⟨hreceipts, rfl⟩, ⟨⟩, db, ⟨hhandled, rfl⟩, hbalance, rfl⟩

theorem commits_assertNoReceipts (id : Uuid) (db : Db) (u : Unit) (db' : Db) :
    Commits (assertNoReceipts id) db u db' ↔
      (∀ r ∈ db.stock.goodsReceipts, r.purchaseOrderId ≠ id) ∧ db = db' := by
  simp only [assertNoReceipts, commits_bind, commits_get, commits_rejectIf, Bool.not_eq_true,
    List.any_eq_false, decide_eq_true_eq]
  constructor
  · rintro ⟨_, _, ⟨rfl, rfl⟩, h⟩
    exact h
  · intro h
    exact ⟨db, db, ⟨rfl, rfl⟩, h⟩

theorem Transition.commits_check (t : Transition) (companyId : Uuid) (order : PurchaseOrder)
    (db : Db) (u : Unit) (db' : Db) :
    Commits (t.check companyId order) db u db' ↔
      (t.target ∈ ALLOWED_TRANSITIONS order.status ∧ t.Guard db companyId order) ∧ db = db' := by
  cases t with
  | close reason =>
    simp only [check, target, Guard, commits_bind, commits_assertTransitionAllowed,
      commits_assertCloseable]
    constructor
    · rintro ⟨_, _, ⟨hallowed, rfl⟩, hguard, rfl⟩
      exact ⟨⟨hallowed, hguard⟩, rfl⟩
    · rintro ⟨⟨hallowed, hguard⟩, rfl⟩
      exact ⟨⟨⟩, db, ⟨hallowed, rfl⟩, hguard, rfl⟩
  | cancel =>
    simp only [check, target, Guard, commits_bind, commits_assertTransitionAllowed,
      commits_assertNoReceipts]
    constructor
    · rintro ⟨_, _, ⟨hnone, rfl⟩, hallowed, rfl⟩
      exact ⟨⟨hallowed, hnone⟩, rfl⟩
    · rintro ⟨⟨hallowed, hnone⟩, rfl⟩
      exact ⟨⟨⟩, db, ⟨hnone, rfl⟩, hallowed, rfl⟩
  | _ => simp only [check, target, Guard, commits_assertTransitionAllowed, and_true]

/-- A status changes along an edge of the table, past the guard of its call, and
nothing but the order is written. -/
theorem commits_changeStatus (t : Transition) (id companyId userId : Uuid) (now : Instant)
    (db : Db) (changed : PurchaseOrder) (db' : Db) :
    Commits (changeStatus t id companyId userId now) db changed db' ↔
      ∃ order, db.buying.purchaseOrders.find? id = some order ∧ order.companyId = companyId ∧
        t.target ∈ ALLOWED_TRANSITIONS order.status ∧ t.Guard db companyId order ∧
        changed = t.mark userId now order ∧
        db' = { db with buying := { db.buying with
          purchaseOrders := db.buying.purchaseOrders.save (t.mark userId now order) } } := by
  simp only [changeStatus, savePurchaseOrder, commits_bind, commits_findByIdInCompany,
    Transition.commits_check, commits_modify, commits_pure]
  constructor
  · rintro ⟨order, _, ⟨⟨hfind, hcompany⟩, rfl⟩, _, _, ⟨⟨hallowed, hguard⟩, rfl⟩, _, _, rfl, rfl, rfl⟩
    exact ⟨order, hfind, hcompany, hallowed, hguard, rfl, rfl⟩
  · rintro ⟨order, hfind, hcompany, hallowed, hguard, rfl, rfl⟩
    exact ⟨order, db, ⟨⟨hfind, hcompany⟩, rfl⟩, ⟨⟩, db, ⟨⟨hallowed, hguard⟩, rfl⟩, ⟨⟩, _, rfl, rfl,
      rfl⟩

end PurchaseOrdersService

end FashionErp
