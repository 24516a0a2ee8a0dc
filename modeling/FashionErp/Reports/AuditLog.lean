/-
`reports/services/accounting-audit-log.service.ts`: the pages of the accounting audit log.

All four queries ask for the day a document was created, and the rows are dated by what they show:
a posting by `postedAt`, and what is `CONFIRMED` by `updatedAt`, in the place of its creation.
-/
import FashionErp.Reports.Isolation
import FashionErp.Reports.MovementPages

namespace FashionErp.AccountingAuditLogService

open Lib Chronological
open InventoryReportsService (pageCount le_pageCount_mul)

/-! ## The documents -/

structure Document where
  id : Uuid
  companyId : Uuid
  branchId : Option Uuid
  createdBy : Option Uuid
  createdAt : Instant
  updatedAt : Instant
  deletedAt : Option Instant

structure JournalEntry extends Document where
  journalNumber : String
  status : JournalEntryStatus
  postedBy : Option Uuid
  postedAt : Option Instant

structure Payment extends Document where
  paymentNumber : String

structure Sale extends Document where
  saleNumber : String
  status : SaleStatus

structure PurchaseOrder extends Document where
  purchaseOrderNumber : String
  status : PurchaseOrderStatus

/-- The tables, in the order the database returns their rows. -/
structure AuditDb where
  journalEntries : List JournalEntry := []
  payments : List Payment := []
  sales : List Sale := []
  purchaseOrders : List PurchaseOrder := []

inductive AccountingAuditEntityType
  | JOURNAL_ENTRY
  | PAYMENT
  | SALE
  | PURCHASE_ORDER
  deriving DecidableEq

inductive AccountingAuditAction
  | CREATED
  | POSTED
  | CONFIRMED
  deriving DecidableEq

structure AccountingAuditLogRow where
  entityType : AccountingAuditEntityType
  entityId : Uuid
  action : AccountingAuditAction
  referenceNumber : String
  performedBy : Option Uuid
  companyId : Uuid
  timestamp : Instant
  deriving DecidableEq

structure AccountingAuditLogQueryDto where
  page : Option ℕ := none
  limit : Option ℕ := none
  fromDate : Option DateString := none
  toDate : Option DateString := none

structure PaginatedAccountingAuditLog where
  data : List AccountingAuditLogRow
  page : ℕ
  limit : ℕ
  total : ℕ

/-! ## The rows -/

def Document.created (d : Document) (entityType : AccountingAuditEntityType)
    (referenceNumber : String) : AccountingAuditLogRow :=
  { entityType, entityId := d.id, action := .CREATED, referenceNumber, performedBy := d.createdBy
    companyId := d.companyId, timestamp := d.createdAt }

def JournalEntry.postings (entry : JournalEntry) : List AccountingAuditLogRow :=
  match entry.status, entry.postedAt with
  | .Posted, some postedAt =>
    [{ entityType := .JOURNAL_ENTRY, entityId := entry.id, action := .POSTED
       referenceNumber := entry.journalNumber, performedBy := entry.postedBy
       companyId := entry.companyId, timestamp := postedAt }]
  | _, _ => []

def JournalEntry.rows (entry : JournalEntry) : List AccountingAuditLogRow :=
  entry.created .JOURNAL_ENTRY entry.journalNumber :: entry.postings

def Payment.row (payment : Payment) : AccountingAuditLogRow :=
  payment.created .PAYMENT payment.paymentNumber

def Document.confirmable (d : Document) (entityType : AccountingAuditEntityType)
    (referenceNumber : String) (confirmed : Bool) : AccountingAuditLogRow :=
  { d.created entityType referenceNumber with
    action := if confirmed then .CONFIRMED else .CREATED
    timestamp := if confirmed then d.updatedAt else d.createdAt }

def Sale.row (sale : Sale) : AccountingAuditLogRow :=
  sale.confirmable .SALE sale.saleNumber (sale.status = .Confirmed)

def PurchaseOrder.row (po : PurchaseOrder) : AccountingAuditLogRow :=
  po.confirmable .PURCHASE_ORDER po.purchaseOrderNumber (po.status = .Confirmed)

section

variable (rt : Runtime) (db : AuditDb) (scope : ResolvedCompanyBranchScope)
  (query : AccountingAuditLogQueryDto)

/-- In the company, passed by `applyBranchFilter`, and not deleted. -/
def visible (d : Document) : Bool :=
  d.companyId = scope.companyId && scope.inBranchScope d.branchId && d.deletedAt.isNone

def inWindow (t : Instant) : Bool := rt.inRange query.fromDate query.toDate t

def selected (d : Document) : Bool := visible scope d && inWindow rt query d.createdAt

def journalEntryRows : List AccountingAuditLogRow :=
  (db.journalEntries.filter fun entry => selected rt scope query entry.toDocument).flatMap
    JournalEntry.rows

def paymentRows : List AccountingAuditLogRow :=
  (db.payments.filter fun payment => selected rt scope query payment.toDocument).map Payment.row

def saleRows : List AccountingAuditLogRow :=
  (db.sales.filter fun sale => selected rt scope query sale.toDocument).map Sale.row

def purchaseOrderRows : List AccountingAuditLogRow :=
  (db.purchaseOrders.filter fun po => selected rt scope query po.toDocument).map PurchaseOrder.row

def selectedRows : List AccountingAuditLogRow :=
  journalEntryRows rt db scope query ++ paymentRows rt db scope query ++ saleRows rt db scope query ++
    purchaseOrderRows rt db scope query

def sortedRows : List AccountingAuditLogRow :=
  (selectedRows rt db scope query).insertionSort fun a b => b.timestamp ≤ a.timestamp

def log : PaginatedAccountingAuditLog :=
  let page := query.page.getD DEFAULT_PAGE
  let limit := query.limit.getD DEFAULT_LIMIT
  let all := sortedRows rt db scope query
  { data := pageOf limit (page - 1) all, page := page, limit := limit, total := all.length }

/-! ## The events of a window -/

def events : List AccountingAuditLogRow :=
  (db.journalEntries.filter fun entry => visible scope entry.toDocument).flatMap JournalEntry.rows ++
    (db.payments.filter fun payment => visible scope payment.toDocument).map Payment.row ++
    (db.sales.filter fun sale => visible scope sale.toDocument).map Sale.row ++
    (db.purchaseOrders.filter fun po => visible scope po.toDocument).map PurchaseOrder.row

def eventsInWindow : List AccountingAuditLogRow :=
  (events db scope).filter fun event => inWindow rt query event.timestamp

/-- The data of the pages `1` to `ceil(total / limit)`. -/
def allPages (limit : ℕ) : List AccountingAuditLogRow :=
  (List.range (pageCount (log rt db scope query).total limit)).flatMap fun p =>
    (log rt db scope { query with page := some (p + 1), limit := some limit }).data

structure DatedAlike : Prop where
  entries : ∀ entry ∈ db.journalEntries, visible scope entry.toDocument →
    ∀ row ∈ entry.rows, inWindow rt query row.timestamp = inWindow rt query entry.createdAt
  sales : ∀ sale ∈ db.sales, visible scope sale.toDocument →
    inWindow rt query sale.row.timestamp = inWindow rt query sale.createdAt
  purchaseOrders : ∀ po ∈ db.purchaseOrders, visible scope po.toDocument →
    inWindow rt query po.row.timestamp = inWindow rt query po.createdAt

variable {rt db scope query} {limit : ℕ}

theorem flatMap_filter_and {α β : Type} {l : List α} {f : α → List β} {p q : α → Bool} {w : β → Bool}
    (h : ∀ a ∈ l, p a → ∀ b ∈ f a, w b = q a) :
    (l.filter fun a => p a && q a).flatMap f = ((l.filter p).flatMap f).filter w := by
  induction l with
  | nil => rfl
  | cons a l ih =>
    have hl := ih fun a ha => h a (List.mem_cons_of_mem _ ha)
    have ha := h a List.mem_cons_self
    rw [List.filter_cons, List.filter_cons]
    cases hp : p a with
    | false => simpa using hl
    | true =>
      have hrows := ha hp
      cases hq : q a with
      | false =>
        have hnone : (f a).filter w = [] := by
          rw [List.filter_eq_nil_iff]
          intro b hb
          rw [hrows b hb, hq]
          decide
        simpa [hnone] using hl
      | true =>
        have hall : (f a).filter w = f a := by
          rw [List.filter_eq_self]
          intro b hb
          rw [hrows b hb, hq]
        simpa [hall] using hl

theorem map_filter_and {α β : Type} {l : List α} {f : α → β} {p q : α → Bool} {w : β → Bool}
    (h : ∀ a ∈ l, p a → w (f a) = q a) :
    (l.filter fun a => p a && q a).map f = ((l.filter p).map f).filter w := by
  rw [List.filter_map, List.filter_filter]
  congr 1
  refine List.filter_congr fun a ha => ?_
  cases hp : p a with
  | false => rw [Bool.false_and, Bool.and_false]
  | true => rw [Bool.true_and, Bool.and_true, Function.comp_apply, h a ha hp]

theorem selectedRows_eq (h : DatedAlike rt db scope query) :
    selectedRows rt db scope query = eventsInWindow rt db scope query := by
  unfold selectedRows eventsInWindow events
  rw [List.filter_append, List.filter_append, List.filter_append]
  have hpayments : ∀ payment ∈ db.payments, visible scope payment.toDocument →
      inWindow rt query payment.row.timestamp = inWindow rt query payment.createdAt :=
    fun _ _ _ => rfl
  congr 1
  · congr 1
    · congr 1
      · exact flatMap_filter_and h.entries
      · exact map_filter_and hpayments
    · exact map_filter_and h.sales
  · exact map_filter_and h.purchaseOrders

theorem perm_sortedRows : (sortedRows rt db scope query).Perm (selectedRows rt db scope query) :=
  List.perm_insertionSort ..

theorem pairwise_sortedRows :
    (sortedRows rt db scope query).Pairwise fun a b => b.timestamp ≤ a.timestamp := by
  have htotal : Std.Total fun a b : AccountingAuditLogRow => b.timestamp ≤ a.timestamp :=
    ⟨fun a b => le_total b.timestamp a.timestamp⟩
  have htrans : IsTrans AccountingAuditLogRow fun a b => b.timestamp ≤ a.timestamp :=
    ⟨fun _ _ _ hab hbc => le_trans hbc hab⟩
  exact List.pairwise_insertionSort ..

theorem allPages_eq (hlimit : 0 < limit) :
    allPages rt db scope query limit = sortedRows rt db scope query := by
  have hpages : allPages rt db scope query limit = pages limit
      (pageCount (sortedRows rt db scope query).length limit) fun _ => sortedRows rt db scope query := rfl
  rw [hpages, pages_const]
  exact List.take_of_length_le (le_pageCount_mul hlimit _)

/-- The pages of the log are the events of its window, each once and the newest first, where
what the rows are dated by is in the window with the creation of their documents. -/
theorem audit_log_exact (hlimit : 0 < limit) (hdated : DatedAlike rt db scope query) :
    (allPages rt db scope query limit).Perm (eventsInWindow rt db scope query) ∧
      (allPages rt db scope query limit).Pairwise (fun a b => b.timestamp ≤ a.timestamp) ∧
      (log rt db scope query).total = (eventsInWindow rt db scope query).length := by
  rw [allPages_eq hlimit, ← selectedRows_eq hdated]
  exact ⟨perm_sortedRows, pairwise_sortedRows, perm_sortedRows.length_eq⟩

end

/-! ## March -/

namespace AuditDemo

def company : ResolvedCompanyBranchScope := { companyId := 10, branchId := none, allowedBranchIds := none }

def march : AccountingAuditLogQueryDto where
  fromDate := some ⟨"2026-03-01", by decide⟩
  toDate := some ⟨"2026-03-31", by decide⟩

def document (createdAt : Instant) : Document :=
  { id := 1, companyId := 10, branchId := none, createdBy := some 7, createdAt
    updatedAt := ⟨⟨2026, 3, 5⟩, 0⟩, deletedAt := none }

def entry (createdAt : Instant) : JournalEntry :=
  { document createdAt with
    journalNumber := "JE-0001", status := .Posted, postedBy := some 8, postedAt := some ⟨⟨2026, 3, 5⟩, 0⟩ }

def sale : Sale := { document ⟨⟨2026, 3, 2⟩, 0⟩ with saleNumber := "S-0001", status := .Confirmed }

end AuditDemo

open AuditDemo ReportsDemo in
theorem audit_log_exact_march :
    (allPages runtime { journalEntries := [entry ⟨⟨2026, 3, 2⟩, 0⟩], sales := [sale] } company march 1).Perm
      (eventsInWindow runtime { journalEntries := [entry ⟨⟨2026, 3, 2⟩, 0⟩], sales := [sale] } company march) :=
  (audit_log_exact (by decide) ⟨by decide +kernel, by decide +kernel, by decide +kernel⟩).1

open AuditDemo ReportsDemo in
/-- An entry of February is posted in March, and a sale is made and confirmed in March: the log of
March has neither the posting nor the creation of the sale. -/
theorem posting_and_creation_missing :
    let entries : AuditDb := { journalEntries := [entry ⟨⟨2026, 2, 27⟩, 0⟩] }
    let sales : AuditDb := { sales := [sale] }
    (∀ posting ∈ (entry ⟨⟨2026, 2, 27⟩, 0⟩).postings, inWindow runtime march posting.timestamp ∧
        posting ∉ allPages runtime entries company march 20) ∧
      (entry ⟨⟨2026, 2, 27⟩, 0⟩).postings ≠ [] ∧
      inWindow runtime march (sale.created .SALE sale.saleNumber).timestamp ∧
      sale.created .SALE sale.saleNumber ∉ allPages runtime sales company march 20 := by
  decide +kernel

end FashionErp.AccountingAuditLogService
