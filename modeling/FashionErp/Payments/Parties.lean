/-
Whose documents a payment settles.

A payment names one party and one currency, and its allocations name documents.
-/
import FashionErp.Payments.PayablesRun

namespace FashionErp

open Lib Lib.Tx

/-! ## The terms of a document -/

structure DocumentTerms where
  companyId : Uuid
  party : Uuid
  currency : String
  deriving DecidableEq

def Sale.terms (s : Sale) : DocumentTerms := ⟨s.companyId, s.customerId, s.currency⟩

def SaleReturn.terms (r : SaleReturn) : DocumentTerms := ⟨r.companyId, r.customerId, r.currency⟩

def PurchaseInvoice.terms (i : PurchaseInvoice) : DocumentTerms :=
  ⟨i.companyId, i.supplierId, i.currency⟩

def PurchaseOrder.terms (o : PurchaseOrder) : DocumentTerms :=
  ⟨o.companyId, o.supplierId, o.currency⟩

def documentTerms (db : Db) : AllocationTarget → Option DocumentTerms
  | (.Sale, id) => (db.selling.sales.find? id).map Sale.terms
  | (.SaleReturn, id) => (db.selling.saleReturns.find? id).map SaleReturn.terms
  | (.PurchaseInvoice, id) => (db.buying.purchaseInvoices.find? id).map PurchaseInvoice.terms
  | (.PurchaseOrder, id) => (db.buying.purchaseOrders.find? id).map PurchaseOrder.terms

def TermsStay (db db' : Db) : Prop := ∀ t, documentTerms db' t = documentTerms db t

theorem TermsStay.refl (db : Db) : TermsStay db db := fun _ => rfl

theorem TermsStay.trans {db db₁ db₂ : Db} (h₁ : TermsStay db db₁) (h₂ : TermsStay db₁ db₂) :
    TermsStay db db₂ :=
  fun t => (h₂ t).trans (h₁ t)

theorem TermsStay.of_documents {db db' : Db} (hselling : db'.selling = db.selling)
    (hbuying : db'.buying = db.buying) : TermsStay db db' := by
  rintro ⟨type, id⟩
  cases type <;> simp only [documentTerms, hselling, hbuying]

/-! ## What settling a document leaves alone -/

/-- Document `t` is there, in company `companyId`. -/
def DocumentIn (db : Db) (companyId : Uuid) (t : AllocationTarget) : Prop :=
  ∃ d, documentTerms db t = some d ∧ d.companyId = companyId

theorem DocumentIn.of_stay {db db' : Db} {companyId : Uuid} {t : AllocationTarget}
    (h : DocumentIn db' companyId t) (hstay : TermsStay db db') : DocumentIn db companyId t := by
  obtain ⟨d, hd, hcompany⟩ := h
  exact ⟨d, (hstay t).symm.trans hd, hcompany⟩

theorem settle_terms {db : Db} {id : Uuid} {i : PurchaseInvoice} {o : PurchaseOrder} (userId : Uuid)
    (paid : Cents) (hi : db.buying.purchaseInvoices.find? id = some i)
    (ho : db.buying.purchaseOrders.find? i.purchaseOrderId = some o) :
    TermsStay db { db with buying := PurchaseInvoicesService.settle userId paid i o db.buying } := by
  rintro ⟨type, j⟩
  cases type with
  | Sale => rfl
  | SaleReturn => rfl
  | PurchaseInvoice =>
    refine Table.map_find?_save_over PurchaseInvoice.terms hi ?_ ?_ j
    · rfl
    · rfl
  | PurchaseOrder =>
    refine Table.map_find?_save_over PurchaseOrder.terms ho ?_ ?_ j
    · rfl
    · rfl

namespace PaymentsService

variable {companyId userId : Uuid} {db' : Db} {u : Unit}

theorem applyTarget_terms {allocations : List PaymentAllocation} {t : AllocationTarget} {db : Db} (hc : Commits (applyTarget companyId userId allocations t) db u db') :
    TermsStay db db' ∧ DocumentIn db companyId t := by
  obtain ⟨type, id⟩ := t
  cases type with
  | Sale =>
    simp only [applyTarget, SalesService.applyPayment, SalesService.assertPayable,
      SalesService.saveSale, commits_bind, SalesService.commits_findByIdInCompany,
      commits_rejectIf, commits_modify, Option.filter_eq_some_iff, decide_eq_true_eq] at hc
    obtain ⟨sale, _, ⟨⟨hsale, hcompany⟩, rfl⟩, _, _, ⟨-, rfl⟩, rfl⟩ := hc
    refine ⟨?_, sale.terms, by rw [documentTerms, hsale, Option.map_some], hcompany⟩
    rintro ⟨type, j⟩
    cases type with
    | Sale =>
      refine Table.map_find?_save_over Sale.terms hsale ?_ ?_ j
      · rfl
      · rfl
    | SaleReturn => rfl
    | PurchaseInvoice => rfl
    | PurchaseOrder => rfl
  | SaleReturn =>
    simp only [applyTarget, SaleReturnsService.applyRefund, SaleReturnsService.findByIdInCompany,
      SaleReturnsService.saveReturn, commits_bind, commits_get, commits_orReject,
      commits_rejectIf, commits_modify, Option.filter_eq_some_iff, decide_eq_true_eq] at hc
    obtain ⟨saleReturn, _, ⟨_, _, ⟨rfl, rfl⟩, ⟨hreturn, hcompany⟩, rfl⟩, _, _, ⟨-, rfl⟩, _, _,
      ⟨-, rfl⟩, rfl⟩ := hc
    refine ⟨?_, saleReturn.terms, by rw [documentTerms, hreturn, Option.map_some], hcompany⟩
    rintro ⟨type, j⟩
    cases type with
    | Sale => rfl
    | SaleReturn =>
      refine Table.map_find?_save_over SaleReturn.terms hreturn ?_ ?_ j
      · rfl
      · rfl
    | PurchaseInvoice => rfl
    | PurchaseOrder => rfl
  | PurchaseInvoice =>
    obtain ⟨i, o, hfound, -, -, rfl⟩ :=
      (PurchaseInvoicesService.commits_applyPayment _ _ _ _ _ _ _).1 hc
    refine ⟨settle_terms userId _ hfound.row hfound.order, i.terms, ?_, hfound.company⟩
    rw [documentTerms, hfound.row, Option.map_some]
  | PurchaseOrder =>
    simp only [applyTarget, PurchaseOrdersService.applyPayment, savePurchaseOrder, commits_bind,
      commits_get, commits_orReject, commits_rejectIf, commits_modify, Option.filter_eq_some_iff,
      decide_eq_true_eq] at hc
    obtain ⟨_, _, ⟨rfl, rfl⟩, o, _, ⟨⟨ho, hcompany⟩, rfl⟩, _, _, ⟨-, rfl⟩, _, _, ⟨-, rfl⟩, rfl⟩ := hc
    refine ⟨?_, o.terms, by rw [documentTerms, ho, Option.map_some], hcompany⟩
    rintro ⟨type, j⟩
    cases type with
    | Sale => rfl
    | SaleReturn => rfl
    | PurchaseInvoice => rfl
    | PurchaseOrder =>
      refine Table.map_find?_save_over PurchaseOrder.terms ho ?_ ?_ j
      · rfl
      · rfl

/-- A loop over documents keeps their terms and has seen each in the company. -/
theorem forM_terms {α : Type} {body : α → DbTx Unit} (target : α → AllocationTarget) {xs : List α}
    {db : Db}
    (hbody : ∀ x db db', Commits (body x) db ⟨⟩ db' → TermsStay db db' ∧ DocumentIn db companyId (target x))
    (hc : Commits (xs.forM body) db u db') :
    TermsStay db db' ∧ ∀ x ∈ xs, DocumentIn db companyId (target x) := by
  refine forM_invariant (fun done s => TermsStay db s ∧
      ∀ x ∈ done, DocumentIn db companyId (target x))
    (fun done x rest s s' _ hI hstep => ?_) ⟨.refl db, fun x hx => by cases hx⟩ hc
  obtain ⟨hstay, hin⟩ := hbody x s s' hstep
  refine ⟨hI.1.trans hstay, ?_⟩
  rw [List.forall_mem_append]
  refine ⟨hI.2, fun y hy => ?_⟩
  obtain rfl := List.mem_singleton.1 hy
  exact hin.of_stay hI.1

/-! ## `create` and `reallocate` -/

def partyOf (direction : PaymentDirection) (customerId supplierId : Option Uuid) : Option Uuid :=
  match direction with
  | .Receipt | .Refund => customerId
  | .Payment => supplierId

def NamesOwnDocuments (db : Db) (party : Option Uuid) (currency : String)
    (allocations : List PaymentAllocation) : Prop :=
  ∀ a ∈ allocations, ∀ d, documentTerms db a.target = some d →
    some d.party = party ∧ d.currency = currency

/-- Settles only its own party: the document of every allocation is in the
payment's company, of its customer or supplier, and in its currency. -/
def SettlesOwnParty (db : Db) (payment : Payment) : Prop :=
  ∀ a ∈ payment.allocations, ∃ d, documentTerms db a.target = some d ∧
    d.companyId = payment.companyId ∧
    some d.party = partyOf payment.direction payment.customerId payment.supplierId ∧
    d.currency = payment.currency

instance (db : Db) (payment : Payment) : Decidable (SettlesOwnParty db payment) :=
  inferInstanceAs (Decidable (∀ a ∈ payment.allocations, ∃ d ∈ documentTerms db a.target,
    d.companyId = payment.companyId ∧
    some d.party = partyOf payment.direction payment.customerId payment.supplierId ∧
    d.currency = payment.currency))

inductive SettleRequest
  | create (companyId userId : Uuid) (now : Instant) (dto : CreatePaymentDto)
      (idempotencyKey : Option String)
  | reallocate (id companyId userId : Uuid) (now : Instant) (dto : ReallocatePaymentDto)

def SettleRequest.CommitsPayment (db : Db) (payment : Payment) (db' : Db) : SettleRequest → Prop
  | create companyId userId now dto idempotencyKey =>
    Commits (PaymentsService.create companyId userId now dto idempotencyKey) db (payment, false) db'
  | reallocate id companyId userId now dto =>
    Commits (PaymentsService.reallocate id companyId userId now dto) db payment db'

def SettleRequest.Consistent (db : Db) : SettleRequest → Prop
  | create _ _ _ dto _ =>
    NamesOwnDocuments db (partyOf dto.direction dto.customerId dto.supplierId) dto.currency
      dto.allocations
  | reallocate id _ _ _ dto =>
    ∀ p, db.paying.payments.find? id = some p →
      NamesOwnDocuments db (partyOf p.direction p.customerId p.supplierId) p.currency
        dto.allocations

variable {payment : Payment}

theorem settlesOwnParty_iff {db : Db} (hstay : TermsStay db db')
    (hin : ∀ a ∈ payment.allocations, DocumentIn db payment.companyId a.target) :
    SettlesOwnParty db' payment ↔
      NamesOwnDocuments db (partyOf payment.direction payment.customerId payment.supplierId)
        payment.currency payment.allocations := by
  constructor
  · intro h a ha d hd
    obtain ⟨d', hd', -, hparty, hcurrency⟩ := h a ha
    rw [hstay, hd] at hd'
    cases hd'
    exact ⟨hparty, hcurrency⟩
  · intro h a ha
    obtain ⟨d, hd, hcompany⟩ := hin a ha
    obtain ⟨hparty, hcurrency⟩ := h a ha d hd
    exact ⟨d, (hstay _).trans hd, hcompany, hparty, hcurrency⟩

theorem runCreate_terms {now paymentDate : Instant} {key : Option String} {dto : CreatePaymentDto}
    {db : Db}
    (h : Commits (runCreate companyId userId now paymentDate key dto) db payment db') :
    TermsStay db db' ∧ (∀ a ∈ dto.allocations, DocumentIn db companyId a.target) ∧
      ∃ id number, payment = newPayment id number companyId userId paymentDate key dto := by
  obtain ⟨number, id, db₁, db₂, db₃, db₄, hseq₁, hloop, hseq₃, hpayment, -, -, hpost, event,
    hevent⟩ := runCreate_spec h
  have hdb' := hevent.db_eq
  have hstay₁ : TermsStay db db₁ := .of_documents (by rw [hseq₁]) (by rw [hseq₁])
  obtain ⟨hstay₂, hin⟩ := forM_terms (fun t => t)
    (fun _ _ _ hstep => applyTarget_terms hstep) hloop
  obtain ⟨hledgerOnly, -⟩ := postToLedger_touches hpost
  have hstay₃ : TermsStay db₂ db' := by
    refine .of_documents ?_ ?_
    · rw [hdb', hledgerOnly]
      change db₃.selling = db₂.selling
      rw [hseq₃]
    · rw [hdb', hledgerOnly]
      change db₃.buying = db₂.buying
      rw [hseq₃]
  refine ⟨hstay₁.trans (hstay₂.trans hstay₃), fun a ha => ?_, id, number, hpayment⟩
  exact (hin a.target (mem_sortedTargets.2 ⟨a, ha, rfl⟩)).of_stay hstay₁

theorem unapplyTotal_terms {e : Uuid × Cents} {db : Db}
    (hc : Commits (unapplyTotal companyId userId e) db u db') :
    TermsStay db db' ∧ DocumentIn db companyId (invoiceTarget e.1) := by
  obtain ⟨i, o, hfound, -, rfl⟩ :=
    (PurchaseInvoicesService.commits_unapplyPayment _ _ _ _ _ _ _).1 hc
  refine ⟨settle_terms userId _ hfound.row hfound.order, i.terms, ?_, hfound.company⟩
  rw [documentTerms, hfound.row, Option.map_some]

theorem applyTotal_terms {e : Uuid × Cents} {db : Db}
    (hc : Commits (applyTotal companyId userId e) db u db') :
    TermsStay db db' ∧ DocumentIn db companyId (invoiceTarget e.1) := by
  obtain ⟨i, o, hfound, -, -, rfl⟩ :=
    (PurchaseInvoicesService.commits_applyPayment _ _ _ _ _ _ _).1 hc
  refine ⟨settle_terms userId _ hfound.row hfound.order, i.terms, ?_, hfound.company⟩
  rw [documentTerms, hfound.row, Option.map_some]

theorem reallocate_terms {id : Uuid} {now : Instant} {dto : ReallocatePaymentDto} {db : Db} (h : Commits (reallocate id companyId userId now dto) db payment db') :
    TermsStay db db' ∧ (∀ a ∈ dto.allocations, DocumentIn db companyId a.target) ∧
      ∃ p, db.paying.payments.find? id = some p ∧ p.companyId = companyId ∧
        payment = markReallocated userId now dto p := by
  obtain ⟨p, db₁, db₂, hfind, hcompany, -, hdirection, -, hvalid, hunapply, happly, hpayment, rfl⟩ :=
    reallocate_spec h
  obtain ⟨hstay₁, -⟩ := forM_terms (fun e => invoiceTarget e.1)
    (fun _ _ _ hstep => unapplyTotal_terms hstep) hunapply
  have hcleared : TermsStay db₁ { db₁ with paying := { db₁.paying with
      payments := db₁.paying.payments.save { p with allocations := [] } } } :=
    .of_documents rfl rfl
  obtain ⟨hstay₂, hin⟩ := forM_terms (fun e => invoiceTarget e.1)
    (fun _ _ _ hstep => applyTotal_terms hstep) happly
  refine ⟨hstay₁.trans (hcleared.trans (hstay₂.trans (.of_documents rfl rfl))), fun a ha => ?_,
    p, hfind, hcompany, hpayment⟩
  have htarget : a.target = invoiceTarget a.referenceId := by
    rw [PaymentAllocation.target, (hvalid a ha).1, hdirection]
    rfl
  obtain ⟨e, he, hid⟩ := List.mem_map.1 (mem_totalsById.2 ⟨a, ha, rfl⟩)
  rw [htarget, ← hid]
  exact ((hin e he).of_stay hcleared).of_stay hstay₁

/-- Exactly when a payment settles only its own party: when the documents the
request names already have the payment's party and currency. -/
theorem settles_own_party_iff (request : SettleRequest) {db db' : Db} {payment : Payment}
    (h : request.CommitsPayment db payment db') :
    SettlesOwnParty db' payment ↔ request.Consistent db := by
  cases request with
  | create companyId userId now dto idempotencyKey =>
    rcases create_cases h with ⟨htrue, -⟩ | ⟨-, -, hrun⟩
    · cases htrue
    · obtain ⟨hstay, hin, id, number, rfl⟩ := runCreate_terms hrun
      exact settlesOwnParty_iff hstay hin
  | reallocate id companyId userId now dto =>
    obtain ⟨hstay, hin, p, hfind, rfl, rfl⟩ := reallocate_terms h
    rw [settlesOwnParty_iff hstay hin]
    constructor
    · intro hown p' hp'
      obtain rfl := Option.some.inj (hfind.symm.trans hp')
      exact hown
    · exact fun hown => hown p hfind

/-! Two suppliers of one company, each with a posted invoice. -/

namespace PartiesDemo

def otherSupplier : Supplier :=
  { id := 21, companyId := 10, supplierCode := "SUP-2", payableAccountId := some 32,
    status := .Active }

def otherOrder : PurchaseOrder :=
  { PayablesDemo.order with id := 51, purchaseOrderNumber := "PO-2026-000002", supplierId := 21 }

def postedInvoice (id : Uuid) (order : PurchaseOrder) : PurchaseInvoice :=
  PurchaseInvoicesService.markPosted 99 PayablesDemo.now
    (PurchaseInvoicesService.draftInvoice id order)

def db : Db where
  master :=
    { companies := .ofRows [PayablesDemo.company],
      suppliers := .ofRows [PayablesDemo.supplier, otherSupplier],
      paymentMethods := .ofRows [PayablesDemo.bankTransfer],
      accounts := .ofRows [PayablesDemo.bank, PayablesDemo.payable] }
  buying :=
    { purchaseOrders := .ofRows [PayablesDemo.order, otherOrder],
      purchaseInvoices := .ofRows [postedInvoice 0 PayablesDemo.order, postedInvoice 1 otherOrder] }

def strayDto : CreatePaymentDto :=
  { PayablesDemo.paymentDto with supplierId := some 21, currency := "USD" }

def strayReallocation : ReallocatePaymentDto where
  reason := none
  allocations := [{ referenceType := .PurchaseInvoice, referenceId := 1, allocatedAmount := 6000 }]

end PartiesDemo

theorem settles_own_party_iff_own_invoice :
    ∃ payment db', Commits (create 10 99 PayablesDemo.now PayablesDemo.paymentDto none)
      PartiesDemo.db (payment, false) db' ∧ SettlesOwnParty db' payment := by
  have hrun : ((run (create 10 99 PayablesDemo.now PayablesDemo.paymentDto none)
      PartiesDemo.db).1.toOption.any (PayablesDemo.isNew fun _ => true)) = true := by
    decide +kernel
  obtain ⟨payment, hcreate, -⟩ := PayablesDemo.commits_of_isNew hrun
  have hnames : NamesOwnDocuments PartiesDemo.db (some 20) "MMK"
      PayablesDemo.paymentDto.allocations := by
    intro a ha d hd
    have hterms : documentTerms PartiesDemo.db (invoiceTarget 0) = some ⟨10, 20, "MMK"⟩ := by
      decide +kernel
    have htarget : a.target = invoiceTarget 0 := by
      rcases List.mem_pair.1 ha with rfl | rfl <;> rfl
    rw [htarget, hterms] at hd
    cases hd
    exact ⟨rfl, rfl⟩
  exact ⟨payment, _, hcreate, (settles_own_party_iff
    (.create 10 99 PayablesDemo.now PayablesDemo.paymentDto none) hcreate).2 hnames⟩

theorem payment_settles_stray_invoice :
    (∃ payment db', Commits (create 10 99 PayablesDemo.now PartiesDemo.strayDto none)
      PartiesDemo.db (payment, false) db' ∧ ¬ SettlesOwnParty db' payment) ∧
    ∃ payment db₁ moved db₂, Commits (create 10 99 PayablesDemo.now PayablesDemo.paymentDto none)
      PartiesDemo.db (payment, false) db₁ ∧
      Commits (reallocate payment.id 10 99 PayablesDemo.now PartiesDemo.strayReallocation)
        db₁ moved db₂ ∧ ¬ SettlesOwnParty db₂ moved := by
  constructor
  · have hrun :
        let created := run (create 10 99 PayablesDemo.now PartiesDemo.strayDto none) PartiesDemo.db
        created.1.toOption.any (PayablesDemo.isNew fun payment =>
          !decide (SettlesOwnParty created.2 payment)) = true := by
      decide +kernel
    obtain ⟨payment, hcreate, hstray⟩ := PayablesDemo.commits_of_isNew hrun
    exact ⟨payment, _, hcreate, by simpa using hstray⟩
  · have hrun :
        let created := run (create 10 99 PayablesDemo.now PayablesDemo.paymentDto none) PartiesDemo.db
        created.1.toOption.any (PayablesDemo.isNew fun payment =>
          let moved := run
            (reallocate payment.id 10 99 PayablesDemo.now PartiesDemo.strayReallocation) created.2
          moved.1.toOption.any fun payment => !decide (SettlesOwnParty moved.2 payment)) = true := by
      decide +kernel
    obtain ⟨payment, hcreate, hok⟩ := PayablesDemo.commits_of_isNew hrun
    obtain ⟨moved, hreallocate, hstray⟩ := commits_of_run_any hok
    exact ⟨payment, _, moved, _, hcreate, hreallocate, by simpa using hstray⟩

end PaymentsService

end FashionErp
