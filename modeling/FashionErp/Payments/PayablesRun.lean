/-
Runs of the requests that touch what a company owes its suppliers.

Each request is one transaction and the run takes them in any order: payments
created, reversed and reallocated, invoices synchronised, posted and voided, purchase
returns created, completed and cancelled, and journal entries made by hand.
-/
import FashionErp.Payments.PayablesInvariant

namespace FashionErp

open Lib Lib.Tx

/-! ## Invoices -/

namespace PurchaseInvoicesService

variable {db : Db} {db' : Db}

theorem insertInvoice_spec {order : PurchaseOrder} {u : Unit}
    (h : Commits (insertInvoice order) db u db') :
    ∃ id db₁, SequencesOnly db db₁ ∧ db.buying.purchaseInvoices.find? id = none ∧
      db' = { db₁ with buying := { db.buying with
        purchaseInvoices := db.buying.purchaseInvoices.save (draftInvoice id order) } } := by
  simp only [insertInvoice, savePurchaseInvoice, commits_bind, commits_get, commits_rejectIf,
    commits_modify, Bool.not_eq_true, Option.isSome_eq_false_iff,
    Option.isNone_iff_eq_none] at h
  obtain ⟨id, db₁, hid, _, _, ⟨rfl, rfl⟩, _, _, ⟨hfresh, rfl⟩, _, _, ⟨-, rfl⟩, rfl⟩ := h
  have hseq := (randomUUID_spec hid).1
  have hbuying : db₁.buying = db.buying := by rw [hseq]
  rw [hbuying] at hfresh ⊢
  exact ⟨id, db₁, hseq, hfresh, rfl⟩

variable {companyId : Uuid} {supplierId : Option Uuid}

theorem mem_eligibleOrders {o : PurchaseOrder} (h : o ∈ eligibleOrders db companyId supplierId) :
    o ∈ db.buying.purchaseOrders.rows ∧ o.companyId = companyId ∧
      hasInvoice db companyId o.id = false := by
  simp only [eligibleOrders, List.mem_filter, Bool.and_eq_true, decide_eq_true_eq,
    Bool.not_eq_true'] at h
  obtain ⟨ho, ⟨⟨⟨hcompany, -⟩, -⟩, -⟩, hnone⟩ := h
  exact ⟨ho, hcompany, hnone⟩

theorem uninvoiced_of_eligible {paidOn : Uuid → Cents}
    {o : PurchaseOrder} (h : Agrees paidOn db.buying)
    (ho : o ∈ eligibleOrders db companyId supplierId) :
    ∀ i ∈ db.buying.purchaseInvoices.rows, i.purchaseOrderId ≠ o.id := by
  intro i hi hio
  obtain ⟨hrow, hcompany, hnone⟩ := mem_eligibleOrders ho
  have hofind : db.buying.purchaseOrders.find? o.id = some o := (Table.mem_rows_iff _ _).1 hrow
  have hic : o.companyId = i.companyId := h.company i hi o (by rw [hio]; exact hofind)
  simp only [hasInvoice, List.any_eq_false, decide_eq_true_eq] at hnone
  exact hnone i hi ⟨hic.symm.trans hcompany, hio⟩

/-- Synchronising keeps the invariant: the orders still to come in the loop
have no invoice, since each draft is of an order already done. -/
theorem sync_inv {u : Unit} (h : PayablesInv db)
    (hc : Commits (syncEligibleInvoices companyId supplierId) db u db') : Follows db db' := by
  simp only [syncEligibleInvoices, commits_bind, commits_get] at hc
  obtain ⟨_, _, ⟨rfl, rfl⟩, hloop⟩ := hc
  have hnodup : ((eligibleOrders db companyId supplierId).map key).Nodup :=
    (List.filter_sublist.map key).nodup db.buying.purchaseOrders.nodup
  have hinv := forM_invariant (fun done db' => Follows db db' ∧
      db'.buying.purchaseOrders = db.buying.purchaseOrders ∧
      ∀ i ∈ db'.buying.purchaseInvoices.rows, i ∈ db.buying.purchaseInvoices.rows ∨
        ∃ o ∈ done, i.purchaseOrderId = o.id)
    (fun done o rest s s' heq hI hstep => ?_) ⟨.refl h, rfl, fun i hi => .inl hi⟩ hloop
  · exact hinv.1
  · obtain ⟨hfollows, horders, hrows⟩ := hI
    have ho : o ∈ eligibleOrders db companyId supplierId := by
      rw [heq]
      exact List.mem_append_right _ List.mem_cons_self
    have hnone : ∀ i ∈ s.buying.purchaseInvoices.rows, i.purchaseOrderId ≠ o.id := by
      intro i hi hio
      rcases hrows i hi with hold | ⟨o₁, ho₁, hio₁⟩
      · exact uninvoiced_of_eligible h.agrees ho i hold hio
      · rw [heq, List.map_append, List.map_cons] at hnodup
        exact (List.nodup_append.1 hnodup).2.2 (key o₁) (List.mem_map_of_mem ho₁) (key o)
          List.mem_cons_self (hio₁.symm.trans hio)
    obtain ⟨id, s₁, hseq, hfresh, hs'⟩ := insertInvoice_spec hstep
    have hrow : o ∈ s.buying.purchaseOrders.rows := by
      rw [horders]
      exact (mem_eligibleOrders ho).1
    refine ⟨hfollows.trans (hfollows.inv.of_buying ?_ (by rw [hs', hseq]) (by rw [hs', hseq])),
      by rw [hs']; exact horders, fun i hi => ?_⟩
    · rw [hs']
      exact hfollows.inv.agrees.insertDraft hfresh hrow hnone
    · rw [hs'] at hi
      rcases (Table.mem_save _ _ _).1 hi with rfl | ⟨hi, -⟩
      · exact .inr ⟨o, List.mem_append_right _ List.mem_cons_self, rfl⟩
      · refine (hrows i hi).imp_right ?_
        rintro ⟨o₁, ho₁, hio₁⟩
        exact ⟨o₁, List.mem_append_left _ ho₁, hio₁⟩

/-- Posting keeps the invariant: no amount moves. -/
theorem post_inv {id userId : Uuid} {now : Instant} {posted : PurchaseInvoice}
    (h : PayablesInv db) (hc : Commits (post id companyId userId now) db posted db') :
    Follows db db' := by
  simp only [post, savePurchaseInvoice, commits_bind, commits_findEntity, commits_findOrder,
    commits_rejectIf, commits_get, commits_modify, commits_pure, not_not] at hc
  obtain ⟨invoice, _, ⟨⟨hfind, -⟩, rfl⟩, _, _, ⟨hdraft, rfl⟩, _, _, ⟨-, rfl⟩, _, _, ⟨-, rfl⟩, _, _,
    ⟨rfl, rfl⟩, _, _, ⟨-, rfl⟩, _, _, rfl, -, rfl⟩ := hc
  have hnotVoid : invoice.status ≠ .Voided := by
    rw [hdraft]
    decide
  exact h.of_buying (h.agrees.rewriteInvoice (markPosted userId now invoice) hfind hnotVoid
    ⟨rfl, rfl, rfl⟩ rfl fun _ => ⟨rfl, rfl, rfl⟩) rfl rfl

/-- Voiding keeps the invariant: a void invoice owes nothing any more, and its
paid amount stands. -/
theorem void_inv {id userId : Uuid} {now : Instant} {reason : String}
    {voided : PurchaseInvoice} (h : PayablesInv db)
    (hc : Commits (void id companyId userId now reason) db voided db') : Follows db db' := by
  simp only [void, savePurchaseInvoice, commits_bind, commits_findEntity, commits_rejectIf,
    commits_modify, commits_pure] at hc
  obtain ⟨invoice, _, ⟨⟨hfind, -⟩, rfl⟩, _, _, ⟨hnotVoid, rfl⟩, _, _, ⟨-, rfl⟩, _, _, rfl, -,
    rfl⟩ := hc
  exact h.of_buying (h.agrees.rewriteInvoice (markVoided userId now reason invoice) hfind
    hnotVoid ⟨rfl, rfl, rfl⟩ rfl fun hne => absurd rfl hne) rfl rfl

end PurchaseInvoicesService

/-! ## Purchase returns -/

namespace PurchaseReturnsService

variable {companyId : Uuid} {db db' : Db}

theorem createItems_reads {purchaseOrder : PurchaseOrder} {items : List CreatePurchaseReturnItemDto}
    {rows : List PurchaseReturnItem}
    (h : Commits (items.foldlM (createItem companyId purchaseOrder) []) db rows db') :
    db = db' := by
  refine foldlM_invariant (fun _ _ s => db = s) (fun _ x _ b s b' s' _ hI hstep => ?_) rfl h
  simp only [createItem, commits_bind, commits_get, commits_orReject, commits_rejectIf,
    commits_pure] at hstep
  obtain ⟨_, _, ⟨rfl, rfl⟩, _, _, ⟨-, rfl⟩, _, _, ⟨-, rfl⟩, _, _, ⟨-, rfl⟩, -, rfl⟩ := hstep
  exact hI

/-- A new return keeps the invariant: it belongs to an invoice and that
invoice's order. -/
theorem create_inv {userId : Uuid} {now : Instant} {dto : CreatePurchaseReturnDto}
    {purchaseReturn : PurchaseReturn} (h : PayablesInv db)
    (hc : Commits (create companyId userId now dto) db purchaseReturn db') : Follows db db' := by
  simp only [create, generateReturnNumber, saveReturn, commits_bind, commits_get, commits_orReject,
    commits_rejectIf, commits_modify, commits_pure, Option.filter_eq_some_iff] at hc
  obtain ⟨_, _, ⟨rfl, rfl⟩, invoice, _, ⟨⟨hinvoice, -⟩, rfl⟩, _, _, ⟨-, rfl⟩, purchaseOrder, _,
    ⟨⟨horder, -⟩, rfl⟩, items, _, hitems, number, db₁, hnumber, id, db₂, hid, _, _, ⟨rfl, rfl⟩, _, _,
    ⟨-, rfl⟩, _, _, rfl, -, rfl⟩ := hc
  obtain rfl := createItems_reads hitems
  have hseq₁ : SequencesOnly db db₁ := nextDocumentNumber_spec hnumber
  have hseq₂ : SequencesOnly db₁ db₂ := (randomUUID_spec hid).1
  have hbuying : db₂.buying = db.buying := by rw [hseq₂, hseq₁]
  have hinvoiceId : invoice.id = dto.purchaseInvoiceId := Table.key_of_find? hinvoice
  have horderId : purchaseOrder.id = invoice.purchaseOrderId := Table.key_of_find? horder
  refine h.of_buying ?_ (by rw [hseq₂, hseq₁]) (by rw [hseq₂, hseq₁])
  rw [hbuying]
  refine h.agrees.saveReturn (i := invoice) ?_ horderId
  rw [hinvoiceId]
  exact hinvoice

theorem newBalance_eq {invoice : PurchaseInvoice} (returnAmount : Cents)
    (hbalance : invoice.balanceAmount =
      invoice.grandTotal - invoice.paidAmount - invoice.creditedAmount) :
    newBalance invoice returnAmount = invoice.balanceAmount - creditApplied invoice returnAmount ∧
      0 ≤ newBalance invoice returnAmount := by
  have hcredit : creditApplied invoice returnAmount ≤ invoice.balanceAmount := min_le_left _ _
  have hrest : invoice.grandTotal - invoice.paidAmount -
      (invoice.creditedAmount + creditApplied invoice returnAmount) =
      invoice.balanceAmount - creditApplied invoice returnAmount := by
    rw [hbalance]
    abel
  have hnonneg : 0 ≤ invoice.balanceAmount - creditApplied invoice returnAmount :=
    Int.sub_nonneg_of_le hcredit
  rw [newBalance, hrest, max_eq_right hnonneg]
  exact ⟨rfl, hnonneg⟩

/-- Completing a return keeps the invariant: what it credits comes off the
balance of the invoice and of its order. -/
theorem complete_inv {id userId : Uuid} {now : Instant} {completed : PurchaseReturn}
    (h : PayablesInv db) (hc : Commits (complete id companyId userId now) db completed db') :
    Follows db db' := by
  obtain ⟨purchaseReturn, invoice, purchaseOrder, warehouseId, hreturn, -, hinvoice, horder, -, -, -,
    stocks, ms, rfl⟩ := complete_spec hc
  obtain ⟨i, hi, hreturnOrder⟩ := h.agrees.returns purchaseReturn (Table.mem_of_find? hreturn)
  obtain rfl := Option.some.inj (hinvoice.symm.trans hi)
  rw [hreturnOrder] at horder
  have hwritten := h.agrees.rewrite (creditedInvoice userId purchaseReturn.subtotal invoice)
    { purchaseOrder with
      balanceAmount := newBalance invoice purchaseReturn.subtotal, updatedBy := some userId }
    0 hinvoice horder ⟨rfl, rfl, rfl⟩ rfl rfl (add_zero _).symm ?_
  · have hid : invoice.id = purchaseReturn.purchaseInvoiceId := Table.key_of_find? hinvoice
    have hkey : key (creditedInvoice userId purchaseReturn.subtotal invoice) =
        purchaseReturn.purchaseInvoiceId := hid
    refine h.of_buying ((hwritten.congr fun k => ?_).saveReturn
      (r := completedReturn userId now invoice purchaseReturn)
      (i := creditedInvoice userId purchaseReturn.subtotal invoice) ?_ hreturnOrder) rfl rfl
    · rw [net_singleton, ite_self, add_zero]
    · show (Table.save _ _).find? purchaseReturn.purchaseInvoiceId = _
      rw [Table.find?_save, if_pos hkey]
  · intro hvoid
    obtain ⟨hbalance, -, o, ho, hopaid, -⟩ :=
      h.agrees.settled invoice (Table.mem_of_find? hinvoice) hvoid
    obtain rfl := Option.some.inj (horder.symm.trans ho)
    obtain ⟨hnew, hnonneg⟩ := newBalance_eq purchaseReturn.subtotal hbalance
    refine ⟨?_, hnonneg, hopaid, rfl⟩
    show newBalance invoice purchaseReturn.subtotal = invoice.grandTotal - invoice.paidAmount -
      (invoice.creditedAmount + creditApplied invoice purchaseReturn.subtotal)
    rw [hnew, hbalance]
    abel

theorem cancel_inv {id : Uuid} {cancelled : PurchaseReturn} (h : PayablesInv db)
    (hc : Commits (cancel id companyId) db cancelled db') : Follows db db' := by
  simp only [cancel, findDraft, saveReturn, commits_bind, commits_get, commits_orReject,
    commits_rejectIf, commits_modify, commits_pure, Option.filter_eq_some_iff] at hc
  obtain ⟨purchaseReturn, _, ⟨_, _, ⟨rfl, rfl⟩, _, _, ⟨⟨hreturn, -⟩, rfl⟩, _, _, ⟨-, rfl⟩, rfl,
    rfl⟩, _, _, rfl, -, rfl⟩ := hc
  obtain ⟨i, hi, horder⟩ := h.agrees.returns purchaseReturn (Table.mem_of_find? hreturn)
  exact h.of_buying (h.agrees.saveReturn
    (r := { purchaseReturn with status := .Cancelled }) hi horder) rfl rfl

end PurchaseReturnsService

/-! ## Journal entries made by hand -/

namespace JournalEntriesService

structure Manual (db db' : Db) : Prop where
  buying : db'.buying = db.buying
  paying : db'.paying = db.paying
  sources : ∀ e ∈ db'.ledger.journalEntries.rows, e.sourceType = some .Payment →
    ∃ e₀ ∈ db.ledger.journalEntries.rows, e₀.sourceType = some .Payment ∧ e.sourceId = e₀.sourceId

variable {entry : JournalEntry} {companyId : Uuid} {db db' : Db}

theorem create_manual {userId : Uuid} {now : Instant} {dto : CreateJournalEntryDto} (hc : Commits (create companyId userId now dto) db entry db') :
    Manual db db' := by
  obtain ⟨_, db₁, hcompany, hc⟩ := (commits_bind _ _ _ _ _).1 hc
  obtain rfl := assertCompanyAndBranch_reads hcompany
  obtain ⟨-, htype, -, -, -, db₁, htouch, rfl⟩ := createTransaction_spec hc
  refine ⟨by rw [htouch], by rw [htouch], fun e he hpayment => ?_⟩
  rcases (Table.mem_save _ _ _).1 he with rfl | ⟨he, -⟩
  · rw [htype] at hpayment
    cases hpayment
  · exact ⟨e, he, hpayment, rfl⟩

theorem saveEntry_manual {id : Uuid} {entry' : JournalEntry}
    (hfind : db.ledger.journalEntries.find? id = some entry)
    (htype : entry'.sourceType = entry.sourceType) (hsource : entry'.sourceId = entry.sourceId) :
    Manual db { db with ledger := { db.ledger with
      journalEntries := db.ledger.journalEntries.save entry' } } := by
  refine ⟨rfl, rfl, fun e he hpayment => ?_⟩
  rcases (Table.mem_save _ _ _).1 he with rfl | ⟨he, -⟩
  · exact ⟨entry, Table.mem_of_find? hfind, htype ▸ hpayment, hsource⟩
  · exact ⟨e, he, hpayment, rfl⟩

theorem post_manual {id userId : Uuid} {now : Instant}
    (hc : Commits (post id companyId userId now) db entry db') : Manual db db' := by
  simp only [post, saveEntry, commits_bind, commits_findByIdInCompany, commits_postChecks,
    commits_modify, commits_pure] at hc
  obtain ⟨row, _, ⟨⟨hfind, -⟩, rfl⟩, _, _, ⟨⟨-, -, -, rfl⟩, rfl⟩, _, _, rfl, -, rfl⟩ := hc
  exact saveEntry_manual hfind rfl rfl

theorem cancel_manual {id : Uuid}
    (hc : Commits (cancel id companyId) db entry db') : Manual db db' := by
  simp only [cancel, cancelGuard, saveEntry, commits_bind, commits_findByIdInCompany,
    commits_rejectIf, commits_modify, commits_pure] at hc
  obtain ⟨row, _, ⟨⟨hfind, -⟩, rfl⟩, _, _, ⟨-, rfl⟩, _, _, rfl, -, rfl⟩ := hc
  exact saveEntry_manual hfind rfl rfl

theorem Manual.follows (hm : Manual db db') (h : PayablesInv db) : Follows db db' :=
  h.of_same hm.buying hm.paying hm.sources

end JournalEntriesService

/-! ## The machine -/

inductive PayablesRequest
  | createPayment (companyId userId : Uuid) (now : Instant)
      (dto : PaymentsService.CreatePaymentDto) (idempotencyKey : Option String)
  | reversePayment (id companyId userId : Uuid) (now : Instant) (reason : String)
  | reallocatePayment (id companyId userId : Uuid) (now : Instant)
      (dto : PaymentsService.ReallocatePaymentDto)
  | syncInvoices (companyId : Uuid) (supplierId : Option Uuid)
  | postInvoice (id companyId userId : Uuid) (now : Instant)
  | voidInvoice (id companyId userId : Uuid) (now : Instant) (reason : String)
  | createReturn (companyId userId : Uuid) (now : Instant)
      (dto : PurchaseReturnsService.CreatePurchaseReturnDto)
  | completeReturn (id companyId userId : Uuid) (now : Instant)
  | cancelReturn (id companyId : Uuid)
  | createEntry (companyId userId : Uuid) (now : Instant)
      (dto : JournalEntriesService.CreateJournalEntryDto)
  | postEntry (id companyId userId : Uuid) (now : Instant)
  | cancelEntry (id companyId : Uuid)

def PayablesRequest.answer (db : Db) : PayablesRequest → Db
  | createPayment companyId userId now dto idempotencyKey =>
    (run (PaymentsService.create companyId userId now dto idempotencyKey) db).2
  | reversePayment id companyId userId now reason =>
    (run (PaymentsService.reverse id companyId userId now reason) db).2
  | reallocatePayment id companyId userId now dto =>
    (run (PaymentsService.reallocate id companyId userId now dto) db).2
  | syncInvoices companyId supplierId =>
    (run (PurchaseInvoicesService.syncEligibleInvoices companyId supplierId) db).2
  | postInvoice id companyId userId now =>
    (run (PurchaseInvoicesService.post id companyId userId now) db).2
  | voidInvoice id companyId userId now reason =>
    (run (PurchaseInvoicesService.void id companyId userId now reason) db).2
  | createReturn companyId userId now dto =>
    (run (PurchaseReturnsService.create companyId userId now dto) db).2
  | completeReturn id companyId userId now =>
    (run (PurchaseReturnsService.complete id companyId userId now) db).2
  | cancelReturn id companyId => (run (PurchaseReturnsService.cancel id companyId) db).2
  | createEntry companyId userId now dto =>
    (run (JournalEntriesService.create companyId userId now dto) db).2
  | postEntry id companyId userId now =>
    (run (JournalEntriesService.post id companyId userId now) db).2
  | cancelEntry id companyId => (run (JournalEntriesService.cancel id companyId) db).2

def payablesMachine : Machine Db PayablesRequest where
  step db request := some (request.answer db)

theorem PayablesInv.run {α : Type} {t : DbTx α} {db : Db} (h : PayablesInv db)
    (hc : ∀ a db', Commits t db a db' → Follows db db') : Follows db (run t db).2 := by
  rcases run_cases t db with ⟨a, db', hcommits, hrun⟩ | ⟨_, -, hrun⟩
  · rw [hrun]
    exact hc a db' hcommits
  · rw [hrun]
    exact .refl h

/-- Every request keeps the invariant. -/
theorem PayablesRequest.answer_inv {db : Db} (request : PayablesRequest) (h : PayablesInv db) :
    Follows db (request.answer db) := by
  cases request with
  | createPayment => exact h.run fun _ _ => PaymentsService.create_inv h
  | reversePayment => exact h.run fun _ _ => PaymentsService.reverse_inv h
  | reallocatePayment => exact h.run fun _ _ => PaymentsService.reallocate_inv h
  | syncInvoices => exact h.run fun _ _ => PurchaseInvoicesService.sync_inv h
  | postInvoice => exact h.run fun _ _ => PurchaseInvoicesService.post_inv h
  | voidInvoice => exact h.run fun _ _ => PurchaseInvoicesService.void_inv h
  | createReturn => exact h.run fun _ _ => PurchaseReturnsService.create_inv h
  | completeReturn => exact h.run fun _ _ => PurchaseReturnsService.complete_inv h
  | cancelReturn => exact h.run fun _ _ => PurchaseReturnsService.cancel_inv h
  | createEntry => exact h.run fun _ _ hc => (JournalEntriesService.create_manual hc).follows h
  | postEntry => exact h.run fun _ _ hc => (JournalEntriesService.post_manual hc).follows h
  | cancelEntry => exact h.run fun _ _ hc => (JournalEntriesService.cancel_manual hc).follows h

structure BeforePayables (db : Db) : Prop where
  noInvoices : db.buying.purchaseInvoices.rows = []
  noReturns : db.buying.purchaseReturns.rows = []
  noPayments : db.paying.payments.rows = []
  noJournals : ∀ e ∈ db.ledger.journalEntries.rows, e.sourceType ≠ some .Payment
  unpaid : ∀ o ∈ db.buying.purchaseOrders.rows,
    o.paidAmount = 0 ∧ o.balanceAmount = o.grandTotal ∧ 0 ≤ o.grandTotal

theorem BeforePayables.inv {db : Db} (h : BeforePayables db) : PayablesInv db := by
  have hallocated : ∀ k, allocatedTo db k = 0 := by
    intro k
    rw [allocatedTo, confirmedAllocationsTo, h.noPayments]
    rfl
  have hinvoice : ∀ i, i ∉ db.buying.purchaseInvoices.rows := by
    intro i
    rw [h.noInvoices]
    exact List.not_mem_nil
  refine ⟨⟨?_, ?_, ?_, ?_, ?_, ?_, ?_⟩, ?_, ?_⟩
  · exact fun i hi => absurd hi (hinvoice i)
  · exact fun k _ => hallocated k
  · exact fun i hi => absurd hi (hinvoice i)
  · exact fun i hi => absurd hi (hinvoice i)
  · exact fun i hi => absurd hi (hinvoice i)
  · exact fun o ho _ => h.unpaid o ho
  · rw [h.noReturns]
    exact fun r hr => absurd hr List.not_mem_nil
  · rw [h.noPayments]
    exact fun p hp => absurd hp List.not_mem_nil
  · exact fun e he htype => absurd htype (h.noJournals e he)

theorem follows_of_reaches {db db' : Db} (h : PayablesInv db)
    (hreaches : payablesMachine.Reaches db db') : Follows db db' := by
  refine hreaches.invariant (.refl h) fun s request s' hs hstep => ?_
  cases hstep
  exact hs.trans (request.answer_inv hs.inv)

theorem payablesInv_of_reaches {db₀ db : Db} (h₀ : BeforePayables db₀)
    (hreaches : payablesMachine.Reaches db₀ db) : PayablesInv db :=
  (follows_of_reaches h₀.inv hreaches).inv

/-- Payables agree. After any run of requests, a posted invoice is paid exactly
what confirmed payments allocate to it, owes the rest, at least zero, and its
purchase order says the same. -/
theorem payables_agree {db₀ db : Db} (h₀ : BeforePayables db₀)
    (hreaches : payablesMachine.Reaches db₀ db) {i : PurchaseInvoice}
    (hi : i ∈ db.buying.purchaseInvoices.rows) (hposted : i.status = .Posted) :
    i.paidAmount = allocatedTo db i.id ∧
      i.balanceAmount = i.grandTotal - i.paidAmount - i.creditedAmount ∧
      0 ≤ i.balanceAmount ∧
      ∃ o, db.buying.purchaseOrders.find? i.purchaseOrderId = some o ∧
        o.paidAmount = i.paidAmount ∧ o.balanceAmount = i.balanceAmount := by
  have hinv := payablesInv_of_reaches h₀ hreaches
  have hnotVoid : i.status ≠ .Voided := by
    rw [hposted]
    decide
  obtain ⟨hbalance, hnonneg, horder⟩ := hinv.agrees.settled i hi hnotVoid
  exact ⟨hinv.agrees.paid i hi, hbalance, hnonneg, horder⟩

/-! A company with one approved order of 100.00, received from its supplier, and a
payment method and a supplier that lead to accounts. -/

namespace PayablesDemo

def company : Company :=
  { id := 10, status := .Active, baseCurrency := "MMK" }

def supplier : Supplier :=
  { id := 20, companyId := 10, supplierCode := "SUP-1", payableAccountId := some 32,
    status := .Active }

def bankTransfer : PaymentMethod :=
  { id := 40, companyId := 10, code := "BANK", status := .Active, glAccountId := some 31 }

def bank : Account :=
  { id := 31, companyId := 10, code := "1000", name := "Bank", accountType := .Asset,
    isActive := true }

def payable : Account :=
  { id := 32, companyId := 10, code := "2000", name := "Payable", accountType := .Liability,
    isActive := true }

def order : PurchaseOrder :=
  { id := 50, purchaseOrderNumber := "PO-2026-000001", supplierId := 20, companyId := 10,
    branchId := none, warehouseId := none, status := .Approved, grandTotal := 10000,
    paidAmount := 0, balanceAmount := 10000, currency := "MMK", updatedBy := none, items := [] }

def receipt : GoodsReceipt :=
  { id := 60, receiptNumber := "GR-2026-000001", purchaseOrderId := 50, warehouseId := 70,
    supplierId := 20, companyId := 10, receiptDate := { date := ⟨2026, 1, 5⟩, millis := 0 },
    receivedBy := 99, items := [] }

def db : Db where
  master :=
    { companies := .ofRows [company], suppliers := .ofRows [supplier],
      paymentMethods := .ofRows [bankTransfer], accounts := .ofRows [bank, payable] }
  stock := { goodsReceipts := [receipt] }
  buying := { purchaseOrders := .ofRows [order] }

def now : Instant := { date := ⟨2026, 3, 1⟩, millis := 0 }

def paymentDto : PaymentsService.CreatePaymentDto where
  branchId := none
  direction := .Payment
  customerId := none
  supplierId := some 20
  paymentMethodId := 40
  amount := 6000
  currency := "MMK"
  reference := none
  paymentDate := none
  notes := none
  allocations := [{ referenceType := .PurchaseInvoice, referenceId := 0, allocatedAmount := 2500 },
    { referenceType := .PurchaseInvoice, referenceId := 0, allocatedAmount := 3500 }]

def invoicing : List PayablesRequest :=
  [.syncInvoices 10 none, .postInvoice 0 10 99 now]

theorem beforePayables : BeforePayables db := by
  refine ⟨rfl, rfl, rfl, fun e he => absurd he List.not_mem_nil, fun o ho => ?_⟩
  obtain rfl := List.mem_singleton.1 ho
  decide

/-- The payment is a new one, not the answer to an earlier call. -/
def isNew (ok : Payment → Bool) (answer : Payment × Bool) : Bool := !answer.2 && ok answer.1

theorem commits_of_isNew {t : DbTx (Payment × Bool)} {db : Db} {ok : Payment → Bool}
    (h : (Tx.run t db).1.toOption.any (isNew ok) = true) :
    ∃ payment, Commits t db (payment, false) (Tx.run t db).2 ∧ ok payment = true := by
  obtain ⟨⟨payment, wasExisting⟩, hcreate, hanswer⟩ := commits_of_run_any h
  obtain ⟨hnew, hok⟩ := Bool.and_eq_true_iff.1 hanswer
  obtain rfl : wasExisting = false := by simpa using hnew
  exact ⟨payment, hcreate, hok⟩

end PayablesDemo

theorem payables_agree_two_allocations :
    ∃ db, payablesMachine.Reaches PayablesDemo.db db ∧
      ∃ i ∈ db.buying.purchaseInvoices.rows, i.paidAmount = 6000 ∧
        i.paidAmount = allocatedTo db i.id ∧
        i.balanceAmount = i.grandTotal - i.paidAmount - i.creditedAmount ∧
        0 ≤ i.balanceAmount ∧
        ∃ o, db.buying.purchaseOrders.find? i.purchaseOrderId = some o ∧
          o.paidAmount = i.paidAmount ∧ o.balanceAmount = i.balanceAmount := by
  obtain ⟨db, hrun, hdb⟩ := Machine.exists_runWith payablesMachine (fun _ _ => True)
    PayablesDemo.db
    (PayablesDemo.invoicing ++
      [.createPayment 10 99 PayablesDemo.now PayablesDemo.paymentDto none])
    (fun db => db.buying.purchaseInvoices.rows.any fun i =>
      i.status = .Posted && i.paidAmount = 6000)
    (by decide +kernel)
  simp only [List.any_eq_true, Bool.and_eq_true, decide_eq_true_eq] at hdb
  obtain ⟨i, hi, hposted, hpaid⟩ := hdb
  exact ⟨db, ⟨_, hrun⟩, i, hi, hpaid,
    payables_agree PayablesDemo.beforePayables ⟨_, hrun⟩ hi hposted⟩

end FashionErp
