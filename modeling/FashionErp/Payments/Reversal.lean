/-
A supplier payment followed by its reversal.

`create` and `reverse` were written apart: one applies totals per target, the other
takes totals per invoice back with a formula of its own, and the reversal's journal
is built from the stored lines of the payment's.
-/
import FashionErp.Payments.PayablesRun

namespace FashionErp

open Lib Lib.Tx

/-! ## What settling touches -/

structure PurchaseInvoice.SameTerms (i' i : PurchaseInvoice) : Prop where
  order : i'.purchaseOrderId = i.purchaseOrderId
  status : i'.status = i.status
  grandTotal : i'.grandTotal = i.grandTotal
  credited : i'.creditedAmount = i.creditedAmount

theorem PurchaseInvoice.SameTerms.refl (i : PurchaseInvoice) : i.SameTerms i :=
  ⟨rfl, rfl, rfl, rfl⟩

variable {i : PurchaseInvoice}

theorem PurchaseInvoice.SameTerms.trans {i₁ i₂ : PurchaseInvoice} (h₂ : i₂.SameTerms i₁)
    (h₁ : i₁.SameTerms i) : i₂.SameTerms i :=
  ⟨h₂.order.trans h₁.order, h₂.status.trans h₁.status, h₂.grandTotal.trans h₁.grandTotal,
    h₂.credited.trans h₁.credited⟩

/-- Between `b` and `b'` only the invoices in `T` and their orders were written, and
their terms stand. -/
structure Touches (T : Uuid → Prop) (b b' : PurchaseTables) : Prop where
  invoice : ∀ k, b'.purchaseInvoices.find? k = b.purchaseInvoices.find? k ∨
    (T k ∧ ∃ i i', b.purchaseInvoices.find? k = some i ∧
      b'.purchaseInvoices.find? k = some i' ∧ i'.SameTerms i)
  order : ∀ k, b'.purchaseOrders.find? k = b.purchaseOrders.find? k ∨
    ∃ j i o o', T j ∧ b.purchaseInvoices.find? j = some i ∧ i.purchaseOrderId = k ∧
      b.purchaseOrders.find? k = some o ∧ b'.purchaseOrders.find? k = some o'

theorem Touches.refl (T : Uuid → Prop) (b : PurchaseTables) : Touches T b b :=
  ⟨fun _ => .inl rfl, fun _ => .inl rfl⟩

variable {T : Uuid → Prop} {b : PurchaseTables}

theorem Touches.before {b' : PurchaseTables} (h : Touches T b b') {k : Uuid} {i' : PurchaseInvoice}
    (hi' : b'.purchaseInvoices.find? k = some i') :
    ∃ i, b.purchaseInvoices.find? k = some i ∧ i'.SameTerms i := by
  rcases h.invoice k with hsame | ⟨-, i, i'', hi, hi'', hterms⟩
  · exact ⟨i', hsame ▸ hi', .refl i'⟩
  · obtain rfl := Option.some.inj (hi'.symm.trans hi'')
    exact ⟨i, hi, hterms⟩

theorem Touches.after {b' : PurchaseTables} (h : Touches T b b') {k : Uuid}
    (hi : b.purchaseInvoices.find? k = some i) :
    ∃ i', b'.purchaseInvoices.find? k = some i' ∧ i'.SameTerms i := by
  rcases h.invoice k with hsame | ⟨-, i₁, i', hi₁, hi', hterms⟩
  · exact ⟨i, hsame.trans hi, .refl i⟩
  · obtain rfl := Option.some.inj (hi.symm.trans hi₁)
    exact ⟨i', hi', hterms⟩

theorem Touches.trans {b₁ b₂ : PurchaseTables} (h₁ : Touches T b b₁) (h₂ : Touches T b₁ b₂) :
    Touches T b b₂ := by
  refine ⟨fun k => ?_, fun k => ?_⟩
  · rcases h₂.invoice k with hsame₂ | ⟨hT, i₁, i₂, hi₁, hi₂, hterms₂⟩
    · rw [hsame₂]
      exact h₁.invoice k
    · obtain ⟨i, hi, hterms₁⟩ := h₁.before hi₁
      exact .inr ⟨hT, i, i₂, hi, hi₂, hterms₂.trans hterms₁⟩
  · rcases h₂.order k with hsame₂ | ⟨j, i₁, o₁, o₂, hT, hi₁, hik, ho₁, ho₂⟩
    · rw [hsame₂]
      exact h₁.order k
    · obtain ⟨i, hi, hterms⟩ := h₁.before hi₁
      have hik' : i.purchaseOrderId = k := hterms.order.symm.trans hik
      rcases h₁.order k with hsame₁ | ⟨-, -, o, -, -, -, -, ho, -⟩
      · exact .inr ⟨j, i, o₁, o₂, hT, hi, hik', hsame₁ ▸ ho₁, ho₂⟩
      · exact .inr ⟨j, i, o, o₂, hT, hi, hik', ho, ho₂⟩

theorem settle_touches {id : Uuid} {o : PurchaseOrder} (userId : Uuid)
    (paid : Cents) (hT : T id) (hi : b.purchaseInvoices.find? id = some i)
    (ho : b.purchaseOrders.find? i.purchaseOrderId = some o) :
    Touches T b (PurchaseInvoicesService.settle userId paid i o b) := by
  have hid : i.id = id := Table.key_of_find? hi
  have hoid : o.id = i.purchaseOrderId := Table.key_of_find? ho
  refine ⟨fun k => ?_, fun k => ?_⟩
  · by_cases hk : id = k
    · subst hk
      have hkey : key (PurchaseInvoicesService.settledInvoice userId paid i) = id := hid
      refine .inr ⟨hT, i, PurchaseInvoicesService.settledInvoice userId paid i, hi, ?_, rfl, rfl,
        rfl, rfl⟩
      exact (Table.find?_save _ _ _).trans (if_pos hkey)
    · exact .inl (Table.find?_save_ne _ _ _ fun e => hk (hid.symm.trans e))
  · by_cases hk : i.purchaseOrderId = k
    · subst hk
      have hkey : key (PurchaseInvoicesService.settledOrder userId paid i o) = i.purchaseOrderId :=
        hoid
      refine .inr ⟨id, i, o, PurchaseInvoicesService.settledOrder userId paid i o, hT, hi, rfl, ho,
        ?_⟩
      exact (Table.find?_save _ _ _).trans (if_pos hkey)
    · exact .inl (Table.find?_save_ne _ _ _ fun e => hk (hoid.symm.trans e))

namespace PaymentsService

/-! ## The two loops -/

def Targets (allocations : List PaymentAllocation) (k : Uuid) : Prop :=
  ∃ a ∈ allocations, a.target = invoiceTarget k

/-- Invoice `k` is there and posted. -/
def PostedIn (tables : PurchaseTables) (k : Uuid) : Prop :=
  ∃ i, tables.purchaseInvoices.find? k = some i ∧ i.status = .Posted

variable {companyId : Uuid} {db : Db} {db' : Db}
  {allocations : List PaymentAllocation} {userId : Uuid}

theorem applyTargets_touches
    (htype : ∀ a ∈ allocations, a.referenceType = .PurchaseInvoice) {u : Unit}
    (hc : Commits ((sortedTargets allocations).forM (applyTarget companyId userId allocations)) db u db') :
    Touches (Targets allocations) db.buying db'.buying ∧
      ∀ k, Targets allocations k → PostedIn db.buying k := by
  have hloop := forM_invariant (fun done s => Touches (Targets allocations) db.buying s.buying ∧
      ∀ t ∈ done, PostedIn db.buying t.2)
    (fun done t rest s s' heq hI hstep => ?_) ⟨.refl _ _, fun t ht => by cases ht⟩ hc
  · refine ⟨hloop.1, fun k ⟨a, ha, hk⟩ => ?_⟩
    exact hloop.2 (invoiceTarget k) (mem_sortedTargets.2 ⟨a, ha, hk⟩)
  · have ht : t ∈ sortedTargets allocations := by
      rw [heq]
      exact List.mem_append_right _ List.mem_cons_self
    obtain ⟨a, ha, rfl⟩ := mem_sortedTargets.1 ht
    have htarget : a.target = invoiceTarget a.referenceId := by
      rw [PaymentAllocation.target, htype a ha]
    rw [htarget] at hstep
    obtain ⟨i, o, hfound, hposted, -, rfl⟩ :=
      (PurchaseInvoicesService.commits_applyPayment _ _ _ _ _ _ _).1 hstep
    refine ⟨hI.1.trans (settle_touches userId _ ⟨a, ha, htarget⟩ hfound.row hfound.order), ?_⟩
    rw [List.forall_mem_append]
    refine ⟨hI.2, fun t ht => ?_⟩
    obtain rfl := List.mem_singleton.1 ht
    obtain ⟨i₀, hi₀, hterms⟩ := hI.1.before hfound.row
    exact ⟨i₀, hi₀, hterms.status.symm.trans hposted⟩

theorem unapplyTotals_touches
    (htype : ∀ a ∈ allocations, a.referenceType = .PurchaseInvoice) {u : Unit}
    (hc : Commits ((totalsById allocations).forM (unapplyTotal companyId userId)) db u db') :
    Touches (Targets allocations) db.buying db'.buying := by
  refine forM_invariant (fun _ s => Touches (Targets allocations) db.buying s.buying)
    (fun done e rest s s' heq hI hstep => ?_) (.refl _ _) hc
  have he : e ∈ totalsById allocations := by
    rw [heq]
    exact List.mem_append_right _ List.mem_cons_self
  have htarget : Targets allocations e.1 := by
    obtain ⟨a, ha, hid⟩ := mem_totalsById.1 (List.mem_map_of_mem he)
    exact ⟨a, ha, by rw [PaymentAllocation.target, htype a ha, hid]⟩
  obtain ⟨i, o, hfound, -, rfl⟩ :=
    (PurchaseInvoicesService.commits_unapplyPayment _ _ _ _ _ _ _).1 hstep
  exact hI.trans (settle_touches userId _ htarget hfound.row hfound.order)

/-! ## Amounts -/

def invoiceAmounts (i : PurchaseInvoice) : Cents × Cents := (i.paidAmount, i.balanceAmount)

def orderAmounts (o : PurchaseOrder) : Cents × Cents := (o.paidAmount, o.balanceAmount)

theorem posted_amounts_eq (h : PayablesInv db) (h' : PayablesInv db')
    (hallocated : ∀ k, allocatedTo db' k = allocatedTo db k) {k : Uuid} {i' : PurchaseInvoice}
    (hi : db.buying.purchaseInvoices.find? k = some i)
    (hi' : db'.buying.purchaseInvoices.find? k = some i') (hterms : i'.SameTerms i)
    (hposted : i.status = .Posted) :
    invoiceAmounts i' = invoiceAmounts i ∧
      ∀ o o', db.buying.purchaseOrders.find? i.purchaseOrderId = some o →
        db'.buying.purchaseOrders.find? i.purchaseOrderId = some o' →
          orderAmounts o' = orderAmounts o := by
  have hmem := Table.mem_of_find? hi
  have hmem' := Table.mem_of_find? hi'
  have hid : i.id = k := Table.key_of_find? hi
  have hid' : i'.id = k := Table.key_of_find? hi'
  have hpaid : i'.paidAmount = i.paidAmount := by
    rw [h.agrees.paid i hmem, h'.agrees.paid i' hmem', hid, hid', hallocated]
  have hnotVoid : i.status ≠ .Voided := by
    rw [hposted]
    decide
  obtain ⟨hbalance, -, y, hy, hypaid, hybalance⟩ := h.agrees.settled i hmem hnotVoid
  obtain ⟨hbalance', -, y', hy', hypaid', hybalance'⟩ :=
    h'.agrees.settled i' hmem' (hterms.status ▸ hnotVoid)
  have heq : i'.balanceAmount = i.balanceAmount := by
    rw [hbalance, hbalance', hterms.grandTotal, hterms.credited, hpaid]
  refine ⟨by rw [invoiceAmounts, hpaid, heq, invoiceAmounts], fun o o' ho ho' => ?_⟩
  obtain rfl := Option.some.inj (hy.symm.trans ho)
  rw [hterms.order] at hy'
  obtain rfl := Option.some.inj (hy'.symm.trans ho')
  rw [orderAmounts, hypaid', hybalance', hpaid, heq, ← hypaid, ← hybalance, orderAmounts]

theorem amounts_eq {T : Uuid → Prop} (h : PayablesInv db) (h' : PayablesInv db')
    (htouches : Touches T db.buying db'.buying) (hposted : ∀ k, T k → PostedIn db.buying k)
    (hallocated : ∀ k, allocatedTo db' k = allocatedTo db k) :
    (∀ k, (db'.buying.purchaseInvoices.find? k).map invoiceAmounts =
      (db.buying.purchaseInvoices.find? k).map invoiceAmounts) ∧
    ∀ k, (db'.buying.purchaseOrders.find? k).map orderAmounts =
      (db.buying.purchaseOrders.find? k).map orderAmounts := by
  constructor
  · intro k
    rcases htouches.invoice k with hsame | ⟨hT, i, i', hi, hi', hterms⟩
    · rw [hsame]
    · obtain ⟨i₀, hi₀, hstatus⟩ := hposted k hT
      obtain rfl := Option.some.inj (hi.symm.trans hi₀)
      rw [hi, hi', Option.map_some, Option.map_some,
        (posted_amounts_eq h h' hallocated hi hi' hterms hstatus).1]
  · intro k
    rcases htouches.order k with hsame | ⟨j, i, o, o', hT, hi, rfl, ho, ho'⟩
    · rw [hsame]
    · obtain ⟨i₀, hi₀, hstatus⟩ := hposted j hT
      obtain rfl := Option.some.inj (hi.symm.trans hi₀)
      obtain ⟨i', hi', hterms⟩ := htouches.after hi
      rw [ho, ho', Option.map_some, Option.map_some,
        (posted_amounts_eq h h' hallocated hi hi' hterms hstatus).2 o o' ho ho']

/-! ## Journals -/

theorem findBySource_new {id : Uuid} (h : PayablesInv db)
    (hfresh : db.paying.payments.find? id = none) :
    JournalEntriesService.findBySource db companyId .Payment id = none := by
  cases hfind : JournalEntriesService.findBySource db companyId .Payment id with
  | none => rfl
  | some e =>
    obtain ⟨he, -, htype, hsource⟩ := AccountingPostingService.mem_of_findBySource hfind
    obtain ⟨p, hp, hpid⟩ := h.journals e he htype
    have hpe : p.id = id := Option.some.inj (hpid.symm.trans hsource)
    exact absurd hpe ((Table.find?_eq_none.1 hfresh) p hp)

theorem Created.journal {now : Instant} {dto : CreatePaymentDto}
    {payment : Payment} (h : PayablesInv db)
    (hcreated : Created companyId userId now dto db payment db')
    (hdirection : dto.direction ≠ .Refund) :
    ∃ journal, db.ledger.journalEntries.find? journal.id = none ∧
      db'.ledger.journalEntries = db.ledger.journalEntries.save journal ∧
      journal.lines ≠ [] ∧ journal.status = .Posted ∧ journal.sourceId = some payment.id ∧
      ∀ db₁, db₁.ledger.journalEntries = db'.ledger.journalEntries →
        JournalEntriesService.findBySource db₁ payment.companyId .Payment payment.id =
          some journal := by
  obtain ⟨db₃, db₄, hledger₃, hledger', hpost⟩ := hcreated.ledger
  rcases postToLedger_cases hpost with ⟨hrefund, -⟩ | ⟨-, _, _, _, journal, hpost⟩
  · exact absurd (hcreated.direction ▸ hrefund) hdirection
  · have hnone : JournalEntriesService.findBySource db₃ payment.companyId .Payment payment.id =
        none := by
      rw [JournalEntriesService.findBySource, hledger₃]
      exact findBySource_new h hcreated.fresh
    obtain ⟨_, _, hlines, hposted, hcompany, htype, hsource, hfresh, db₅, -, rfl⟩ :=
      AccountingPostingService.postPayment_spec hnone hpost
    rw [hledger₃] at hfresh hledger'
    have hentries : db'.ledger.journalEntries = db.ledger.journalEntries.save journal := by
      rw [hledger']
    refine ⟨journal, hfresh, hentries, by rw [hlines]; exact List.cons_ne_nil _ _, hposted,
      hsource, ?_⟩
    intro db₁ hdb₁
    rw [hentries] at hdb₁
    have hmem : journal ∈ db₁.ledger.journalEntries.rows := by
      rw [hdb₁]
      exact (Table.mem_save _ _ _).2 (.inl rfl)
    cases hfind : JournalEntriesService.findBySource db₁ payment.companyId .Payment payment.id with
    | none =>
      have hno := (List.find?_eq_none.1 hfind) journal hmem
      simp only [decide_eq_true_eq] at hno
      exact absurd ⟨hcompany, htype, hsource⟩ hno
    | some e =>
      obtain ⟨he, hecompany, hetype, hesource⟩ := AccountingPostingService.mem_of_findBySource hfind
      rw [hdb₁] at he
      rcases (Table.mem_save _ _ _).1 he with rfl | ⟨he, -⟩
      · rfl
      · obtain ⟨p, hp, hpid⟩ := h.journals e he hetype
        have hpe : p.id = payment.id := Option.some.inj (hpid.symm.trans hesource)
        exact absurd hpe ((Table.find?_eq_none.1 hcreated.fresh) p hp)

/-- Reversing undoes paying. From every reachable state, a supplier payment and
its reversal right after it leave every invoice and every order with the paid
amount and the balance they had; the payment is cancelled and no later reversal of it
commits; its journal and the reversal's put nothing on any account. -/
theorem reverse_undoes_create {db₀ db db₁ db₂ : Db} (h₀ : BeforePayables db₀)
    (hreaches : payablesMachine.Reaches db₀ db) {companyId userId companyId' userId' : Uuid}
    {now now' : Instant} {dto : CreatePaymentDto} {key : Option String} {reason : String}
    {payment reversed : Payment} (hdirection : dto.direction = .Payment)
    (hcreate : Commits (create companyId userId now dto key) db (payment, false) db₁)
    (hreverse : Commits (reverse payment.id companyId' userId' now' reason) db₁ reversed db₂) :
    (∀ k, (db₂.buying.purchaseInvoices.find? k).map invoiceAmounts =
      (db.buying.purchaseInvoices.find? k).map invoiceAmounts) ∧
    (∀ k, (db₂.buying.purchaseOrders.find? k).map orderAmounts =
      (db.buying.purchaseOrders.find? k).map orderAmounts) ∧
    db₂.paying.payments.find? payment.id = some reversed ∧ reversed.status = .Cancelled ∧
    (∀ db₃, payablesMachine.Reaches db₂ db₃ → ∀ companyId userId now reason again db₄,
      ¬ Commits (reverse payment.id companyId userId now reason) db₃ again db₄) ∧
    ∃ journal reversal,
      db.ledger.journalEntries.find? journal.id = none ∧
      (db.ledger.journalEntries.save journal).find? reversal.id = none ∧
      db₂.ledger.journalEntries = (db.ledger.journalEntries.save journal).save reversal ∧
      journal.sourceId = some payment.id ∧ journal.status = .Posted ∧ reversal.status = .Posted ∧
      ∀ accountId, net (AccountingPostingService.linePostings (journal.lines ++ reversal.lines))
        accountId = 0 := by
  have hinv := payablesInv_of_reaches h₀ hreaches
  obtain ⟨htrue, -⟩ | ⟨-, hvalid, hrun⟩ := create_cases hcreate
  · cases htrue
  have hcreated := runCreate_created hrun
  have hinv₁ := (create_inv hinv hcreate).inv
  have hfollows := reverse_inv hinv₁ hreverse
  obtain ⟨payment', hrev⟩ := reverse_reversed hreverse
  -- The reversed payment is the created one.
  have hrow : db₁.paying.payments.find? payment.id = some payment := by
    rw [hcreated.payments]
    exact Table.find?_save_self _ _
  obtain rfl := Option.some.inj (hrow.symm.trans hrev.row)
  have hreversed : db₂.paying.payments.find? payment.id = some reversed := by
    rw [hrev.payments, ← hrev.over.2]
    exact Table.find?_save_self _ _
  have hcancelled : reversed.status = .Cancelled := by
    rw [hrev.written]
    rfl
  -- The documents: both loops touch only the targets, and what is allocated is restored.
  have htype : ∀ a ∈ dto.allocations, a.referenceType = .PurchaseInvoice := by
    intro a ha
    rw [(hvalid a ha).1, hdirection]
    rfl
  obtain ⟨db₃, db₄, hbuying₃, hbuying₁, happly⟩ := hcreated.targets
  obtain ⟨happlied, hposted⟩ := applyTargets_touches htype happly
  rw [hbuying₃] at hposted
  obtain ⟨db₅, hbuying₂, hunapply⟩ := hrev.targets
  rw [hcreated.allocations] at hunapply
  have htakenBack := unapplyTotals_touches htype hunapply
  have htouches : Touches (Targets dto.allocations) db.buying db₂.buying := by
    rw [hbuying₂]
    refine Touches.trans ?_ htakenBack
    rw [hbuying₁, ← hbuying₃]
    exact happlied
  obtain ⟨hinvoices, horders⟩ := amounts_eq hinv hfollows.inv htouches hposted fun k => by
    rw [hrev.allocatedTo_eq, hcreated.allocatedTo_eq, hcreated.allocations, add_neg_cancel_right]
  refine ⟨hinvoices, horders, hreversed, hcancelled, ?_, ?_⟩
  · intro db₆ hreaches₆ companyId userId now reason again db₇ hagain
    obtain ⟨p, _, _, hfind, -, hconfirmed, -⟩ := reverse_spec hagain
    have hstay := (follows_of_reaches hfollows.inv hreaches₆).cancelled payment.id reversed
      hreversed hcancelled
    obtain rfl := Option.some.inj (hstay.symm.trans hfind)
    rw [hcancelled] at hconfirmed
    cases hconfirmed
  · -- The ledger: the reversal finds the journal of the payment and books its lines back.
    have hne : dto.direction ≠ .Refund := by
      rw [hdirection]
      decide
    obtain ⟨journal, hfresh, hentries₁, hlines, hjournalPosted, hsource, hfound⟩ :=
      hcreated.journal hinv hne
    obtain ⟨db₆, result, hledger₆, hbooked⟩ := hrev.ledger
    have hfound₆ : JournalEntriesService.findBySource db₆ reversed.companyId .Payment reversed.id =
        some journal := by
      rw [hrev.written]
      exact hfound db₆ (by rw [hledger₆])
    rcases AccountingPostingService.reversePayment_spec hbooked with ⟨-, -, hempty⟩ |
      ⟨original, reversal, db₇, horiginal, -, hreversalLines, hreversalPosted, -, -, hseq, hnew,
        db₈, -, rfl⟩
    · have hdir : reversed.direction ≠ .Refund := by
        rw [hrev.written, show (markReversed userId' now' reason payment).direction =
          payment.direction from rfl, hcreated.direction]
        exact hne
      exact absurd (hempty hdir journal hfound₆) hlines
    · obtain rfl := Option.some.inj (hfound₆.symm.trans horiginal)
      have hentries₇ : db₇.ledger.journalEntries = db.ledger.journalEntries.save journal := by
        rw [hseq, hledger₆, hentries₁]
      rw [hentries₇] at hnew ⊢
      refine ⟨journal, reversal, hfresh, hnew, rfl, hsource, hjournalPosted, hreversalPosted, ?_⟩
      rw [hreversalLines]
      exact AccountingPostingService.journal_reversal_nets_to_zero reversed journal.lines

theorem reverse_undoes_create_two_allocations :
    ∃ db db₁ db₂ payment reversed,
      Commits (create 10 99 PayablesDemo.now PayablesDemo.paymentDto none) db (payment, false) db₁ ∧
      Commits (reverse payment.id 10 99 PayablesDemo.now "duplicate") db₁ reversed db₂ ∧
      (db₂.buying.purchaseInvoices.find? 0).map invoiceAmounts =
        (db.buying.purchaseInvoices.find? 0).map invoiceAmounts := by
  obtain ⟨db, hrun, hdb⟩ := Machine.exists_runWith payablesMachine (fun _ _ => True)
    PayablesDemo.db PayablesDemo.invoicing
    (fun db =>
      let created := run (create 10 99 PayablesDemo.now PayablesDemo.paymentDto none) db
      created.1.toOption.any (PayablesDemo.isNew fun payment =>
        (run (reverse payment.id 10 99 PayablesDemo.now "duplicate") created.2).1.isOk))
    (by decide +kernel)
  obtain ⟨payment, hcreate, hok⟩ := PayablesDemo.commits_of_isNew hdb
  obtain ⟨reversed, hreverse⟩ := commits_of_run_isOk hok
  exact ⟨db, _, _, payment, reversed, hcreate, hreverse,
    (reverse_undoes_create PayablesDemo.beforePayables ⟨_, hrun⟩ rfl hcreate hreverse).1 0⟩

end PaymentsService

end FashionErp
