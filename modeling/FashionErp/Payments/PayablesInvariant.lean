/-
The invariant of what a company owes its suppliers, and its payments.

`PayablesInv` is what every reachable state satisfies.
-/
import FashionErp.Payments.Payables

namespace FashionErp

open Lib Lib.Tx

/-! ## What confirmed payments allocate -/

def confirmedAllocationsTo (db : Db) (invoiceId : Uuid) : List PaymentAllocation :=
  (db.paying.payments.rows.filter fun p => p.status = .Confirmed).flatMap fun p =>
    p.allocations.filter fun a => a.referenceType = .PurchaseInvoice ∧ a.referenceId = invoiceId

/-- The sum of `allocatedAmount` over the allocations of confirmed payments to an invoice. -/
def allocatedTo (db : Db) (invoiceId : Uuid) : Cents :=
  ((confirmedAllocationsTo db invoiceId).map (·.allocatedAmount)).sum

def Payment.postings (p : Payment) : List (AllocationTarget × Cents) :=
  if p.status = .Confirmed then allocationPostings p.allocations else []

theorem net_allocationPostings (allocations : List PaymentAllocation) (type : PaymentReferenceType)
    (id : Uuid) :
    net (allocationPostings allocations) (type, id) =
      ((allocations.filter fun a => a.referenceType = type ∧ a.referenceId = id).map
        (·.allocatedAmount)).sum := by
  rw [net, allocationPostings, List.filter_map, List.map_map]
  congr 2
  refine List.filter_congr fun a _ => ?_
  simp only [Function.comp_apply, PaymentAllocation.posting, PaymentAllocation.target,
    Prod.mk.injEq]

theorem allocatedTo_eq_sum (db : Db) (invoiceId : Uuid) :
    allocatedTo db invoiceId =
      db.paying.payments.sum fun p => net p.postings (invoiceTarget invoiceId) := by
  rw [allocatedTo, confirmedAllocationsTo, Table.sum]
  induction db.paying.payments.rows with
  | nil => rfl
  | cons p ps ih =>
    rw [List.map_cons, List.sum_cons, ← ih, Payment.postings]
    by_cases hp : p.status = .Confirmed
    · rw [List.filter_cons_of_pos (by simpa using hp), List.flatMap_cons, List.map_append,
        List.sum_append, if_pos hp, net_allocationPostings]
    · rw [List.filter_cons_of_neg (by simpa using hp), if_neg hp, net_nil, zero_add]

theorem allocatedTo_new {db db' : Db} {p : Payment}
    (hpayments : db'.paying.payments = db.paying.payments.save p)
    (hfresh : db.paying.payments.find? p.id = none) (invoiceId : Uuid) :
    allocatedTo db' invoiceId =
      allocatedTo db invoiceId + net p.postings (invoiceTarget invoiceId) := by
  rw [allocatedTo_eq_sum, allocatedTo_eq_sum, hpayments, Table.sum_save_new _ _ _ hfresh]

theorem allocatedTo_over {db db' : Db} {p p₀ : Payment}
    (hpayments : db'.paying.payments = db.paying.payments.save p)
    (hold : db.paying.payments.find? p.id = some p₀) (invoiceId : Uuid) :
    allocatedTo db' invoiceId = allocatedTo db invoiceId +
      (net p.postings (invoiceTarget invoiceId) - net p₀.postings (invoiceTarget invoiceId)) := by
  rw [allocatedTo_eq_sum, allocatedTo_eq_sum, hpayments, Table.sum_save_over _ _ _ _ hold]

/-! ## The invariant -/

/-- What every reachable state satisfies: the documents agree with what
confirmed payments allocate, allocated amounts are positive, and the journal of a
payment belongs to a payment there is. -/
structure PayablesInv (db : Db) : Prop where
  agrees : Agrees (allocatedTo db) db.buying
  positive : ∀ p ∈ db.paying.payments.rows, ∀ a ∈ p.allocations, 0 < a.allocatedAmount
  journals : ∀ e ∈ db.ledger.journalEntries.rows, e.sourceType = some .Payment →
    ∃ p ∈ db.paying.payments.rows, e.sourceId = some p.id

def CancelledStay (payments payments' : Table Payment) : Prop :=
  ∀ id p, payments.find? id = some p → p.status = .Cancelled → payments'.find? id = some p

theorem CancelledStay.refl (payments : Table Payment) : CancelledStay payments payments :=
  fun _ _ hp _ => hp

theorem CancelledStay.trans {t t₁ t₂ : Table Payment} (h₁ : CancelledStay t t₁)
    (h₂ : CancelledStay t₁ t₂) : CancelledStay t t₂ :=
  fun id p hp hcancelled => h₂ id p (h₁ id p hp hcancelled) hcancelled

theorem CancelledStay.save {payments : Table Payment} {p : Payment}
    (hp : ∀ p₀, payments.find? p.id = some p₀ → p₀.status ≠ .Cancelled) :
    CancelledStay payments (payments.save p) := by
  intro id q hq hcancelled
  have hne : key p ≠ id := by
    rintro rfl
    exact hp q hq hcancelled
  rw [Table.find?_save_ne _ _ _ hne]
  exact hq

/-- What every request does: from a state of the invariant it ends in one, and
no cancelled payment has changed. -/
structure Follows (db db' : Db) : Prop where
  inv : PayablesInv db'
  cancelled : CancelledStay db.paying.payments db'.paying.payments

theorem Follows.refl {db : Db} (h : PayablesInv db) : Follows db db := ⟨h, .refl _⟩

theorem Follows.trans {db db₁ db₂ : Db} (h₁ : Follows db db₁) (h₂ : Follows db₁ db₂) :
    Follows db db₂ :=
  ⟨h₂.inv, h₁.cancelled.trans h₂.cancelled⟩

theorem PayablesInv.of_same {db db' : Db} (h : PayablesInv db) (hbuying : db'.buying = db.buying)
    (hpaying : db'.paying = db.paying)
    (hentries : ∀ e ∈ db'.ledger.journalEntries.rows, e.sourceType = some .Payment →
      ∃ e₀ ∈ db.ledger.journalEntries.rows, e₀.sourceType = some .Payment ∧
        e.sourceId = e₀.sourceId) : Follows db db' := by
  have hallocated : ∀ k, allocatedTo db k = allocatedTo db' k := by
    intro k
    rw [allocatedTo_eq_sum, allocatedTo_eq_sum, hpaying]
  refine ⟨⟨?_, ?_, ?_⟩, ?_⟩
  · rw [hbuying]
    exact h.agrees.congr hallocated
  · rw [hpaying]
    exact h.positive
  · intro e he htype
    obtain ⟨e₀, he₀, htype₀, hsource⟩ := hentries e he htype
    rw [hpaying, hsource]
    exact h.journals e₀ he₀ htype₀
  · rw [hpaying]
    exact .refl _

theorem PayablesInv.of_buying {db db' : Db} (h : PayablesInv db)
    (hagrees : Agrees (allocatedTo db) db'.buying) (hpaying : db'.paying = db.paying)
    (hledger : db'.ledger = db.ledger) : Follows db db' := by
  have hallocated : ∀ k, allocatedTo db k = allocatedTo db' k := by
    intro k
    rw [allocatedTo_eq_sum, allocatedTo_eq_sum, hpaying]
  refine ⟨⟨hagrees.congr hallocated, ?_, ?_⟩, ?_⟩
  · rw [hpaying]
    exact h.positive
  · rw [hpaying, hledger]
    exact h.journals
  · rw [hpaying]
    exact .refl _

/-! ## Payments -/

namespace PaymentsService

variable {companyId id userId : Uuid} {now : Instant} {dto : CreatePaymentDto} {key : Option String}
  {db db' : Db} {payment reversed : Payment} {reason : String}

theorem create_cases {result : Payment × Bool}
    (h : Commits (create companyId userId now dto key) db result db') :
    (result.2 = true ∧ db = db') ∨
      (result.2 = false ∧ ValidAllocations dto.direction dto.allocations ∧
        Commits (runCreate companyId userId now (dto.paymentDate.getD now) (normalizedKey key) dto)
          db result.1 db') := by
  simp only [create, commits_bind, commits_get] at h
  obtain ⟨_, _, ⟨rfl, rfl⟩, h⟩ := h
  split at h
  · obtain ⟨rfl, rfl⟩ := (commits_pure _ _ _ _).1 h
    exact .inl ⟨rfl, rfl⟩
  · simp only [createFresh, commits_bind, commits_tryCatch, commits_map] at h
    obtain ⟨_, _, hchecks, h⟩ := h
    obtain ⟨hvalid, rfl⟩ := assertCreatable_valid hchecks
    rcases h with ⟨payment, hrun, rfl⟩ | ⟨error, -, h⟩
    · exact .inr ⟨rfl, hvalid, hrun⟩
    · simp only [recover, commits_bind, commits_get] at h
      obtain ⟨_, _, ⟨rfl, rfl⟩, h⟩ := h
      split at h
      · exact absurd h (commits_throw _ _ _ _)
      · split at h
        · simp only [commits_bind, commits_orReject, commits_pure] at h
          obtain ⟨_, _, ⟨-, rfl⟩, rfl, rfl⟩ := h
          exact .inl ⟨rfl, rfl⟩
        · exact absurd h (commits_throw _ _ _ _)

theorem commits_insertPayment (payment : Payment) (db : Db) (u : Unit) (db' : Db) :
    Commits (insertPayment payment) db u db' ↔
      (db.paying.payments.find? payment.id = none ∧
        ∀ p ∈ db.paying.payments.rows, ¬ (p.companyId = payment.companyId ∧
          p.idempotencyKey = payment.idempotencyKey ∧ p.idempotencyKey.isSome)) ∧
      db' = { db with paying := { db.paying with
        payments := db.paying.payments.save payment } } := by
  simp only [insertPayment, savePayment, commits_bind, commits_get, commits_rejectIf,
    commits_modify, Bool.not_eq_true, Option.isSome_eq_false_iff, Option.isNone_iff_eq_none,
    List.any_eq_false, decide_eq_true_eq]
  constructor
  · rintro ⟨_, _, ⟨rfl, rfl⟩, _, _, ⟨hid, rfl⟩, _, _, ⟨hkey, rfl⟩, rfl⟩
    exact ⟨⟨hid, hkey⟩, rfl⟩
  · rintro ⟨⟨hid, hkey⟩, rfl⟩
    exact ⟨db, db, ⟨rfl, rfl⟩, ⟨⟩, db, ⟨hid, rfl⟩, ⟨⟩, db, ⟨hkey, rfl⟩, rfl⟩

theorem postToLedger_cases {u : Unit} (h : Commits (postToLedger now userId payment) db u db') :
    (payment.direction = .Refund ∧ db = db') ∨
      (payment.direction ≠ .Refund ∧ ∃ paymentMethod customer supplier entry,
        Commits (AccountingPostingService.postPayment now payment paymentMethod customer supplier
          userId) db entry db') := by
  simp only [postToLedger, commits_bind, commits_get, commits_orReject, commits_ite,
    commits_void, commits_pure, not_not] at h
  obtain ⟨_, _, ⟨rfl, rfl⟩, paymentMethod, _, ⟨-, rfl⟩, ⟨hne, entry, hpost⟩ | ⟨hrefund, -, rfl⟩⟩ := h
  · exact .inr ⟨hne, paymentMethod, _, _, entry, hpost⟩
  · exact .inl ⟨hrefund, rfl⟩

/-- The steps of a payment that commits: the number is drawn, the targets are
settled, the row is inserted, the ledger step runs, the event is written. -/
theorem runCreate_spec {paymentDate : Instant}
    (h : Commits (runCreate companyId userId now paymentDate key dto) db payment db') :
    ∃ number id db₁ db₂ db₃ db₄, SequencesOnly db db₁ ∧
      Commits ((sortedTargets dto.allocations).forM (applyTarget companyId userId dto.allocations))
        db₁ ⟨⟩ db₂ ∧
      SequencesOnly db₂ db₃ ∧
      payment = newPayment id number companyId userId paymentDate key dto ∧
      db₃.paying.payments.find? payment.id = none ∧
      (∀ p ∈ db₃.paying.payments.rows, ¬ (p.companyId = payment.companyId ∧
        p.idempotencyKey = payment.idempotencyKey ∧ p.idempotencyKey.isSome)) ∧
      Commits (postToLedger now userId payment)
        { db₃ with paying := { db₃.paying with payments := db₃.paying.payments.save payment } }
        ⟨⟩ db₄ ∧
      ∃ event, OutboxService.Announces now (confirmedEvent payment) db₄ event db' := by
  simp only [runCreate, generatePaymentNumber, announce, commits_bind, commits_insertPayment,
    commits_void, commits_pure] at h
  obtain ⟨number, db₁, hnumber, _, db₂, hloop, id, db₃, hid, _, _, ⟨⟨hfresh, hkey⟩, rfl⟩, _, db₄,
    hpost, _, _, ⟨event, hevent⟩, rfl, rfl⟩ := h
  exact ⟨number, id, db₁, db₂, db₃, db₄, nextDocumentNumber_spec hnumber, hloop,
    (randomUUID_spec hid).1, rfl, hfresh, hkey, hpost, event, OutboxService.create_spec hevent⟩

theorem postToLedger_touches {u : Unit} (h : Commits (postToLedger now userId payment) db u db') :
    AccountingPostingService.LedgerOnly db db' ∧ ∀ e ∈ db'.ledger.journalEntries.rows,
      e ∈ db.ledger.journalEntries.rows ∨
        (e.sourceType = some .Payment ∧ e.sourceId = some payment.id) := by
  rcases postToLedger_cases h with ⟨-, rfl⟩ | ⟨-, _, _, _, _, hpost⟩
  · exact ⟨AccountingPostingService.LedgerOnly.refl db, fun e he => .inl he⟩
  · exact AccountingPostingService.postPayment_touches hpost

structure Created (companyId userId : Uuid) (now : Instant) (dto : CreatePaymentDto) (db : Db)
    (payment : Payment) (db' : Db) : Prop where
  payments : db'.paying.payments = db.paying.payments.save payment
  fresh : db.paying.payments.find? payment.id = none
  status : payment.status = .Confirmed
  direction : payment.direction = dto.direction
  allocations : payment.allocations = dto.allocations
  targets : ∃ db₁ db₂, db₁.buying = db.buying ∧ db'.buying = db₂.buying ∧
    Commits ((sortedTargets dto.allocations).forM (applyTarget companyId userId dto.allocations))
      db₁ ⟨⟩ db₂
  ledger : ∃ db₃ db₄, db₃.ledger = db.ledger ∧ db'.ledger = db₄.ledger ∧
    Commits (postToLedger now userId payment) db₃ ⟨⟩ db₄

theorem runCreate_created {paymentDate : Instant}
    (h : Commits (runCreate companyId userId now paymentDate key dto) db payment db') :
    Created companyId userId now dto db payment db' := by
  obtain ⟨number, id, db₁, db₂, db₃, db₄, hseq₁, hloop, hseq₃, hpayment, hfresh, -, hpost, event,
    hevent⟩ := runCreate_spec h
  have hdb' := hevent.db_eq
  have hbuying₁ : db₁.buying = db.buying := by rw [hseq₁]
  have hdocs := applyTargets_documents hloop
  have hpaying₃ : db₃.paying = db.paying := by rw [hseq₃, hdocs, hseq₁]
  have hledger₃ : db₃.ledger = db.ledger := by rw [hseq₃, hdocs, hseq₁]
  have hbuying₃ : db₃.buying = db₂.buying := by rw [hseq₃]
  obtain ⟨hledgerOnly, -⟩ := postToLedger_touches hpost
  have hledger : ∃ db₃ db₄, db₃.ledger = db.ledger ∧ db'.ledger = db₄.ledger ∧
      Commits (postToLedger now userId payment) db₃ ⟨⟩ db₄ := by
    refine ⟨{ db₃ with paying := { db₃.paying with payments := db₃.paying.payments.save payment } },
      db₄, hledger₃, ?_, hpost⟩
    rw [hdb']
  refine ⟨?_, ?_, ?_, ?_, ?_, ⟨db₁, db₂, hbuying₁, ?_, hloop⟩, hledger⟩
  · rw [hdb', hledgerOnly, ← hpaying₃]
  · rw [← hpaying₃]
    exact hfresh
  · rw [hpayment]
    rfl
  · rw [hpayment]
    rfl
  · rw [hpayment]
    rfl
  · rw [hdb', hledgerOnly, ← hbuying₃]

theorem Created.allocatedTo_eq (h : Created companyId userId now dto db payment db') (k : Uuid) :
    allocatedTo db' k = allocatedTo db k + net (allocationPostings dto.allocations)
      (invoiceTarget k) := by
  rw [allocatedTo_new h.payments h.fresh, Payment.postings, if_pos h.status, h.allocations]

/-- Creating a payment keeps the invariant. -/
theorem create_inv {result : Payment × Bool} (h : PayablesInv db)
    (hc : Commits (create companyId userId now dto key) db result db') : Follows db db' := by
  rcases create_cases hc with ⟨-, rfl⟩ | ⟨-, hvalid, hrun⟩
  · exact .refl h
  · have hcreated := runCreate_created hrun
    obtain ⟨db₁, db₂, hbuying₁, hbuying', hloop⟩ := hcreated.targets
    obtain ⟨-, hagrees⟩ := applyTargets_posts hvalid (by rw [hbuying₁]; exact h.agrees) hloop
    obtain ⟨db₃, db₄, hledger₃, hledger', hpost⟩ := hcreated.ledger
    refine ⟨⟨?_, ?_, ?_⟩, ?_⟩
    · rw [hbuying']
      exact hagrees.congr fun k => (hcreated.allocatedTo_eq k).symm
    · rw [hcreated.payments]
      refine Table.forall_save h.positive fun a ha => ?_
      rw [hcreated.allocations] at ha
      exact (hvalid a ha).2
    · intro e he htype
      rw [hledger'] at he
      rw [hcreated.payments]
      rcases (postToLedger_touches hpost).2 e he with he | ⟨-, hsource⟩
      · rw [hledger₃] at he
        obtain ⟨p, hp, hsource⟩ := h.journals e he htype
        refine ⟨p, (Table.mem_save _ _ _).2 (.inr ⟨hp, fun hkey => ?_⟩), hsource⟩
        exact (Table.find?_eq_none.1 hcreated.fresh) p hp hkey
      · exact ⟨result.1, (Table.mem_save _ _ _).2 (.inl rfl), hsource⟩
    · rw [hcreated.payments]
      refine CancelledStay.save fun p₀ hp₀ => ?_
      rw [hcreated.fresh] at hp₀
      cases hp₀

theorem reverse_spec (h : Commits (reverse id companyId userId now reason) db reversed db') :
    ∃ payment db₁ journal, db.paying.payments.find? id = some payment ∧
      payment.companyId = companyId ∧ payment.status = .Confirmed ∧
      payment.direction = .Payment ∧
      (∀ a ∈ payment.allocations, a.referenceType = .PurchaseInvoice) ∧
      Commits ((totalsById payment.allocations).forM (unapplyTotal companyId userId)) db ⟨⟩ db₁ ∧
      reversed = markReversed userId now reason payment ∧
      Commits (AccountingPostingService.reversePayment now reversed userId (some reason))
        { db₁ with paying := { db₁.paying with payments := db₁.paying.payments.save reversed } }
        journal db' := by
  simp only [reverse, savePayment, commits_bind, commits_findConfirmed,
    commits_assertPurchaseInvoiceOnly, commits_modify, commits_pure] at h
  obtain ⟨payment, _, ⟨⟨hfind, hcompany, hconfirmed⟩, rfl⟩, _, _, ⟨⟨hdirection, htype⟩, rfl⟩, _,
    db₁, hloop, _, _, rfl, journal, _, hjournal, rfl, rfl⟩ := h
  exact ⟨payment, db₁, journal, hfind, hcompany, hconfirmed, hdirection, htype, hloop, rfl, hjournal⟩

structure Reversed (id companyId userId : Uuid) (now : Instant) (reason : String) (db : Db)
    (payment reversed : Payment) (db' : Db) : Prop where
  row : db.paying.payments.find? id = some payment
  confirmed : payment.status = .Confirmed
  types : ∀ a ∈ payment.allocations, a.referenceType = .PurchaseInvoice
  written : reversed = markReversed userId now reason payment
  payments : db'.paying.payments = db.paying.payments.save reversed
  targets : ∃ db₁, db'.buying = db₁.buying ∧
    Commits ((totalsById payment.allocations).forM (unapplyTotal companyId userId)) db ⟨⟩ db₁
  ledger : ∃ db₂ journal, db₂.ledger = db.ledger ∧
    Commits (AccountingPostingService.reversePayment now reversed userId (some reason)) db₂ journal
      db'

theorem reverse_reversed (hc : Commits (reverse id companyId userId now reason) db reversed db') :
    ∃ payment, Reversed id companyId userId now reason db payment reversed db' := by
  obtain ⟨payment, db₁, journal, hfind, -, hconfirmed, -, htype, hloop, hwritten, hjournal⟩ :=
    reverse_spec hc
  have hdocs := forM_documents (fun _ _ _ _ => unapplyTotal_documents) hloop
  obtain ⟨hledgerOnly, -⟩ := AccountingPostingService.reversePayment_touches hjournal
  have hpaying₁ : db₁.paying = db.paying := by rw [hdocs]
  have hledger₁ : db₁.ledger = db.ledger := by rw [hdocs]
  have hledger : ∃ db₂ journal, db₂.ledger = db.ledger ∧
      Commits (AccountingPostingService.reversePayment now reversed userId (some reason)) db₂
        journal db' :=
    ⟨{ db₁ with paying := { db₁.paying with payments := db₁.paying.payments.save reversed } },
      journal, hledger₁, hjournal⟩
  refine ⟨payment, hfind, hconfirmed, htype, hwritten, ?_, ⟨db₁, ?_, hloop⟩, hledger⟩
  · rw [hledgerOnly, ← hpaying₁]
  · rw [hledgerOnly]

theorem Reversed.over (h : Reversed id companyId userId now reason db payment reversed db') :
    db.paying.payments.find? reversed.id = some payment ∧ reversed.id = id := by
  have hid : reversed.id = id := by
    rw [h.written]
    exact Table.key_of_find? h.row
  rw [hid]
  exact ⟨h.row, rfl⟩

theorem Reversed.allocatedTo_eq
    (h : Reversed id companyId userId now reason db payment reversed db') (k : Uuid) :
    allocatedTo db' k = allocatedTo db k +
      -net (allocationPostings payment.allocations) (invoiceTarget k) := by
  have hcancelled : reversed.status ≠ .Confirmed := by
    rw [h.written]
    exact fun e => PaymentStatus.noConfusion e
  rw [allocatedTo_over h.payments h.over.1, Payment.postings, if_neg hcancelled, Payment.postings,
    if_pos h.confirmed, net_nil, zero_sub]

theorem reverse_inv (h : PayablesInv db)
    (hc : Commits (reverse id companyId userId now reason) db reversed db') : Follows db db' := by
  obtain ⟨payment, hrev⟩ := reverse_reversed hc
  obtain ⟨hold, hid⟩ := hrev.over
  obtain ⟨db₁, hbuying, hloop⟩ := hrev.targets
  obtain ⟨db₂, journal, hledger, hjournal⟩ := hrev.ledger
  have hpos := h.positive payment (Table.mem_of_find? hold)
  have hnonneg := totalsById_nonneg hpos
  obtain ⟨-, hagrees⟩ := forM_posts _ (fun e he _ _ _ hI hstep =>
    unapplyTotal_posts (hnonneg e he) hI hstep) h.agrees hloop
  refine ⟨⟨?_, ?_, ?_⟩, ?_⟩
  · rw [hbuying]
    refine hagrees.congr fun k => ?_
    rw [hrev.allocatedTo_eq, net_takenBack hrev.types]
  · rw [hrev.payments, hrev.written]
    exact Table.forall_save h.positive hpos
  · intro e he hsource
    rw [hrev.payments]
    rcases (AccountingPostingService.reversePayment_touches hjournal).2 e he with he | hmanual
    · rw [hledger] at he
      obtain ⟨p, hp, hpid⟩ := h.journals e he hsource
      by_cases hpe : p.id = reversed.id
      · exact ⟨_, (Table.mem_save _ _ _).2 (.inl rfl), by rw [hpid, hpe]⟩
      · exact ⟨p, (Table.mem_save _ _ _).2 (.inr ⟨hp, hpe⟩), hpid⟩
    · rw [hmanual] at hsource
      cases hsource
  · rw [hrev.payments]
    refine CancelledStay.save fun p₀ hp₀ => ?_
    obtain rfl := Option.some.inj (hold.symm.trans hp₀)
    rw [hrev.confirmed]
    decide

theorem reallocate_spec {dto : ReallocatePaymentDto} {reallocated : Payment}
    (h : Commits (reallocate id companyId userId now dto) db reallocated db') :
    ∃ payment db₁ db₂, db.paying.payments.find? id = some payment ∧
      payment.companyId = companyId ∧ payment.status = .Confirmed ∧
      payment.direction = .Payment ∧
      (∀ a ∈ payment.allocations, a.referenceType = .PurchaseInvoice) ∧
      ValidAllocations payment.direction dto.allocations ∧
      Commits ((totalsById payment.allocations).forM (unapplyTotal companyId userId)) db ⟨⟩ db₁ ∧
      Commits ((totalsById dto.allocations).forM (applyTotal companyId userId))
        { db₁ with paying := { db₁.paying with
          payments := db₁.paying.payments.save { payment with allocations := [] } } } ⟨⟩ db₂ ∧
      reallocated = markReallocated userId now dto payment ∧
      db' = { db₂ with paying := { db₂.paying with
        payments := db₂.paying.payments.save reallocated } } := by
  simp only [reallocate, assertAllocationsFullyCoverAmount, savePayment, commits_bind,
    commits_findConfirmed, commits_assertPurchaseInvoiceOnly, commits_assertAllocationsValid,
    commits_rejectIf, commits_modify, commits_pure] at h
  obtain ⟨payment, _, ⟨⟨hfind, hcompany, hconfirmed⟩, rfl⟩, _, _, ⟨⟨hdirection, htype⟩, rfl⟩, _, _,
    ⟨⟨hvalid, -⟩, rfl⟩, _, _, ⟨-, rfl⟩, _, db₁, hunapply, _, _, rfl, _, db₂, happly, _, _, rfl,
    rfl, rfl⟩ := h
  exact ⟨payment, db₁, db₂, hfind, hcompany, hconfirmed, hdirection, htype, hvalid, hunapply,
    happly, rfl, rfl⟩

theorem reallocated_allocatedTo {db₂ : Db} (userId : Uuid) (now : Instant)
    (dto : ReallocatePaymentDto) (hfind : db.paying.payments.find? id = some payment)
    (hconfirmed : payment.status = .Confirmed)
    (hpayments : db₂.paying.payments = db.paying.payments.save { payment with allocations := [] })
    (k : Uuid) :
    allocatedTo { db₂ with paying := { db₂.paying with
      payments := db₂.paying.payments.save (markReallocated userId now dto payment) } } k =
      allocatedTo db k + (net (allocationPostings dto.allocations) (invoiceTarget k) -
        net (allocationPostings payment.allocations) (invoiceTarget k)) := by
  have hid : payment.id = id := Table.key_of_find? hfind
  have hcleared : allocatedTo db₂ k = allocatedTo db k +
      (0 - net (allocationPostings payment.allocations) (invoiceTarget k)) := by
    rw [allocatedTo_over hpayments (by rw [← hid] at hfind; exact hfind)]
    simp only [Payment.postings, hconfirmed, if_true, allocationPostings, List.map_nil, net_nil]
  have hold : db₂.paying.payments.find? (markReallocated userId now dto payment).id =
      some { payment with allocations := [] } := by
    rw [hpayments]
    exact Table.find?_save_self _ _
  rw [allocatedTo_over rfl hold, hcleared]
  simp only [Payment.postings, hconfirmed, if_true, markReallocated, allocationPostings,
    List.map_nil, net_nil]
  abel

theorem reallocate_inv {dto : ReallocatePaymentDto} {reallocated : Payment} (h : PayablesInv db)
    (hc : Commits (reallocate id companyId userId now dto) db reallocated db') :
    Follows db db' := by
  obtain ⟨payment, db₁, db₂, hfind, -, hconfirmed, hdirection, htype, hvalid, hunapply, happly, rfl,
    rfl⟩ := reallocate_spec hc
  have hpos := h.positive payment (Table.mem_of_find? hfind)
  have hnonneg := totalsById_nonneg hpos
  have hnewType : ∀ a ∈ dto.allocations, a.referenceType = .PurchaseInvoice := by
    intro a ha
    rw [(hvalid a ha).1, hdirection]
    rfl
  obtain ⟨hdocs₁, hagrees₁⟩ := forM_posts _ (fun e he _ _ _ hI hstep =>
    unapplyTotal_posts (hnonneg e he) hI hstep) h.agrees hunapply
  have hagrees₁' : Agrees _ ({ db₁ with paying := { db₁.paying with
      payments := db₁.paying.payments.save { payment with allocations := [] } } } : Db).buying :=
    hagrees₁
  obtain ⟨hdocs₂, hagrees₂⟩ := forM_posts _ (fun _ _ _ _ _ hI hstep =>
    applyTotal_posts hI hstep) hagrees₁' happly
  have hid : payment.id = id := Table.key_of_find? hfind
  have hpayments₁ : db₁.paying.payments = db.paying.payments := by rw [hdocs₁]
  have hpayments₂ : db₂.paying.payments =
      db.paying.payments.save { payment with allocations := [] } := by
    rw [hdocs₂, ← hpayments₁]
  have hledger : db₂.ledger = db.ledger := by rw [hdocs₂, hdocs₁]
  have hallocated := reallocated_allocatedTo userId now dto hfind hconfirmed hpayments₂
  refine ⟨⟨?_, ?_, ?_⟩, ?_⟩
  · refine hagrees₂.congr fun k => ?_
    rw [hallocated, net_takenBack htype, net_totalPostings hnewType]
    abel
  · change ∀ p ∈ (db₂.paying.payments.save _).rows, _
    rw [hpayments₂]
    refine Table.forall_save (Table.forall_save h.positive fun a ha => ?_) fun a ha => ?_
    · cases ha
    · exact (hvalid a ha).2
  · intro e he hsource
    change e ∈ db₂.ledger.journalEntries.rows at he
    rw [hledger] at he
    obtain ⟨p, hp, hpid⟩ := h.journals e he hsource
    change ∃ p ∈ (db₂.paying.payments.save _).rows, _
    by_cases hpe : p.id = id
    · exact ⟨_, (Table.mem_save _ _ _).2 (.inl rfl), by rw [hpid, hpe, ← hid]; rfl⟩
    · refine ⟨p, (Table.mem_save _ _ _).2 (.inr ⟨?_, fun hk => hpe (hk.trans hid)⟩), hpid⟩
      rw [hpayments₂]
      exact (Table.mem_save _ _ _).2 (.inr ⟨hp, fun hk => hpe (hk.trans hid)⟩)
  · have hcleared : CancelledStay db.paying.payments db₂.paying.payments := by
      rw [hpayments₂]
      refine CancelledStay.save fun p₀ hp₀ => ?_
      rw [← hid] at hfind
      obtain rfl := Option.some.inj (hfind.symm.trans hp₀)
      rw [hconfirmed]
      decide
    refine hcleared.trans (CancelledStay.save fun p₀ hp₀ => ?_)
    rw [hpayments₂] at hp₀
    obtain rfl := Option.some.inj ((Table.find?_save_self _ _).symm.trans hp₀)
    rw [show ({ payment with allocations := [] } : Payment).status = payment.status from rfl,
      hconfirmed]
    decide

end PaymentsService

end FashionErp
