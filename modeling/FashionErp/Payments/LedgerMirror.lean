/-
The general ledger beside the payments: `create`, `reverse` and `reallocate`, any number
of calls at the same time, each of which may fail at any of its steps.

`create` posts its payment before it commits, under the payment's id as the source.
-/
import FashionErp.Payments.CreateRace

namespace FashionErp.LedgerMirror

open Lib Lib.Tx PaymentsService AccountingPostingService

/-! ## Payments and their journals -/

/-- The entries with source (`PAYMENT`, `id`). -/
def journalsOf (entries : Table JournalEntry) (id : Uuid) : List JournalEntry :=
  entries.rows.filter fun e => e.sourceType = some .Payment ∧ e.sourceId = some id

def RefersTo (e : JournalEntry) (id : Uuid) : Prop :=
  ∃ line ∈ e.lines, line.referenceType = some .Payment ∧ line.referenceId = some id

instance (e : JournalEntry) (id : Uuid) : Decidable (RefersTo e id) :=
  inferInstanceAs (Decidable (∃ line ∈ e.lines, _))

/-- The entries `reversePayment` has made for the payment. -/
def reversalsOf (entries : Table JournalEntry) (id : Uuid) : List JournalEntry :=
  entries.rows.filter fun e => e.sourceType = some .Manual ∧ RefersTo e id

/-- What the ledger has on a payment: one posted entry with the payment as its source, of
two lines, the amount on opposite sides; and one reversal of it if the payment is cancelled,
none if it is confirmed. -/
structure Mirrored (entries : Table JournalEntry) (payment : Payment) (journal : JournalEntry) :
    Prop where
  only : journalsOf entries payment.id = [journal]
  posted : journal.status = .Posted
  company : journal.companyId = payment.companyId
  lines : ∃ debitAccountId creditAccountId,
    journal.lines.map (fun line => (line.accountId, line.debitAmount, line.creditAmount)) =
      [(debitAccountId, payment.amount, 0), (creditAccountId, 0, payment.amount)]
  confirmed : payment.status = .Confirmed → reversalsOf entries payment.id = []
  cancelled : payment.status = .Cancelled →
    ∃ reversal, reversalsOf entries payment.id = [reversal] ∧ reversal.status = .Posted ∧
      ∀ accountId, net (linePostings (journal.lines ++ reversal.lines)) accountId = 0

def IsOf (e : JournalEntry) (id : Uuid) : Prop :=
  (e.sourceType = some .Payment ∧ e.sourceId = some id) ∨ RefersTo e id

/-- The ledger mirrors the payments: each payment that is no refund has its entries, and
no entry is of a payment that is not there. -/
structure Mirrors (db : Db) : Prop where
  mirrored : ∀ p ∈ db.paying.payments.rows, p.direction ≠ .Refund →
    ∃ journal, Mirrored db.ledger.journalEntries p journal
  committed : ∀ e ∈ db.ledger.journalEntries.rows, ∀ id, IsOf e id →
    (db.paying.payments.find? id).isSome

theorem mirrors_of_no_payments {db : Db} (hpayments : db.paying.payments.rows = [])
    (hentries : ∀ e ∈ db.ledger.journalEntries.rows, ∀ id, ¬ IsOf e id) : Mirrors db where
  mirrored p hp := by
    rw [hpayments] at hp
    cases hp
  committed e he id hof := absurd hof (hentries e he id)

/-! ## One more entry -/

section Added

variable {entries : Table JournalEntry} {entry : JournalEntry}
  (hfresh : entries.find? entry.id = none)

include hfresh

theorem journalsOf_save (id : Uuid) :
    journalsOf (entries.save entry) id = journalsOf entries id ++
      [entry].filter fun e => e.sourceType = some .Payment ∧ e.sourceId = some id :=
  Table.filter_rows_save_new hfresh _

theorem reversalsOf_save (id : Uuid) :
    reversalsOf (entries.save entry) id = reversalsOf entries id ++
      [entry].filter fun e => e.sourceType = some .Manual ∧ RefersTo e id :=
  Table.filter_rows_save_new hfresh _

theorem Mirrored.add {payment : Payment} {journal : JournalEntry}
    (h : Mirrored entries payment journal) (hof : ¬ IsOf entry payment.id) :
    Mirrored (entries.save entry) payment journal := by
  have hsource : ¬ (entry.sourceType = some .Payment ∧ entry.sourceId = some payment.id) :=
    fun hsource => hof (.inl hsource)
  have hrefers : ¬ (entry.sourceType = some .Manual ∧ RefersTo entry payment.id) :=
    fun hrefers => hof (.inr hrefers.2)
  have hjournals : journalsOf (entries.save entry) payment.id = journalsOf entries payment.id := by
    rw [journalsOf_save hfresh, List.filter_cons_of_neg (by simpa using hsource)]
    exact List.append_nil _
  have hreversals : reversalsOf (entries.save entry) payment.id =
      reversalsOf entries payment.id := by
    rw [reversalsOf_save hfresh, List.filter_cons_of_neg (by simpa using hrefers)]
    exact List.append_nil _
  refine ⟨?_, h.posted, h.company, h.lines, ?_, ?_⟩
  · rw [hjournals]
    exact h.only
  · rw [hreversals]
    exact h.confirmed
  · rw [hreversals]
    exact h.cancelled

end Added

variable {id companyId userId : Uuid}

theorem Mirrors.none_of {db : Db} (h : Mirrors db) (hnone : db.paying.payments.find? id = none) :
    ∀ e ∈ db.ledger.journalEntries.rows, ¬ IsOf e id := by
  intro e he hof
  have hfound := h.committed e he id hof
  rw [hnone] at hfound
  cases hfound

theorem Mirrored.findBySource {db : Db} {payment : Payment} {journal : JournalEntry}
    (h : Mirrored db.ledger.journalEntries payment journal) :
    JournalEntriesService.findBySource db payment.companyId .Payment payment.id =
      some journal := by
  have hmem : journal ∈ journalsOf db.ledger.journalEntries payment.id := by
    rw [h.only]
    exact List.mem_singleton_self _
  obtain ⟨hrow, hsource⟩ := List.mem_filter.1 hmem
  simp only [decide_eq_true_eq] at hsource
  cases hfind : JournalEntriesService.findBySource db payment.companyId .Payment payment.id with
  | none =>
    have hno := (List.find?_eq_none.1 hfind) journal hrow
    simp only [decide_eq_true_eq] at hno
    exact absurd ⟨h.company, hsource⟩ hno
  | some e =>
    obtain ⟨he, -, htype, hid⟩ := mem_of_findBySource hfind
    have hother : e ∈ journalsOf db.ledger.journalEntries payment.id :=
      List.mem_filter.2 ⟨he, by simp [htype, hid]⟩
    rw [h.only] at hother
    rw [List.mem_singleton.1 hother]

theorem Mirrored.lines_ne_nil {entries : Table JournalEntry} {payment : Payment}
    {journal : JournalEntry} (h : Mirrored entries payment journal) : journal.lines ≠ [] := by
  intro hnil
  obtain ⟨debitAccountId, creditAccountId, hlines⟩ := h.lines
  rw [hnil] at hlines
  cases hlines

theorem Mirrored.congr {entries : Table JournalEntry} {p p' : Payment} {journal : JournalEntry}
    (h : Mirrored entries p journal) (hid : p'.id = p.id) (hcompany : p'.companyId = p.companyId)
    (hamount : p'.amount = p.amount) (hstatus : p'.status = p.status) :
    Mirrored entries p' journal where
  only := by rw [hid]; exact h.only
  posted := h.posted
  company := by rw [hcompany]; exact h.company
  lines := by rw [hamount]; exact h.lines
  confirmed := by rw [hid, hstatus]; exact h.confirmed
  cancelled := by rw [hid, hstatus]; exact h.cancelled

/-! ## What each transaction does to the ledger -/

theorem find?_save_isSome {payments : Table Payment} {p : Payment}
    (h : (payments.find? id).isSome) : ((payments.save p).find? id).isSome := by
  rw [Table.find?_save]
  split
  · rfl
  · exact h

variable {now : Instant}

/-- A created payment has its journal, unless it is a refund. -/
theorem mirrors_create {paymentDate : Instant}
    {key : Option String} {dto : CreatePaymentDto} {db db' : Db} {payment : Payment}
    (h : Mirrors db)
    (hc : Commits (runCreate companyId userId now paymentDate key dto) db payment db') :
    Mirrors db' := by
  have hcreated := runCreate_created hc
  obtain ⟨db₃, db₄, hledger₃, hledger', hpost⟩ := hcreated.ledger
  have hnone := h.none_of hcreated.fresh
  have hne : ∀ p ∈ db.paying.payments.rows, p.id ≠ payment.id := by
    intro p hp
    exact (Table.find?_eq_none.1 hcreated.fresh) p hp
  rcases postToLedger_cases hpost with ⟨hrefund, rfl⟩ | ⟨-, paymentMethod, customer, supplier, entry,
    hposted⟩
  · have hledger : db'.ledger = db.ledger := hledger'.trans hledger₃
    refine ⟨?_, ?_⟩
    · rw [hcreated.payments, hledger]
      refine Table.forall_save h.mirrored fun hdirection => ?_
      exact absurd hrefund hdirection
    · rw [hcreated.payments, hledger]
      intro e he id hof
      exact find?_save_isSome (h.committed e he id hof)
  · have hunposted : JournalEntriesService.findBySource db₃ payment.companyId .Payment payment.id =
        none := by
      rw [JournalEntriesService.findBySource, hledger₃, List.find?_eq_none]
      intro e he hsource
      simp only [decide_eq_true_eq] at hsource
      exact hnone e he (.inl hsource.2)
    obtain ⟨debitAccountId, creditAccountId, hlines, hstatus, hcompany, htype, hsource, hfresh, db₅,
      -, rfl⟩ := postPayment_spec hunposted hposted
    rw [hledger₃] at hfresh hledger'
    have hentries : db'.ledger.journalEntries = db.ledger.journalEntries.save entry := by
      rw [hledger']
    have hrefers : ∀ id, RefersTo entry id → id = payment.id := by
      rintro id ⟨line, hline, -, hid⟩
      rw [hlines] at hline
      rcases List.mem_cons.1 hline with rfl | hline
      · exact (Option.some.inj hid).symm
      · rw [List.mem_singleton.1 hline] at hid
        exact (Option.some.inj hid).symm
    have hisOf : ∀ id, IsOf entry id → id = payment.id := by
      rintro id (⟨-, hid⟩ | hrefers')
      · exact Option.some.inj (hid.symm.trans hsource)
      · exact hrefers id hrefers'
    refine ⟨?_, ?_⟩
    · rw [hcreated.payments, hentries]
      refine Table.forall_save ?_ ?_
      · intro p hp hdirection
        obtain ⟨journal, hjournal⟩ := h.mirrored p hp hdirection
        exact ⟨journal, hjournal.add hfresh fun hof => hne p hp (hisOf _ hof)⟩
      · intro _
        refine ⟨entry, ?_, hstatus, hcompany, ⟨debitAccountId, creditAccountId, ?_⟩, ?_, ?_⟩
        · have hempty : journalsOf db.ledger.journalEntries payment.id = [] := by
            refine List.filter_eq_nil_iff.2 fun e he hof => ?_
            simp only [decide_eq_true_eq] at hof
            exact hnone e he (.inl hof)
          rw [journalsOf_save hfresh, hempty, List.filter_cons_of_pos (by simp [htype, hsource])]
          rfl
        · rw [hlines]
          rfl
        · intro _
          have hempty : reversalsOf db.ledger.journalEntries payment.id = [] := by
            refine List.filter_eq_nil_iff.2 fun e he hof => ?_
            simp only [decide_eq_true_eq] at hof
            exact hnone e he (.inr hof.2)
          rw [reversalsOf_save hfresh, hempty, List.filter_cons_of_neg (by simp [htype])]
          rfl
        · intro hcancelled
          rw [hcreated.status] at hcancelled
          cases hcancelled
    · rw [hcreated.payments, hentries]
      intro e he id hof
      rcases (Table.mem_save _ _ _).1 he with rfl | ⟨he, -⟩
      · rw [hisOf id hof, show payment.id = Keyed.key payment from rfl, Table.find?_save_self]
        rfl
      · exact find?_save_isSome (h.committed e he id hof)

/-- A reversed payment has its reversal: the lines of its journal the other way round. -/
theorem mirrors_reverse {reason : String} {db db' : Db} {reversed : Payment} (h : Mirrors db)
    (hc : Commits (reverse id companyId userId now reason) db reversed db') : Mirrors db' := by
  obtain ⟨payment, hrev⟩ := reverse_reversed hc
  obtain ⟨payment', -, -, hfind, -, -, hdirection, -⟩ := reverse_spec hc
  obtain rfl := Option.some.inj (hrev.row.symm.trans hfind)
  obtain ⟨db₂, result, hledger, hpost⟩ := hrev.ledger
  obtain ⟨hover, -⟩ := hrev.over
  have hid : reversed.id = payment.id := (Table.key_of_find? hover).symm
  have hrow := Table.mem_of_find? hover
  have hdirection' : payment.direction ≠ .Refund := by
    rw [hdirection]
    exact fun e => PaymentDirection.noConfusion e
  obtain ⟨journal, hjournal⟩ := h.mirrored payment hrow hdirection'
  have hfound : JournalEntriesService.findBySource db₂ reversed.companyId .Payment reversed.id =
      some journal := by
    rw [JournalEntriesService.findBySource, hledger, hrev.written]
    exact hjournal.findBySource
  rcases reversePayment_spec hpost with ⟨-, -, hnot⟩ |
    ⟨original, entry, db₃, horiginal, -, hlines, hstatus, -, htype, hsequences, hadded⟩
  · -- the journal is there, and has lines
    refine absurd (hnot ?_ journal hfound) hjournal.lines_ne_nil
    rw [hrev.written]
    exact hdirection'
  · obtain rfl := Option.some.inj (hfound.symm.trans horiginal)
    obtain ⟨hfresh, db₄, -, rfl⟩ := hadded
    have hledger₃ : db₃.ledger = db.ledger := by rw [hsequences, hledger]
    rw [hledger₃] at hfresh
    have hentries : ({ db₄ with ledger := { db₄.ledger with
        journalEntries := db₃.ledger.journalEntries.save entry } } : Db).ledger.journalEntries =
        db.ledger.journalEntries.save entry := by rw [← hledger₃]
    have hisOf : ∀ id, IsOf entry id → id = payment.id := by
      rintro id (⟨hpayment, -⟩ | ⟨line, hline, -, hlineId⟩)
      · rw [htype] at hpayment
        cases hpayment
      · rw [hlines] at hline
        obtain ⟨line₀, -, rfl⟩ := List.mem_map.1 hline
        rw [← hid]
        exact (Option.some.inj hlineId).symm
    refine ⟨?_, ?_⟩
    · rw [hentries, hrev.payments]
      intro p hp hpdirection
      rcases (Table.mem_save _ _ _).1 hp with rfl | ⟨hp, hne⟩
      · refine ⟨journal, ?_, hjournal.posted, ?_, ?_, ?_, ?_⟩
        · rw [journalsOf_save hfresh, hid, hjournal.only,
            List.filter_cons_of_neg (by simp [htype])]
          rfl
        · rw [hrev.written]
          exact hjournal.company
        · rw [hrev.written]
          exact hjournal.lines
        · intro hconfirmed
          rw [hrev.written] at hconfirmed
          cases hconfirmed
        · intro _
          have hrefers : RefersTo entry payment.id := by
            obtain ⟨line, rest, hcons⟩ := List.exists_cons_of_ne_nil hjournal.lines_ne_nil
            refine ⟨reversedLine p line, ?_, rfl, ?_⟩
            · rw [hlines, hcons]
              exact List.mem_cons_self
            · rw [← hid]
              rfl
          refine ⟨entry, ?_, hstatus, ?_⟩
          · rw [reversalsOf_save hfresh, hid, hjournal.confirmed hrev.confirmed,
              List.filter_cons_of_pos (by simp [htype, hrefers])]
            rfl
          · intro accountId
            rw [hlines]
            exact journal_reversal_nets_to_zero p journal.lines accountId
      · obtain ⟨other, hother⟩ := h.mirrored p hp hpdirection
        refine ⟨other, hother.add hfresh fun hof => hne ?_⟩
        exact (hisOf _ hof).trans hid.symm
    · rw [hentries, hrev.payments]
      intro e he id hof
      rcases (Table.mem_save _ _ _).1 he with rfl | ⟨he, -⟩
      · rw [hisOf id hof, ← hid, show reversed.id = Keyed.key reversed from rfl,
          Table.find?_save_self]
        rfl
      · exact find?_save_isSome (h.committed e he id hof)

theorem reallocate_leaves {dto : ReallocatePaymentDto} {db db' : Db} {reallocated : Payment}
    (hc : Commits (reallocate id companyId userId now dto) db reallocated db') :
    db'.ledger = db.ledger ∧ ∃ payment, db.paying.payments.find? id = some payment ∧
      reallocated = markReallocated userId now dto payment ∧
      db'.paying.payments = db.paying.payments.save reallocated := by
  obtain ⟨payment, db₁, db₂, hfind, -, -, -, -, -, hunapply, happly, hreallocated, rfl⟩ :=
    reallocate_spec hc
  have hdocs₁ := forM_documents (fun _ _ _ _ => unapplyTotal_documents) hunapply
  have hdocs₂ := forM_documents (fun _ _ _ _ => applyTotal_documents) happly
  refine ⟨?_, payment, hfind, hreallocated, ?_⟩
  · show db₂.ledger = db.ledger
    rw [hdocs₂, hdocs₁]
  · show db₂.paying.payments.save reallocated = _
    have hpaying : db₂.paying.payments =
        db₁.paying.payments.save { payment with allocations := [] } := by rw [hdocs₂]
    have hpaying₁ : db₁.paying.payments = db.paying.payments := by rw [hdocs₁]
    rw [hpaying, hpaying₁, Table.save_save]
    rw [hreallocated]
    rfl

theorem mirrors_reallocate
    {dto : ReallocatePaymentDto} {db db' : Db} {reallocated : Payment} (h : Mirrors db)
    (hc : Commits (reallocate id companyId userId now dto) db reallocated db') : Mirrors db' := by
  obtain ⟨hledger, payment, hfind, hreallocated, hpayments⟩ := reallocate_leaves hc
  refine ⟨?_, ?_⟩
  · rw [hledger, hpayments]
    refine Table.forall_save h.mirrored fun hdirection => ?_
    rw [hreallocated] at hdirection ⊢
    obtain ⟨journal, hjournal⟩ := h.mirrored payment (Table.mem_of_find? hfind) hdirection
    exact ⟨journal, hjournal.congr rfl rfl rfl rfl⟩
  · rw [hledger, hpayments]
    intro e he id hof
    exact find?_save_isSome (h.committed e he id hof)

/-! ## The calls, one step at a time -/

inductive Change
  | reverse (reason : String)
  | reallocate (dto : ReallocatePaymentDto)

inductive Request
  | create (call : CreateRace.Call)
  | change (id companyId userId : Uuid) (now : Instant) (change : Change)

def Change.transaction (id companyId userId : Uuid) (now : Instant) : Change → DbTx Payment
  | reverse reason => PaymentsService.reverse id companyId userId now reason
  | reallocate dto => PaymentsService.reallocate id companyId userId now dto

def Change.read (id companyId : Uuid) : Change → DbTx Payment
  | reverse _ => do
    let payment ← findConfirmed "reverse" id companyId
    assertPurchaseInvoiceOnlyAllocations payment payment.allocations
    return payment
  | reallocate dto => do
    let payment ← findConfirmed "reallocate" id companyId
    assertPurchaseInvoiceOnlyAllocations payment payment.allocations
    assertAllocationsValid payment.direction payment.amount dto.allocations
    assertAllocationsFullyCoverAmount payment.amount dto.allocations
    return payment

def Change.write (companyId userId : Uuid) (now : Instant) (payment : Payment) :
    Change → DbTx Payment
  | reverse reason => do
    (totalsById payment.allocations).forM (unapplyTotal companyId userId)
    let reversed := markReversed userId now reason payment
    savePayment reversed
    let _journal ← reversePayment now reversed userId (some reason)
    return reversed
  | reallocate dto => do
    (totalsById payment.allocations).forM (unapplyTotal companyId userId)
    savePayment { payment with allocations := [] }
    (totalsById dto.allocations).forM (applyTotal companyId userId)
    savePayment (markReallocated userId now dto payment)
    return markReallocated userId now dto payment

inductive Settlement
  | unapply (allocation : Uuid × Cents)
  | apply (allocation : Uuid × Cents)

def Settlement.invoiceId : Settlement → Uuid
  | unapply allocation => allocation.1
  | apply allocation => allocation.1

def Settlement.settle (companyId userId : Uuid) : Settlement → DbTx Unit
  | unapply allocation => unapplyTotal companyId userId allocation
  | apply allocation => applyTotal companyId userId allocation

def Change.settlements (payment : Payment) : Change → List Settlement
  | reverse _ => (totalsById payment.allocations).map .unapply
  | reallocate dto =>
    (totalsById payment.allocations).map .unapply ++ (totalsById dto.allocations).map .apply

inductive Lock
  | create (l : CreateRace.Lock)
  | payment (id : Uuid)
  deriving DecidableEq

inductive Phase
  | called
  | creating (p : CreateRace.Phase)
  /-- The row of the payment is held. -/
  | holding
  | settling (payment : Payment) (done todo : List Settlement)
  /-- The row of the next invoice is held too. -/
  | locked (payment : Payment) (done : List Settlement) (t : Settlement) (todo : List Settlement)
  | returned (payment : Payment)
  | rejected (error : Failure)
  /-- The connection is lost. -/
  | aborted

inductive Label
  | create (l : CreateRace.Label)
  | lockPayment
  | read
  | lockInvoice
  | settle
  | commit
  | abort

def readMove (id companyId : Uuid) (change : Change) (db : Db) : Move Db Lock Phase :=
  match (run (change.read id companyId) db).1 with
  | .ok payment => .goto (.settling payment [] (change.settlements payment))
  | .error error => .leave (.rejected error)

def settleMove (companyId userId : Uuid) (payment : Payment) (done : List Settlement)
    (t : Settlement) (todo : List Settlement) (db : Db) : Move Db Lock Phase :=
  match (run (t.settle companyId userId)
      (run (done.forM (Settlement.settle companyId userId)) db).2).1 with
  | .ok _ => .goto (.settling payment (done ++ [t]) todo)
  | .error error => .leave (.rejected error)

def commitMove (companyId userId : Uuid) (now : Instant) (change : Change) (payment : Payment)
    (db : Db) : Move Db Lock Phase :=
  match run (change.write companyId userId now payment) db with
  | (.ok changed, db') => .commit db' (.returned changed)
  | (.error error, _) => .leave (.rejected error)

/-- The moves of `reverse` and `reallocate`. The rows a call writes are held from its
read of them to its commit, so that what it writes is what the transaction makes of the
committed rows then; the payment is the one it has read. -/
def changeMove (id companyId userId : Uuid) (now : Instant) (change : Change) :
    Label → Phase → Db → Option (Move Db Lock Phase)
  | .lockPayment, .called, _ => some (.acquire (.payment id) .holding)
  | .read, .holding, db => some (readMove id companyId change db)
  | .lockInvoice, .settling payment done (t :: todo), _ =>
    some (.acquire (.create (.target (.PurchaseInvoice, t.invoiceId))) (.locked payment done t todo))
  | .settle, .locked payment done t todo, db =>
    some (settleMove companyId userId payment done t todo db)
  | .commit, .settling payment _ [], db =>
    some (commitMove companyId userId now change payment db)
  | .abort, .holding, _ => some (.leave .aborted)
  | .abort, .settling .., _ => some (.leave .aborted)
  | .abort, .locked .., _ => some (.leave .aborted)
  | _, _, _ => none

/-- The moves of a `create`, among the locks and phases there are here. -/
def createMove (c : CreateRace.Call) (l : CreateRace.Label) (p : CreateRace.Phase) (db : Db) :
    Option (Move Db Lock Phase) :=
  (CreateRace.createMove c l p db).map fun m => (m.relock Lock.create).map Phase.creating

def protocol (request : ℕ → Request) : Protocol Db Lock Phase Label := fun i l p db =>
  match request i, l, p with
  | .create c, .create l, .called => createMove c l .called db
  | .create c, .create l, .creating p => createMove c l p db
  | .create _, _, _ => none
  | .change id companyId userId now change, l, p => changeMove id companyId userId now change l p db

def machine (request : ℕ → Request) : Machine (Shared Db Lock Phase) (ℕ × Label) :=
  concurrent (protocol request)

/-! ## What a call has read stands -/

def HoldsPayment (held : Lock → Prop) : Request → Prop
  | .create _ => True
  | .change id _ _ _ _ => held (.payment id)

def HasRead (db : Db) (payment : Payment) : Request → Prop
  | .create _ => True
  | .change id companyId _ _ change => Commits (change.read id companyId) db payment db

def PhaseOk (request : ℕ → Request) (held : Lock → Prop) (db : Db) (i : ℕ) : Phase → Prop
  | .holding => HoldsPayment held (request i)
  | .settling payment _ _ => HoldsPayment held (request i) ∧ HasRead db payment (request i)
  | .locked payment _ _ _ => HoldsPayment held (request i) ∧ HasRead db payment (request i)
  | _ => True

variable {held : Lock → Prop}

theorem HoldsPayment.mono {held' : Lock → Prop} {request : Request}
    (h : HoldsPayment held request) (hmore : ∀ k, held k → held' k) :
    HoldsPayment held' request := by
  cases request with
  | create => trivial
  | change => exact hmore _ h

variable {change : Change}

theorem Change.read_congr {payment : Payment} {db db' : Db}
    (h : Commits (change.read id companyId) db payment db)
    (hsame : db'.paying.payments.find? id = db.paying.payments.find? id) :
    Commits (change.read id companyId) db' payment db' := by
  cases change with
  | reverse reason =>
    simp only [read, commits_bind, commits_findConfirmed, commits_assertPurchaseInvoiceOnly,
      commits_pure] at h ⊢
    obtain ⟨payment, _, ⟨⟨hfind, hchecks⟩, rfl⟩, _, _, ⟨hallocations, rfl⟩, rfl, -⟩ := h
    exact ⟨payment, db', ⟨⟨hsame.trans hfind, hchecks⟩, rfl⟩, ⟨⟩, db', ⟨hallocations, rfl⟩, rfl,
      rfl⟩
  | reallocate dto =>
    simp only [read, assertAllocationsFullyCoverAmount, commits_bind, commits_findConfirmed,
      commits_assertPurchaseInvoiceOnly, commits_assertAllocationsValid, commits_rejectIf,
      commits_pure] at h ⊢
    obtain ⟨payment, _, ⟨⟨hfind, hchecks⟩, rfl⟩, _, _, ⟨hallocations, rfl⟩, _, _, ⟨hvalid, rfl⟩, _, _,
      ⟨hcover, rfl⟩, rfl, -⟩ := h
    exact ⟨payment, db', ⟨⟨hsame.trans hfind, hchecks⟩, rfl⟩, ⟨⟩, db', ⟨hallocations, rfl⟩, ⟨⟩, db',
      ⟨hvalid, rfl⟩, ⟨⟩, db', ⟨hcover, rfl⟩, rfl, rfl⟩

theorem Change.found_of_read {payment : Payment} {db : Db}
    (h : Commits (change.read id companyId) db payment db) :
    db.paying.payments.find? id = some payment := by
  cases change with
  | reverse reason =>
    simp only [read, commits_bind, commits_findConfirmed, commits_pure] at h
    obtain ⟨found, _, ⟨⟨hfind, -⟩, rfl⟩, _, _, -, rfl, -⟩ := h
    exact hfind
  | reallocate dto =>
    simp only [read, commits_bind, commits_findConfirmed, commits_pure] at h
    obtain ⟨found, _, ⟨⟨hfind, -⟩, rfl⟩, _, _, -, _, _, -, _, _, -, rfl, -⟩ := h
    exact hfind

theorem Change.commits_transaction
    {payment changed : Payment} {db db' : Db} (hread : Commits (change.read id companyId) db payment db)
    (hwrite : Commits (change.write companyId userId now payment) db changed db') :
    Commits (change.transaction id companyId userId now) db changed db' := by
  cases change with
  | reverse reason =>
    simp only [read, commits_bind, commits_pure] at hread
    obtain ⟨found, db₁, hfind, u, db₂, hallocations, rfl, rfl⟩ := hread
    show Commits (PaymentsService.reverse id companyId userId now reason) _ _ _
    unfold PaymentsService.reverse
    exact (commits_bind _ _ _ _ _).2 ⟨_, _, hfind, (commits_bind _ _ _ _ _).2 ⟨_, _, hallocations, hwrite⟩⟩
  | reallocate dto =>
    simp only [read, commits_bind, commits_pure] at hread
    obtain ⟨found, db₁, hfind, u, db₂, hallocations, _, db₃, hvalid, _, db₄, hcover, rfl, rfl⟩ := hread
    show Commits (PaymentsService.reallocate id companyId userId now dto) _ _ _
    unfold PaymentsService.reallocate
    refine (commits_bind _ _ _ _ _).2 ⟨_, _, hfind, (commits_bind _ _ _ _ _).2 ⟨_, _, hallocations, ?_⟩⟩
    exact (commits_bind _ _ _ _ _).2 ⟨_, _, hvalid, (commits_bind _ _ _ _ _).2 ⟨_, _, hcover, hwrite⟩⟩

/-! ## One step -/

/-- What a commit of call `i` can be: the transaction of its request, by a call that
holds the row it writes. -/
inductive CommitCase (held : Lock → Prop) (db db' : Db) : Request → Prop
  | create {c : CreateRace.Call} {payment : Payment} (hc : Commits c.runCreate db payment db') :
    CommitCase held db db' (.create c)
  | change {id companyId userId : Uuid} {now : Instant} {change : Change} {changed : Payment}
    (hheld : held (.payment id))
    (hc : Commits (change.transaction id companyId userId now) db changed db') :
    CommitCase held db db' (.change id companyId userId now change)

theorem CommitCase.mirrors {db db' : Db} {request : Request}
    (h : CommitCase held db db' request) (hdb : Mirrors db) : Mirrors db' := by
  cases h with
  | create hc => exact mirrors_create hdb hc
  | @change id companyId userId now change changed hheld hc =>
    cases change with
    | reverse reason => exact mirrors_reverse hdb hc
    | reallocate dto => exact mirrors_reallocate hdb hc

theorem CommitCase.payments {db db' : Db} {request : Request} (h : CommitCase held db db' request) :
    ∃ row, db'.paying.payments = db.paying.payments.save row ∧
      (db.paying.payments.find? row.id = none ∨ held (.payment row.id)) := by
  cases h with
  | create hc =>
    obtain ⟨hpayments, hfresh, -⟩ := CreateRace.runCreate_leaves hc
    exact ⟨_, hpayments, .inl hfresh⟩
  | @change id companyId userId now change changed hheld hc =>
    cases change with
    | reverse reason =>
      obtain ⟨payment, hrev⟩ := reverse_reversed hc
      refine ⟨changed, hrev.payments, .inr ?_⟩
      rw [hrev.over.2]
      exact hheld
    | reallocate dto =>
      obtain ⟨-, payment, hfind, hreallocated, hpayments⟩ := reallocate_leaves hc
      refine ⟨changed, hpayments, .inr ?_⟩
      have hid : payment.id = id := Table.key_of_find? hfind
      rw [hreallocated, show (markReallocated userId now dto payment).id = payment.id from rfl, hid]
      exact hheld

variable {request : ℕ → Request}

theorem CommitCase.others {heldBy : Lock → Prop} {db db' : Db}
    {by' : Request} {j : ℕ} {p : Phase} (h : CommitCase heldBy db db' by')
    (hapart : ∀ k, held k → ¬ heldBy k) (hp : PhaseOk request held db j p) :
    PhaseOk request held db' j p := by
  have hread : ∀ payment, HoldsPayment held (request j) ∧ HasRead db payment (request j) →
      HoldsPayment held (request j) ∧ HasRead db' payment (request j) := by
    rintro payment ⟨hholds, hread⟩
    refine ⟨hholds, ?_⟩
    cases hrequest : request j with
    | create => trivial
    | change id companyId userId now change =>
      rw [hrequest] at hholds hread
      obtain ⟨row, hpayments, hrow⟩ := h.payments
      refine Change.read_congr hread ?_
      rw [hpayments]
      refine Table.find?_save_ne _ _ _ fun hkey => ?_
      have hid : row.id = id := hkey
      rcases hrow with hnew | hheld
      · -- a new row, and the one that is read is there
        have hfound := Change.found_of_read hread
        rw [hid, hfound] at hnew
        cases hnew
      · rw [hid] at hheld
        exact hapart _ hholds hheld
  cases p with
  | settling payment done todo => exact hread payment hp
  | locked payment done t todo => exact hread payment hp
  | _ => exact hp

theorem create_commit {c : CreateRace.Call} {l : CreateRace.Label}
    {p : CreateRace.Phase} {q : Phase} {db db' : Db}
    (hm : createMove c l p db = some (.commit db' q)) : CommitCase held db db' (.create c) := by
  obtain ⟨m, hmove, hdest⟩ := Option.map_eq_some_iff.1 hm
  cases m with
  | commit db₁ p₁ =>
    cases hdest
    obtain ⟨-, payment, hc⟩ := CreateRace.createMove_commit hmove
    exact .create hc
  | _ => cases hdest

theorem commit_cases {db db' : Db} {i : ℕ}
    {l : Label} {p q : Phase} (hp : PhaseOk request held db i p)
    (hm : protocol request i l p db = some (.commit db' q)) :
    CommitCase held db db' (request i) := by
  unfold protocol at hm
  split at hm
  case h_1 c l hrequest =>
    rw [hrequest]
    exact create_commit hm
  case h_2 c l p hrequest =>
    rw [hrequest]
    exact create_commit hm
  case h_3 => cases hm
  case h_4 id companyId userId now change hrequest =>
    unfold changeMove at hm
    split at hm
    case h_2 =>
      unfold readMove at hm
      split at hm <;> cases hm
    case h_4 =>
      unfold settleMove at hm
      split at hm <;> cases hm
    case h_5 payment done =>
      obtain ⟨hholds, hread⟩ := hp
      rw [hrequest] at hholds hread ⊢
      unfold commitMove at hm
      rcases run_cases (change.write companyId userId now payment) db with
        ⟨changed, db₁, hwrite, hrun⟩ | ⟨_, -, hrun⟩
      · rw [hrun] at hm
        cases hm
        exact .change hholds (Change.commits_transaction hread hwrite)
      · rw [hrun] at hm
        cases hm
    all_goals cases hm

theorem createMove_dest {c : CreateRace.Call} {l : CreateRace.Label} {p : CreateRace.Phase}
    {db : Db} {m : Move Db Lock Phase} (hm : createMove c l p db = some m) :
    ∃ q, m.dest = .creating q := by
  obtain ⟨m, -, rfl⟩ := Option.map_eq_some_iff.1 hm
  cases m <;> exact ⟨_, rfl⟩

theorem Change.read_reads {payment : Payment} {db db' : Db}
    (h : Commits (change.read id companyId) db payment db') : db = db' := by
  cases change with
  | reverse reason =>
    simp only [read, commits_bind, commits_findConfirmed, commits_assertPurchaseInvoiceOnly,
      commits_pure] at h
    obtain ⟨_, _, ⟨-, rfl⟩, _, _, ⟨-, rfl⟩, -, rfl⟩ := h
    rfl
  | reallocate dto =>
    simp only [read, assertAllocationsFullyCoverAmount, commits_bind, commits_findConfirmed,
      commits_assertPurchaseInvoiceOnly, commits_assertAllocationsValid, commits_rejectIf,
      commits_pure] at h
    obtain ⟨_, _, ⟨-, rfl⟩, _, _, ⟨-, rfl⟩, _, _, ⟨-, rfl⟩, _, _, ⟨-, rfl⟩, -, rfl⟩ := h
    rfl

/-- What a move that does not commit establishes: a call that goes on keeps its row, and
what it has read of it. -/
theorem changeMove_ok {db : Db} {i : ℕ} {l : Label} {p : Phase}
    {m : Move Db Lock Phase} (hrequest : request i = .change id companyId userId now change)
    (hp : PhaseOk request held db i p) (hcommit : ∀ db' q, m = .commit db' q → Mirrors db')
    (hm : changeMove id companyId userId now change l p db = some m) :
    Shared.MoveOk Mirrors (PhaseOk request) held db i m := by
  unfold changeMove at hm
  split at hm
  case h_1 =>
    cases hm
    have hholds : HoldsPayment (fun k => k = .payment id ∨ held k) (request i) := by
      rw [hrequest]
      exact .inl rfl
    exact hholds
  case h_2 =>
    cases hm
    unfold readMove
    rcases run_cases (change.read id companyId) db with ⟨payment, db₁, hread, hrun⟩ | ⟨_, -, hrun⟩
    · rw [hrun]
      obtain rfl := Change.read_reads hread
      refine ⟨hp, ?_⟩
      rw [hrequest]
      exact hread
    · rw [hrun]
      trivial
  case h_3 =>
    cases hm
    obtain ⟨hholds, hread⟩ := hp
    exact ⟨hholds.mono fun k hk => .inr hk, hread⟩
  case h_4 =>
    cases hm
    unfold settleMove
    split
    · exact hp
    · trivial
  case h_5 =>
    cases hm
    unfold commitMove at hcommit ⊢
    split
    · rename_i hrun
      rw [hrun] at hcommit
      exact ⟨hcommit _ _ rfl, trivial⟩
    · trivial
  case h_9 => cases hm
  all_goals
    cases hm
    trivial

theorem inv_step {s s' : Shared Db Lock Phase} {l : ℕ × Label}
    (h : s.Inv Mirrors (PhaseOk request)) (hs : (machine request).step s l = some s') :
    s'.Inv Mirrors (PhaseOk request) := by
  obtain ⟨i, l⟩ := l
  refine h.step hs (fun m hm => ?_) fun db' q hm j _ held hapart hj => ?_
  · have hcommit : ∀ db' q, m = .commit db' q → Mirrors db' := by
      rintro db' q rfl
      exact (commit_cases (h.phase i) hm).mirrors h.db
    have hcreate : ∀ c l p, createMove c l p s.db = some m →
        Shared.MoveOk Mirrors (PhaseOk request) (s.Holds i) s.db i m := by
      intro c l p hmove
      obtain ⟨q, hdest⟩ := createMove_dest hmove
      cases m with
      | commit db' q' =>
        obtain rfl : q' = .creating q := hdest
        exact ⟨hcommit db' _ rfl, trivial⟩
      | goto q' => obtain rfl : q' = .creating q := hdest; trivial
      | acquire k q' => obtain rfl : q' = .creating q := hdest; trivial
      | leave q' => obtain rfl : q' = .creating q := hdest; trivial
    unfold protocol at hm
    split at hm
    · exact hcreate _ _ _ hm
    · exact hcreate _ _ _ hm
    · cases hm
    · rename_i hrequest
      exact changeMove_ok hrequest (h.phase i) hcommit hm
  · exact (commit_cases (h.phase i) hm).others hapart hj

/-! ## Every run -/

def Request.reallocates : Request → Bool
  | .change _ _ _ _ (.reallocate _) => true
  | _ => false

/-- The general ledger mirrors the payments in every state of every run, and no step of a
reallocation posts anything. -/
theorem ledger_mirrors_payments (request : ℕ → Request) {db : Db} (hdb : Mirrors db)
    {ls : List (ℕ × Label)} {s : Shared Db Lock Phase}
    (hrun : (machine request).Run (.start db .called) ls s) :
    Mirrors s.db ∧ ∀ l s', (machine request).step s l = some s' → (request l.1).reallocates →
      s'.db.ledger.journalEntries = s.db.ledger.journalEntries := by
  have hstart : (Shared.start db Phase.called : Shared Db Lock Phase).Inv Mirrors
      (PhaseOk request) := Shared.inv_start hdb fun _ _ => trivial
  have hinv := hrun.invariant hstart fun _ _ _ h _ hs => inv_step h hs
  refine ⟨hinv.db, fun l s' hs hreallocates => ?_⟩
  rcases Shared.step_db hs with hsame | ⟨p, hm⟩
  · rw [hsame]
  · have hcase := commit_cases (hinv.phase l.1) hm
    revert hreallocates
    generalize request l.1 = r at hcase
    intro hreallocates
    cases hcase with
    | create => cases hreallocates
    | @change id companyId userId now change changed hheld hc =>
      cases change with
      | reverse => cases hreallocates
      | reallocate dto => rw [(reallocate_leaves hc).1]

/-! A posted invoice of 100.00, a payment of 60.00 of it, its reallocation and its reversal. -/

namespace MirrorDemo

/-- The invoice of `PayablesDemo`, synchronised and posted. -/
def db : Db :=
  (run (do
    PurchaseInvoicesService.syncEligibleInvoices 10 none
    PurchaseInvoicesService.post 0 10 99 PayablesDemo.now) PayablesDemo.db).2

def requests : ℕ → Request
  | 0 => .change 1 10 99 PayablesDemo.now (.reallocate
      { allocations :=
          [{ referenceType := .PurchaseInvoice, referenceId := 0, allocatedAmount := 6000 }]
        reason := none })
  | 1 => .change 1 10 99 PayablesDemo.now (.reverse "wrong amount")
  | _ => .create
      { companyId := 10, userId := 99, now := PayablesDemo.now, dto := PayablesDemo.paymentDto,
        idempotencyKeyHeader := some "key-1" }

/-- A `create` that loses its connection once it holds the counter. -/
def lost (i : ℕ) : List (ℕ × Label) :=
  [(i, .create .lookup), (i, .create .validate), (i, .create .begin), (i, .create .abort)]

def pay (i : ℕ) : List (ℕ × Label) :=
  [(i, .create .lookup), (i, .create .validate), (i, .create .begin), (i, .create .lock),
    (i, .create .apply), (i, .create .insert), (i, .create .commit)]

def changed : List (ℕ × Label) :=
  [(0, .lockPayment), (0, .read), (0, .lockInvoice), (0, .settle), (0, .lockInvoice), (0, .settle),
    (0, .commit), (1, .lockPayment), (1, .read), (1, .lockInvoice), (1, .settle), (1, .commit)]

theorem mirrors : Mirrors db := by
  refine mirrors_of_no_payments (by decide +kernel) fun e he => ?_
  rw [show db.ledger.journalEntries.rows = [] by decide +kernel] at he
  cases he

end MirrorDemo

open MirrorDemo in
theorem ledger_mirrors_payments_reversed : Mirrors db ∧
    ∃ s, (machine requests).Run (.start db .called) (lost 2 ++ pay 3 ++ changed) s ∧
      (s.db.paying.payments.rows.map (·.status) = [.Cancelled] ∧
        s.db.ledger.journalEntries.rows.length = 2) ∧
      Mirrors s.db ∧ ∀ l s', (machine requests).step s l = some s' → (requests l.1).reallocates →
        s'.db.ledger.journalEntries = s.db.ledger.journalEntries := by
  obtain ⟨s, hrun, hs⟩ := Machine.exists_runWith (machine requests) (fun _ _ => True)
    (.start db .called) (lost 2 ++ pay 3 ++ changed)
    (fun s => s.db.paying.payments.rows.map (·.status) = [.Cancelled] ∧
      s.db.ledger.journalEntries.rows.length = 2) (by decide +kernel)
  exact ⟨mirrors, s, hrun, of_decide_eq_true hs, ledger_mirrors_payments requests mirrors hrun⟩

end FashionErp.LedgerMirror
