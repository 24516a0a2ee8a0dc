/-
`PaymentsService.create` one step at a time.

A call looks its idempotency key up, makes its checks, and opens a transaction: it
locks the counter row of the company and year, then locks and checks its targets one
after the other, then takes the entry of its key in the unique index, and commits.
-/
import FashionErp.Lib.Concurrent
import FashionErp.Payments.PayablesRun

namespace FashionErp

open Lib Lib.Tx

namespace CreateRace

inductive Lock
  | counter (companyId : Uuid) (year : ℕ)
  | target (t : AllocationTarget)
  | idempotencyKey (companyId : Uuid) (key : String)
  deriving DecidableEq

structure Call where
  companyId : Uuid
  userId : Uuid
  now : Instant
  dto : PaymentsService.CreatePaymentDto
  idempotencyKeyHeader : Option String

def Call.key (c : Call) : Option String := PaymentsService.normalizedKey c.idempotencyKeyHeader

def Call.paymentDate (c : Call) : Instant := c.dto.paymentDate.getD c.now

def Call.targets (c : Call) : List AllocationTarget :=
  PaymentsService.sortedTargets c.dto.allocations

def Call.apply (c : Call) (t : AllocationTarget) : DbTx Unit :=
  PaymentsService.applyTarget c.companyId c.userId c.dto.allocations t

def Call.runCreate (c : Call) : DbTx Payment :=
  PaymentsService.runCreate c.companyId c.userId c.now c.paymentDate c.key c.dto

inductive Phase
  | called
  /-- No payment of the key was found. -/
  | lookedUp
  | validated
  | applying (done todo : List AllocationTarget)
  | locked (done : List AllocationTarget) (t : AllocationTarget) (todo : List AllocationTarget)
  | inserted
  | duplicated (error : Failure)
  | returned (payment : Payment) (wasExisting : Bool)
  | rejected (error : Failure)
  /-- The connection is lost; nobody is answered. -/
  | aborted

def Phase.answered : Phase → Bool
  | .returned .. | .rejected _ => true
  | _ => false

inductive Label
  | lookup
  /-- The checks before the transaction. -/
  | validate
  /-- The lock on the counter row. -/
  | begin
  | lock
  /-- Its check. -/
  | apply
  | insert
  | commit
  /-- The `catch`. -/
  | recover
  | abort

/-- What the transaction sees once it has applied the targets `done`. -/
def view (c : Call) (done : List AllocationTarget) (db : Db) : Db :=
  (run (done.forM c.apply) db).2

/-- An error inside the transaction: `catch` looks at it, and passes it on unless it
is a duplicate of the key. -/
def failed (c : Call) (error : Failure) : Phase :=
  if c.key.isSome ∧ PaymentsService.isDuplicateIdempotencyKeyError error then
    .duplicated error
  else
    .rejected error

def lookupMove (c : Call) (db : Db) : Move Db Lock Phase :=
  match c.key.bind (PaymentsService.findByIdempotencyKey db c.companyId) with
  | some existing => .goto (.returned existing true)
  | none => .goto .lookedUp

def validateMove (c : Call) (db : Db) : Move Db Lock Phase :=
  match (run (PaymentsService.assertCreatable c.companyId c.dto) db).1 with
  | .ok _ => .goto .validated
  | .error error => .goto (.rejected error)

def applyMove (c : Call) (done : List AllocationTarget) (t : AllocationTarget)
    (todo : List AllocationTarget) (db : Db) : Move Db Lock Phase :=
  match (run (c.apply t) (view c done db)).1 with
  | .ok _ => .goto (.applying (done ++ [t]) todo)
  | .error error => .leave (failed c error)

def insertMove (c : Call) (db : Db) : Move Db Lock Phase :=
  match c.key with
  | none => .goto .inserted
  | some key =>
    if (PaymentsService.findByIdempotencyKey db c.companyId key).isSome then
      .leave (failed c (.duplicateEntry "IDX_pay_company_idempotency_key"))
    else
      .acquire (.idempotencyKey c.companyId key) .inserted

def commitMove (c : Call) (db : Db) : Move Db Lock Phase :=
  match run c.runCreate db with
  | (.ok payment, db') => .commit db' (.returned payment false)
  | (.error error, _) => .leave (failed c error)

def recoverMove (c : Call) (error : Failure) (db : Db) : Move Db Lock Phase :=
  match (run (PaymentsService.recover c.companyId c.key error) db).1 with
  | .ok (payment, wasExisting) => .goto (.returned payment wasExisting)
  | .error error => .goto (.rejected error)

/-- The moves of a call. -/
def createMove (c : Call) : Label → Phase → Db → Option (Move Db Lock Phase)
  | .lookup, .called, db => some (lookupMove c db)
  | .validate, .lookedUp, db => some (validateMove c db)
  | .begin, .validated, _ =>
    some (.acquire (.counter c.companyId c.paymentDate.getUTCFullYear) (.applying [] c.targets))
  | .lock, .applying done (t :: todo), _ => some (.acquire (.target t) (.locked done t todo))
  | .apply, .locked done t todo, db => some (applyMove c done t todo db)
  | .insert, .applying _ [], db => some (insertMove c db)
  | .commit, .inserted, db => some (commitMove c db)
  | .recover, .duplicated error, db => some (recoverMove c error db)
  | .abort, .returned .., _ => none
  | .abort, .rejected _, _ => none
  | .abort, .aborted, _ => none
  | .abort, _, _ => some (.leave .aborted)
  | _, _, _ => none

/-! ## What the transaction touches -/

/-- What a committed call leaves behind: one new payment under a free key, the
same master data, and the documents as the loop over the targets left them. -/
theorem runCreate_leaves {c : Call} {db db' : Db} {payment : Payment}
    (h : Commits c.runCreate db payment db') :
    db'.paying.payments = db.paying.payments.save payment ∧
      db.paying.payments.find? payment.id = none ∧ db'.master = db.master ∧
      (payment.companyId = c.companyId ∧ payment.idempotencyKey = c.key ∧
        payment.allocations = c.dto.allocations) ∧
      ∃ db₁ db₂, db₁.selling = db.selling ∧ db'.selling = db₂.selling ∧
        Commits (c.targets.forM c.apply) db₁ ⟨⟩ db₂ := by
  obtain ⟨number, id, db₁, db₂, db₃, db₄, hseq₁, hloop, hseq₃, hpayment, hfresh, -, hpost, event,
    hevent⟩ := PaymentsService.runCreate_spec h
  have hdb' := hevent.db_eq
  have hdocs := PaymentsService.applyTargets_documents hloop
  obtain ⟨hledger, -⟩ := PaymentsService.postToLedger_touches hpost
  have hpaying₃ : db₃.paying = db.paying := by rw [hseq₃, hdocs, hseq₁]
  have hmaster₃ : db₃.master = db.master := by rw [hseq₃, hdocs, hseq₁]
  have hselling₃ : db₃.selling = db₂.selling := by rw [hseq₃]
  have hselling₁ : db₁.selling = db.selling := by rw [hseq₁]
  refine ⟨?_, ?_, ?_, ?_, db₁, db₂, hselling₁, ?_, hloop⟩
  · rw [hdb', hledger, ← hpaying₃]
  · rw [← hpaying₃]
    exact hfresh
  · rw [hdb', hledger]
    exact hmaster₃
  · rw [hpayment]
    exact ⟨rfl, rfl, rfl⟩
  · rw [hdb', hledger]
    exact hselling₃

theorem createMove_commit {c : Call} {l : Label} {p q : Phase} {db db' : Db}
    (hm : createMove c l p db = some (.commit db' q)) :
    p = .inserted ∧ ∃ payment, Commits c.runCreate db payment db' := by
  unfold createMove at hm
  split at hm
  case h_7 =>
    refine ⟨rfl, ?_⟩
    unfold commitMove at hm
    rcases run_cases c.runCreate db with ⟨payment, db₁, hc, hrun⟩ | ⟨_, -, hrun⟩
    · rw [hrun] at hm
      cases hm
      exact ⟨payment, hc⟩
    · rw [hrun] at hm
      cases hm
  case h_1 =>
    unfold lookupMove at hm
    split at hm <;> cases hm
  case h_2 =>
    unfold validateMove at hm
    split at hm <;> cases hm
  case h_5 =>
    unfold applyMove at hm
    split at hm <;> cases hm
  case h_6 =>
    unfold insertMove at hm
    split at hm
    · cases hm
    · split at hm <;> cases hm
  case h_8 =>
    unfold recoverMove at hm
    split at hm <;> cases hm
  all_goals cases hm

/-! A sale of 60.00, and a receipt for some amount of it. -/

namespace ReceiptDemo

def customer : Customer :=
  { id := 20, companyId := 10, customerCode := "CUST-1", receivableAccountId := some 33,
    status := .Active }

def receivable : Account :=
  { id := 33, companyId := 10, code := "1100", name := "Receivable", accountType := .Asset,
    isActive := true }

def sale : Sale :=
  { id := 100, companyId := 10, customerId := 20, branchId := none, warehouseId := none,
    status := .Draft, grandTotal := 6000, paidAmount := 0, balanceAmount := 6000,
    currency := "MMK", fulfillmentStatus := none, shippedAt := none, deliveredAt := none,
    updatedBy := none, items := [] }

def db : Db where
  master :=
    { companies := .ofRows [PayablesDemo.company], customers := .ofRows [customer],
      paymentMethods := .ofRows [PayablesDemo.bankTransfer],
      accounts := .ofRows [PayablesDemo.bank, receivable] }
  selling := { sales := .ofRows [sale] }

def dto (amount : Cents) : PaymentsService.CreatePaymentDto where
  branchId := none
  direction := .Receipt
  customerId := some 20
  supplierId := none
  paymentMethodId := 40
  amount := amount
  currency := "MMK"
  reference := none
  paymentDate := none
  notes := none
  allocations := [{ referenceType := .Sale, referenceId := 100, allocatedAmount := amount }]

end ReceiptDemo

end CreateRace

end FashionErp
