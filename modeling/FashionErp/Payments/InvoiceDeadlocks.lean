/-
The order in which payments lock the rows of `purchase_invoices`.

`create` works its targets off by type and id and `reverse` by id, so that both lock their
invoices by id.
-/
import FashionErp.Lib.LockOrder
import FashionErp.Payments.PayablesRun
import Mathlib.Data.Prod.Lex

namespace FashionErp

open Lib Lib.Tx

namespace PaymentsService

/-- The invoices that `create` locks: those among its targets. -/
def createLocks (companyId : Uuid) (dto : CreatePaymentDto)
    (idempotencyKeyHeader : Option String) : DbTx (List Uuid) := do
  let db ← get
  match (normalizedKey idempotencyKeyHeader).bind (findByIdempotencyKey db companyId) with
  | some _existing => return []
  | none =>
    assertCreatable companyId dto
    return ((sortedTargets dto.allocations).filter fun t => t.1 = .PurchaseInvoice).map (·.2)

/-- The invoices that `reverse` locks. -/
def reverseLocks (id companyId : Uuid) : DbTx (List Uuid) := do
  let payment ← findConfirmed "reverse" id companyId
  assertPurchaseInvoiceOnlyAllocations payment payment.allocations
  return (totalsById payment.allocations).map (·.1)

/-- The invoices that `reallocate` locks, those of the first loop before those of the second. -/
def reallocateLocks (id companyId : Uuid) (dto : ReallocatePaymentDto) : DbTx (List Uuid) := do
  let payment ← findConfirmed "reallocate" id companyId
  assertPurchaseInvoiceOnlyAllocations payment payment.allocations
  assertAllocationsValid payment.direction payment.amount dto.allocations
  assertAllocationsFullyCoverAmount payment.amount dto.allocations
  return (totalsById payment.allocations).map (·.1) ++ (totalsById dto.allocations).map (·.1)

end PaymentsService

namespace InvoiceDeadlocks

open PaymentsService

inductive Call
  | create (companyId userId : Uuid) (now : Instant) (dto : CreatePaymentDto)
      (idempotencyKeyHeader : Option String)
  | reverse (id companyId userId : Uuid) (now : Instant) (reason : String)
  | reallocate (id companyId userId : Uuid) (now : Instant) (dto : ReallocatePaymentDto)
  | elsewhere (write : Db → Db)

def Call.IsReallocation : Call → Prop
  | .reallocate .. => True
  | _ => False

def Call.lockedInvoices : Call → DbTx (List Uuid)
  | .create companyId _ _ dto idempotencyKeyHeader =>
    createLocks companyId dto idempotencyKeyHeader
  | .reverse id companyId _ _ _ => reverseLocks id companyId
  | .reallocate id companyId _ _ dto => reallocateLocks id companyId dto
  | .elsewhere _ => return []

def Call.finish (c : Call) (db : Db) : Except Failure Db :=
  match c with
  | .create companyId userId now dto idempotencyKeyHeader =>
    result (PaymentsService.create companyId userId now dto idempotencyKeyHeader) db
  | .reverse id companyId userId now reason =>
    result (PaymentsService.reverse id companyId userId now reason) db
  | .reallocate id companyId userId now dto =>
    result (PaymentsService.reallocate id companyId userId now dto) db
  | .elsewhere write => .ok (write db)

def Call.tx (c : Call) : LineTx Db Uuid Uuid Unit Failure :=
  .rowLocks (value c.lockedInvoices) fun _ => c.finish

abbrev Phase := LinePhase Db Uuid Unit Failure

def machine (call : ℕ → Call) : Machine (Shared Db Uuid Phase) (ℕ × LineLabel) :=
  concurrent (lineProtocol fun i => (call i).tx)

def wants (call : ℕ → Call) (i : ℕ) : Phase → Option Uuid := (call i).tx.wants

def ReallocationsWaitInOrder (call : ℕ → Call) (s : Shared Db Uuid Phase) : Prop :=
  ∀ i, (call i).IsReallocation → ¬ OutOfOrder (wants call) (id : Uuid → ℕ) s i

section

variable {c : Call} {db : Db} {invoices : List Uuid}

theorem pairwise_sortedTargets (allocations : List PaymentAllocation) :
    (sortedTargets allocations).Pairwise fun a b =>
      localeRank a.1 < localeRank b.1 ∨ (localeRank a.1 = localeRank b.1 ∧ a.2 ≤ b.2) := by
  have hsame : ∀ a b : AllocationTarget,
      (localeRank a.1 < localeRank b.1 ∨ (localeRank a.1 = localeRank b.1 ∧ a.2 ≤ b.2)) =
        (toLex (localeRank a.1, a.2) ≤ toLex (localeRank b.1, b.2)) :=
    fun a b => propext (Prod.Lex.toLex_le_toLex (x := (localeRank a.1, a.2))
      (y := (localeRank b.1, b.2))).symm
  unfold sortedTargets
  simp only [hsame]
  convert pairwise_insertionSort_key (fun t : AllocationTarget => toLex (localeRank t.1, t.2)) _

theorem pairwise_invoiceTargets (allocations : List PaymentAllocation) :
    (((sortedTargets allocations).filter fun t => t.1 = .PurchaseInvoice).map (·.2)).Pairwise
      fun a b => a ≤ b := by
  rw [List.pairwise_map]
  refine List.Pairwise.imp_of_mem ?_ ((pairwise_sortedTargets allocations).filter _)
  intro a b ha hb hab
  have ha' := of_decide_eq_true (List.mem_filter.1 ha).2
  have hb' := of_decide_eq_true (List.mem_filter.1 hb).2
  rcases hab with hlt | ⟨-, hle⟩
  · rw [ha', hb'] at hlt
    exact absurd hlt (lt_irrefl _)
  · exact hle

theorem pairwise_totalsById (allocations : List PaymentAllocation) :
    ((totalsById allocations).map (·.1)).Pairwise fun a b => a ≤ b :=
  List.pairwise_map.2 (pairwise_insertionSort_key (fun e : Uuid × Cents => e.1) _)

theorem Call.lockedInvoices_pairwise (hnot : ¬ c.IsReallocation)
    (h : value c.lockedInvoices db = .ok invoices) : invoices.Pairwise fun a b => a ≤ b := by
  obtain ⟨s', h⟩ := value_eq_ok.1 h
  cases c with
  | create companyId userId now dto idempotencyKeyHeader =>
    simp only [Call.lockedInvoices, createLocks, commits_bind, commits_get] at h
    obtain ⟨_, _, ⟨rfl, rfl⟩, h⟩ := h
    split at h
    · simp only [commits_pure] at h
      obtain ⟨rfl, -⟩ := h
      exact List.Pairwise.nil
    · simp only [commits_bind, commits_pure] at h
      obtain ⟨_, _, -, rfl, -⟩ := h
      exact pairwise_invoiceTargets dto.allocations
  | reverse id companyId userId now reason =>
    simp only [Call.lockedInvoices, reverseLocks, commits_bind, commits_pure] at h
    obtain ⟨payment, _, -, _, _, -, rfl, -⟩ := h
    exact pairwise_totalsById payment.allocations
  | reallocate id companyId userId now dto => exact absurd trivial hnot
  | elsewhere write =>
    simp only [Call.lockedInvoices, commits_pure] at h
    obtain ⟨rfl, -⟩ := h
    exact List.Pairwise.nil

theorem Call.tx_sorted (hnot : ¬ c.IsReallocation) : c.tx.Sorted (id : Uuid → ℕ) :=
  fun _ _ h => c.lockedInvoices_pairwise hnot h

end

/-- Payment locks deadlock only over a reallocation that waits for an invoice while it
holds a larger one: in a run without any, no request ever waits in a cycle. -/
theorem payment_locks_never_deadlock (call : ℕ → Call) (db : Db) (ls : List (ℕ × LineLabel))
    (h : ∀ ks, ks <+: ls → ∀ s, (machine call).Run (.start db .called) ks s →
      ReallocationsWaitInOrder call s) :
    ∀ ks, ks <+: ls → ∀ s, (machine call).Run (.start db .called) ks s →
      ¬ Deadlocked (wants call) s := by
  intro ks hks s hrun
  exact not_deadlocked Function.injective_id (fun i hnot => (call i).tx_sorted hnot) hrun
    (h ks hks s hrun)

namespace DeadlockDemo

def payment (id invoice : Uuid) : Payment :=
  { id := id, paymentNumber := "PMT-2026-000001", companyId := 10, branchId := none,
    direction := .Payment, customerId := none, supplierId := some 20, paymentMethodId := 40,
    amount := 5000, currency := "MMK", reference := none, idempotencyKey := none,
    status := .Confirmed, paymentDate := { date := ⟨2026, 3, 1⟩, millis := 0 }, notes := none,
    createdBy := some 99, updatedBy := some 99, reversedAt := none, reversedBy := none,
    reversalReason := none, reallocatedAt := none, reallocatedBy := none,
    reallocationReason := none
    allocations :=
      [{ referenceType := .PurchaseInvoice, referenceId := invoice, allocatedAmount := 5000 }] }

def order (id : Uuid) : PurchaseOrder :=
  { PayablesDemo.order with id := id, paidAmount := 5000, balanceAmount := 5000 }

def invoice (id orderId : Uuid) : PurchaseInvoice :=
  { PurchaseInvoicesService.markPosted 99 PayablesDemo.now
      (PurchaseInvoicesService.draftInvoice id (order orderId)) with
    paidAmount := 5000, balanceAmount := 5000 }

def db : Db where
  buying :=
    { purchaseOrders := .ofRows [order 50, order 51]
      purchaseInvoices := .ofRows [invoice 5 50, invoice 3 51] }
  paying := { payments := .ofRows [payment 1 5, payment 2 3] }

def move (id invoice : Uuid) : Call :=
  .reallocate id 10 99 { date := ⟨2026, 3, 2⟩, millis := 0 }
    { reason := none
      allocations :=
        [{ referenceType := .PurchaseInvoice, referenceId := invoice, allocatedAmount := 5000 }] }

/-- Request `0` moves the first payment to the smaller invoice, request `1` the second to the
larger one, and the others reverse the second. -/
def calls (i : ℕ) : Call :=
  if i = 0 then move 1 3
  else if i = 1 then move 2 5
  else .reverse 2 10 99 { date := ⟨2026, 3, 2⟩, millis := 0 } "entered twice"

end DeadlockDemo

open DeadlockDemo in
/-- Two payments change places: the first holds `5` and wants `3`, the second holds `3` and
wants `5`. -/
theorem reallocations_deadlock :
    ∃ s, (machine calls).Run (.start db .called)
        [(0, .start), (0, .lock), (0, .check), (1, .start), (1, .lock), (1, .check)] s ∧
      Deadlocked (wants calls) s := by
  obtain ⟨s, hrun, hs⟩ := Machine.exists_runWith (machine calls) (fun _ _ => True)
    (.start db .called)
    [(0, .start), (0, .lock), (0, .check), (1, .start), (1, .lock), (1, .check)]
    (fun s => (wants calls 0 (s.phase 0) = some 3 ∧ s.lock 3 = some 1) ∧
      (wants calls 1 (s.phase 1) = some 5 ∧ s.lock 5 = some 0))
    (by decide +kernel)
  obtain ⟨⟨hwants, hheld⟩, hwants', hheld'⟩ := of_decide_eq_true hs
  have hwaits : Waits (wants calls) s 0 1 := ⟨by decide, _, hwants, hheld⟩
  exact ⟨s, hrun.run, deadlocked_of_waits _ hwaits ⟨by decide, _, hwants', hheld'⟩⟩

open DeadlockDemo in
theorem payment_locks_never_deadlock_reversals :
    (∃ s, (machine fun i => calls (i + 2)).Run (.start db .called)
        [(0, .start), (0, .lock), (1, .start)] s ∧
      Waits (wants fun i => calls (i + 2)) s 1 0) ∧
    ∀ s, (machine fun i => calls (i + 2)).Run (.start db .called)
        [(0, .start), (0, .lock), (1, .start)] s →
      ¬ Deadlocked (wants fun i => calls (i + 2)) s := by
  constructor
  · obtain ⟨s, hrun, hs⟩ := Machine.exists_runWith (machine fun i => calls (i + 2))
      (fun _ _ => True) (.start db .called) [(0, .start), (0, .lock), (1, .start)]
      (fun s => wants (fun i => calls (i + 2)) 1 (s.phase 1) = some 3 ∧ s.lock 3 = some 0)
      (by decide +kernel)
    obtain ⟨hwants, hheld⟩ := of_decide_eq_true hs
    exact ⟨s, hrun.run, by decide, _, hwants, hheld⟩
  · refine payment_locks_never_deadlock (fun i => calls (i + 2)) db _ ?_ _ (List.prefix_refl _)
    intro ks _ s hrun i hreallocation
    change (calls (i + 2)).IsReallocation at hreallocation
    rw [calls, if_neg (by omega), if_neg (by omega)] at hreallocation
    exact absurd hreallocation id

end InvoiceDeadlocks

end FashionErp
