/-
`payments/services/payments.service.ts`: creating, reversing and reallocating
payments.

A payment is one amount with a list of allocations to documents.
-/
import FashionErp.Accounting.AccountingPosting
import FashionErp.Outbox.Outbox
import FashionErp.Purchase.PurchaseInvoices
import FashionErp.Sales.Sales
import FashionErp.Sales.SaleReturns
import Mathlib.Data.List.Dedup

namespace FashionErp

open Lib Lib.Tx

/-- What an allocation is for: `referenceType` and `referenceId`. -/
abbrev AllocationTarget := PaymentReferenceType × Uuid

def PaymentAllocation.target (a : PaymentAllocation) : AllocationTarget :=
  (a.referenceType, a.referenceId)

def PaymentAllocation.posting (a : PaymentAllocation) : AllocationTarget × Cents :=
  (a.target, a.allocatedAmount)

def allocationPostings (allocations : List PaymentAllocation) : List (AllocationTarget × Cents) :=
  allocations.map PaymentAllocation.posting

namespace PaymentsService

structure CreatePaymentDto where
  branchId : Option Uuid
  direction : PaymentDirection
  customerId : Option Uuid
  supplierId : Option Uuid
  paymentMethodId : Uuid
  amount : Cents
  currency : String
  reference : Option String
  paymentDate : Option Instant
  notes : Option String
  allocations : List PaymentAllocation

structure ReallocatePaymentDto where
  reason : Option String
  allocations : List PaymentAllocation

def VALID_DIRECTION_REFERENCE_PAIRS : PaymentDirection → PaymentReferenceType
  | .Receipt => .Sale
  | .Payment => .PurchaseInvoice
  | .Refund => .SaleReturn

/-! ## Validation -/

/-- The party check of `RECEIPT` and `REFUND`. -/
def assertValidCustomer (direction : PaymentDirection) (companyId : Uuid)
    (customerId supplierId : Option Uuid) : DbTx Unit :=
  let name := direction.value
  match customerId, supplierId with
  | some customerId, none => do
    let customer ← CustomersService.findByIdInCompany customerId companyId
    rejectIf (customer.status = .Blocked)
      (appException .ValidationError "customerId references a blocked customer")
  | _, _ =>
    throw (appException .ValidationError
      s!"{name} payments require customerId to be set and supplierId to be omitted")

/-- The party check of `PAYMENT`. -/
def assertValidSupplier (companyId : Uuid) (customerId supplierId : Option Uuid) : DbTx Unit :=
  match customerId, supplierId with
  | none, some supplierId => do
    let supplier ← SuppliersService.findByIdInCompany supplierId companyId
    rejectIf (supplier.status = .Blocked)
      (appException .ValidationError "supplierId references a blocked supplier")
  | _, _ =>
    throw (appException .ValidationError
      "PAYMENT payments require supplierId to be set and customerId to be omitted")

def assertValidPartyForDirection (direction : PaymentDirection) (companyId : Uuid)
    (customerId supplierId : Option Uuid) : DbTx Unit :=
  match direction with
  | .Receipt | .Refund => assertValidCustomer direction companyId customerId supplierId
  | .Payment => assertValidSupplier companyId customerId supplierId

def assertValidPaymentMethod (paymentMethodId companyId : Uuid) : DbTx Unit := do
  let paymentMethod ← PaymentMethodsService.findByIdInCompany paymentMethodId companyId
  rejectIf (paymentMethod.status ≠ .Active)
    (appException .ValidationError "paymentMethodId must reference an active payment method")

def allocatedTotal (allocations : List PaymentAllocation) : Cents :=
  (allocations.map (·.allocatedAmount)).sum

/-- One iteration of the loop of `assertAllocationsValid`. -/
def assertAllocationValid (direction : PaymentDirection) (allocation : PaymentAllocation) :
    DbTx Unit := do
  let name := direction.value
  let expected := (VALID_DIRECTION_REFERENCE_PAIRS direction).value
  let got := allocation.referenceType.value
  rejectIf (allocation.referenceType ≠ VALID_DIRECTION_REFERENCE_PAIRS direction)
    (appException .ValidationError
      s!"A {name} payment can only allocate against {expected} references, got {got}")
  rejectIf (¬ 0 < allocation.allocatedAmount)
    (appException .ValidationError "allocatedAmount must be greater than zero")

def assertAllocationsValid (direction : PaymentDirection) (paymentAmount : Cents)
    (allocations : List PaymentAllocation) : DbTx Unit := do
  allocations.forM (assertAllocationValid direction)
  let total := toFixed2 (allocatedTotal allocations)
  let amount := toFixed2 paymentAmount
  rejectIf (paymentAmount < allocatedTotal allocations)
    (appException .ValidationError
      s!"Sum of allocations ({total}) cannot exceed the payment amount ({amount})")

def assertAllocationsFullyCoverAmount (paymentAmount : Cents)
    (allocations : List PaymentAllocation) : DbTx Unit :=
  let total := toFixed2 (allocatedTotal allocations)
  let amount := toFixed2 paymentAmount
  rejectIf (allocatedTotal allocations ≠ paymentAmount)
    (appException .ValidationError
      s!"Sum of allocations ({total}) must exactly match the payment amount ({amount})")

def assertPurchaseInvoiceOnlyAllocations (payment : Payment)
    (allocations : List PaymentAllocation) : DbTx Unit := do
  rejectIf (payment.direction ≠ .Payment)
    (appException .Conflict "Only supplier PAYMENT records support reversal and reallocation")
  rejectIf (allocations.any fun a => a.referenceType ≠ .PurchaseInvoice)
    (appException .Conflict
      "Only purchase-invoice allocations support reversal and reallocation")

/-! ## Totals per target -/

/-- `buildAllocationTotals`, and the same loop inside `create`. The key
`type:id` is the pair. -/
def buildAllocationTotals (allocations : List PaymentAllocation) : JsMap AllocationTarget Cents :=
  totals (allocationPostings allocations)

/-- The place of a type in the `localeCompare` order of its name. -/
def localeRank : PaymentReferenceType → ℕ
  | .PurchaseInvoice => 0
  | .PurchaseOrder => 1
  | .Sale => 2
  | .SaleReturn => 3

def sortedTargets (allocations : List PaymentAllocation) : List AllocationTarget :=
  (allocations.map PaymentAllocation.target).dedup.insertionSort
    fun a b => localeRank a.1 < localeRank b.1 ∨ (localeRank a.1 = localeRank b.1 ∧ a.2 ≤ b.2)

def totalForTarget (allocations : List PaymentAllocation) (target : AllocationTarget) : Cents :=
  ((buildAllocationTotals allocations).lookup target).getD 0

/-- The totals of `reverse` and `reallocate`: per `referenceId`, sorted by it. -/
def totalsById (allocations : List PaymentAllocation) : List (Uuid × Cents) :=
  ((entryPostings (buildAllocationTotals allocations)).map fun e => (e.1.2, e.2)).insertionSort
    fun a b => a.1 ≤ b.1

/-! ## `create` -/

/-- One iteration of the loop of `create` over the targets. -/
def applyTarget (companyId userId : Uuid) (allocations : List PaymentAllocation)
    (target : AllocationTarget) : DbTx Unit :=
  match target with
  | (.Sale, id) =>
    SalesService.applyPayment id companyId (totalForTarget allocations (.Sale, id)) userId
  | (.PurchaseInvoice, id) =>
    PurchaseInvoicesService.applyPayment id companyId
      (totalForTarget allocations (.PurchaseInvoice, id)) userId
  | (.PurchaseOrder, id) =>
    PurchaseOrdersService.applyPayment id companyId
      (totalForTarget allocations (.PurchaseOrder, id)) userId
  | (.SaleReturn, id) =>
    SaleReturnsService.applyRefund id companyId (totalForTarget allocations (.SaleReturn, id))

def generatePaymentNumber (companyId : Uuid) (year : ℕ) : DbTx String :=
  nextDocumentNumber .Payment "PMT" companyId year

def findByIdempotencyKey (db : Db) (companyId : Uuid) (idempotencyKey : String) : Option Payment :=
  db.paying.payments.rows.find? fun p =>
    p.companyId = companyId ∧ p.idempotencyKey = some idempotencyKey

def savePayment (payment : Payment) : DbTx Unit :=
  modify fun db =>
    { db with paying := { db.paying with payments := db.paying.payments.save payment } }

def insertPayment (payment : Payment) : DbTx Unit := do
  let db ← get
  rejectIf (db.paying.payments.find? payment.id).isSome (.duplicateEntry "PRIMARY")
  rejectIf (db.paying.payments.rows.any fun p =>
      p.companyId = payment.companyId ∧ p.idempotencyKey = payment.idempotencyKey ∧
        p.idempotencyKey.isSome)
    (.duplicateEntry "IDX_pay_company_idempotency_key")
  savePayment payment

/-- The row `create` inserts. -/
def newPayment (id : Uuid) (paymentNumber : String) (companyId userId : Uuid)
    (paymentDate : Instant) (idempotencyKey : Option String) (dto : CreatePaymentDto) :
    Payment where
  id := id
  paymentNumber := paymentNumber
  companyId := companyId
  branchId := dto.branchId
  direction := dto.direction
  customerId := dto.customerId
  supplierId := dto.supplierId
  paymentMethodId := dto.paymentMethodId
  amount := dto.amount
  currency := dto.currency
  reference := dto.reference
  idempotencyKey := idempotencyKey
  status := .Confirmed
  paymentDate := paymentDate
  notes := dto.notes
  createdBy := some userId
  updatedBy := some userId
  reversedAt := none
  reversedBy := none
  reversalReason := none
  reallocatedAt := none
  reallocatedBy := none
  reallocationReason := none
  allocations := dto.allocations

/-- The ledger step of `create`. -/
def postToLedger (now : Instant) (userId : Uuid) (payment : Payment) : DbTx Unit := do
  let db ← get
  let paymentMethod ← orReject
    ((db.master.paymentMethods.find? payment.paymentMethodId).filter fun m => !m.deleted)
    .entityNotFound
  let customer := payment.customerId.bind fun id =>
    (db.master.customers.find? id).filter fun c => !c.deleted
  let supplier := payment.supplierId.bind fun id =>
    (db.master.suppliers.find? id).filter fun s => !s.deleted
  if payment.direction ≠ .Refund then
    void (AccountingPostingService.postPayment now payment paymentMethod customer supplier userId)
  else
    return ()

/-- What `create` hands to the outbox: the `payment.confirmed` event of a payment. -/
def confirmedEvent (payment : Payment) : CreateOutboxEventInput where
  eventType := PAYMENT_CONFIRMED_EVENT_TYPE
  eventVersion := some PAYMENT_CONFIRMED_EVENT_VERSION
  aggregateType := PAYMENT_AGGREGATE_TYPE
  aggregateId := payment.id
  companyId := payment.companyId
  branchId := payment.branchId
  payload :=
    { paymentId := payment.id, paymentNumber := payment.paymentNumber,
      direction := payment.direction, amount := payment.amount, currency := payment.currency,
      paymentMethodId := payment.paymentMethodId, customerId := payment.customerId,
      supplierId := payment.supplierId, paymentDate := payment.paymentDate }

def announce (now : Instant) (payment : Payment) : DbTx Unit :=
  void (OutboxService.create now (confirmedEvent payment))

def runCreate (companyId userId : Uuid) (now paymentDate : Instant)
    (idempotencyKey : Option String) (dto : CreatePaymentDto) : DbTx Payment := do
  let paymentNumber ← generatePaymentNumber companyId paymentDate.getUTCFullYear
  (sortedTargets dto.allocations).forM (applyTarget companyId userId dto.allocations)
  let id ← randomUUID
  let payment := newPayment id paymentNumber companyId userId paymentDate idempotencyKey dto
  insertPayment payment
  postToLedger now userId payment
  announce now payment
  return payment

/-- The checks of `create` before its transaction. -/
def assertCreatable (companyId : Uuid) (dto : CreatePaymentDto) : DbTx Unit := do
  assertCompanyAndBranch companyId dto.branchId
  assertValidPartyForDirection dto.direction companyId dto.customerId dto.supplierId
  assertValidPaymentMethod dto.paymentMethodId companyId
  assertAllocationsValid dto.direction dto.amount dto.allocations

/-- `idempotencyKeyHeader?.trim() || undefined`. -/
def normalizedKey (idempotencyKeyHeader : Option String) : Option String :=
  (idempotencyKeyHeader.map trim).filter (· ≠ "")

/-- `isDuplicateIdempotencyKeyError`: the error names an index with `idempotency`
in it. -/
def isDuplicateIdempotencyKeyError : Failure → Bool
  | .duplicateEntry index => decide ("idempotency".toList <:+: index.toList)
  | _ => false

/-- The `catch` of `create`: a duplicate of the key is answered with the payment
that won, any other error is passed on. -/
def recover (companyId : Uuid) (idempotencyKey : Option String) (error : Failure) :
    DbTx (Payment × Bool) := do
  let db ← get
  match idempotencyKey with
  | none => throw error
  | some key =>
    if isDuplicateIdempotencyKeyError error then
      let existing ← orReject (findByIdempotencyKey db companyId key) error
      return (existing, true)
    else
      throw error

/-- `create` after the lookup of the key. -/
def createFresh (companyId userId : Uuid) (now : Instant) (dto : CreatePaymentDto)
    (idempotencyKey : Option String) : DbTx (Payment × Bool) := do
  assertCreatable companyId dto
  tryCatch
    ((fun payment => (payment, false)) <$>
      runCreate companyId userId now (dto.paymentDate.getD now) idempotencyKey dto)
    (recover companyId idempotencyKey)

/-- `create`; the result is the payment and `wasExisting`. -/
def create (companyId userId : Uuid) (now : Instant) (dto : CreatePaymentDto)
    (idempotencyKeyHeader : Option String) : DbTx (Payment × Bool) := do
  let idempotencyKey := normalizedKey idempotencyKeyHeader
  let db ← get
  match idempotencyKey.bind (findByIdempotencyKey db companyId) with
  | some existing => return (existing, true)
  | none => createFresh companyId userId now dto idempotencyKey

/-! ## `reverse` and `reallocate` -/

/-- The locked read of a confirmed payment; `verb` is `reverse` or `reallocate`. -/
def findConfirmed (verb : String) (id companyId : Uuid) : DbTx Payment := do
  let db ← get
  let payment ← orReject ((db.paying.payments.find? id).filter fun p => p.companyId = companyId)
    (appException .NotFound "Payment not found")
  let current := payment.status.value
  rejectIf (payment.status ≠ .Confirmed)
    (appException .Conflict s!"Cannot {verb} a {current} payment")
  return payment

def unapplyTotal (companyId userId : Uuid) (allocation : Uuid × Cents) : DbTx Unit :=
  PurchaseInvoicesService.unapplyPayment allocation.1 companyId allocation.2 userId

/-- One iteration of the loop of `reallocate` that applies the new totals. -/
def applyTotal (companyId userId : Uuid) (allocation : Uuid × Cents) : DbTx Unit :=
  PurchaseInvoicesService.applyPayment allocation.1 companyId allocation.2 userId

/-- What `reverse` writes into the payment. -/
def markReversed (userId : Uuid) (now : Instant) (reason : String) (payment : Payment) : Payment :=
  { payment with
    status := .Cancelled, reversedAt := some now, reversedBy := some userId,
    reversalReason := some reason, updatedBy := some userId }

def reverse (id companyId userId : Uuid) (now : Instant) (reason : String) : DbTx Payment := do
  let payment ← findConfirmed "reverse" id companyId
  assertPurchaseInvoiceOnlyAllocations payment payment.allocations
  (totalsById payment.allocations).forM (unapplyTotal companyId userId)
  let reversed := markReversed userId now reason payment
  savePayment reversed
  let _journal ← AccountingPostingService.reversePayment now reversed userId (some reason)
  return reversed

/-- What `reallocate` writes into the payment, its new allocations included. -/
def markReallocated (userId : Uuid) (now : Instant) (dto : ReallocatePaymentDto)
    (payment : Payment) : Payment :=
  { payment with
    allocations := dto.allocations, reallocatedAt := some now, reallocatedBy := some userId,
    reallocationReason := dto.reason, updatedBy := some userId }

def reallocate (id companyId userId : Uuid) (now : Instant) (dto : ReallocatePaymentDto) :
    DbTx Payment := do
  let payment ← findConfirmed "reallocate" id companyId
  assertPurchaseInvoiceOnlyAllocations payment payment.allocations
  assertAllocationsValid payment.direction payment.amount dto.allocations
  assertAllocationsFullyCoverAmount payment.amount dto.allocations
  (totalsById payment.allocations).forM (unapplyTotal companyId userId)
  savePayment { payment with allocations := [] }
  (totalsById dto.allocations).forM (applyTotal companyId userId)
  savePayment (markReallocated userId now dto payment)
  return markReallocated userId now dto payment

/-! ## What the checks say -/

def ValidAllocations (direction : PaymentDirection) (allocations : List PaymentAllocation) : Prop :=
  ∀ a ∈ allocations,
    a.referenceType = VALID_DIRECTION_REFERENCE_PAIRS direction ∧ 0 < a.allocatedAmount

@[simp] theorem commits_assertAllocationsValid (direction : PaymentDirection) (amount : Cents)
    (allocations : List PaymentAllocation) (db : Db) (u : Unit) (db' : Db) :
    Commits (assertAllocationsValid direction amount allocations) db u db' ↔
      (ValidAllocations direction allocations ∧ allocatedTotal allocations ≤ amount) ∧
        db = db' := by
  have hone : ∀ a ∈ allocations, ∀ (u : PUnit) (s' : Db),
      Commits (assertAllocationValid direction a) db u s' ↔
        (a.referenceType = VALID_DIRECTION_REFERENCE_PAIRS direction ∧ 0 < a.allocatedAmount) ∧
          db = s' := by
    intro a _ u s'
    simp [assertAllocationValid, and_assoc]
  simp only [assertAllocationsValid, commits_bind, commits_rejectIf, not_lt]
  constructor
  · rintro ⟨_, _, hloop, htotal, rfl⟩
    obtain ⟨hvalid, rfl⟩ := (commits_forM_check hone _ _).1 hloop
    exact ⟨⟨hvalid, htotal⟩, rfl⟩
  · rintro ⟨⟨hvalid, htotal⟩, rfl⟩
    exact ⟨⟨⟩, db, (commits_forM_check hone _ _).2 ⟨hvalid, rfl⟩, htotal, rfl⟩

@[simp] theorem commits_assertPurchaseInvoiceOnly (payment : Payment)
    (allocations : List PaymentAllocation) (db : Db) (u : Unit) (db' : Db) :
    Commits (assertPurchaseInvoiceOnlyAllocations payment allocations) db u db' ↔
      (payment.direction = .Payment ∧ ∀ a ∈ allocations, a.referenceType = .PurchaseInvoice) ∧
        db = db' := by
  simp [assertPurchaseInvoiceOnlyAllocations, and_assoc]

@[simp] theorem commits_findConfirmed (verb : String) (id companyId : Uuid) (db : Db)
    (payment : Payment) (db' : Db) :
    Commits (findConfirmed verb id companyId) db payment db' ↔
      (db.paying.payments.find? id = some payment ∧ payment.companyId = companyId ∧
        payment.status = .Confirmed) ∧ db = db' := by
  simp only [findConfirmed, commits_bind, commits_get, commits_orReject, commits_rejectIf,
    commits_pure, Option.filter_eq_some_iff, decide_eq_true_eq, not_not]
  constructor
  · rintro ⟨_, _, ⟨rfl, rfl⟩, _, _, ⟨⟨hfind, hcompany⟩, rfl⟩, _, _, ⟨hconfirmed, rfl⟩, rfl, rfl⟩
    exact ⟨⟨hfind, hcompany, hconfirmed⟩, rfl⟩
  · rintro ⟨⟨hfind, hcompany, hconfirmed⟩, rfl⟩
    exact ⟨db, db, ⟨rfl, rfl⟩, payment, db, ⟨⟨hfind, hcompany⟩, rfl⟩, ⟨⟩, db, ⟨hconfirmed, rfl⟩,
      rfl, rfl⟩

theorem assertCreatable_valid {companyId : Uuid} {dto : CreatePaymentDto} {db db' : Db} {u : Unit}
    (h : Commits (assertCreatable companyId dto) db u db') :
    ValidAllocations dto.direction dto.allocations ∧ db = db' := by
  simp only [assertCreatable, assertValidPaymentMethod, commits_bind, commits_findPaymentMethod,
    commits_rejectIf, commits_assertAllocationsValid] at h
  obtain ⟨_, _, hcompany, _, db₁, hparty, _, _, ⟨_, _, ⟨-, rfl⟩, -, rfl⟩, ⟨hvalid, -⟩, rfl⟩ := h
  obtain rfl := assertCompanyAndBranch_reads hcompany
  refine ⟨hvalid, ?_⟩
  have hcustomer : ∀ direction, Commits (assertValidCustomer direction companyId dto.customerId
      dto.supplierId) db ⟨⟩ db₁ → db = db₁ := by
    intro direction h
    unfold assertValidCustomer at h
    split at h
    · simp only [commits_bind, commits_findCustomer, commits_rejectIf] at h
      obtain ⟨_, _, ⟨-, rfl⟩, -, rfl⟩ := h
      rfl
    · exact absurd h (commits_throw _ _ _ _)
  unfold assertValidPartyForDirection at hparty
  split at hparty
  · exact hcustomer _ hparty
  · exact hcustomer _ hparty
  · unfold assertValidSupplier at hparty
    split at hparty
    · simp only [commits_bind, commits_findSupplier, commits_rejectIf] at hparty
      obtain ⟨_, _, ⟨-, rfl⟩, -, rfl⟩ := hparty
      rfl
    · exact absurd hparty (commits_throw _ _ _ _)

/-! ## What the totals post -/

/-- What the loop of `create` applies, target by target. -/
def targetPostings (allocations : List PaymentAllocation) : List (AllocationTarget × Cents) :=
  (sortedTargets allocations).map fun t => (t, totalForTarget allocations t)

variable {allocations : List PaymentAllocation}

theorem mem_sortedTargets {t : AllocationTarget} :
    t ∈ sortedTargets allocations ↔ ∃ a ∈ allocations, a.target = t := by
  rw [sortedTargets, List.mem_insertionSort, List.mem_dedup, List.mem_map]

theorem mem_totalsById {k : Uuid} :
    k ∈ (totalsById allocations).map Prod.fst ↔ ∃ a ∈ allocations, a.referenceId = k := by
  have hperm := (List.perm_insertionSort (fun a b : Uuid × Cents => a.1 ≤ b.1)
    ((entryPostings (buildAllocationTotals allocations)).map fun e => (e.1.2, e.2))).map Prod.fst
  rw [totalsById, hperm.mem_iff]
  simp only [List.mem_map, exists_exists_and_eq_and, entryPostings]
  constructor
  · rintro ⟨entry, hentry, rfl⟩
    have hmem : entry.1 ∈ buildAllocationTotals allocations :=
      List.mem_map.2 ⟨entry, hentry, rfl⟩
    obtain ⟨p, hp, hkey⟩ := (mem_totals _ _).1 hmem
    obtain ⟨a, ha, rfl⟩ := List.mem_map.1 hp
    exact ⟨a, ha, congrArg Prod.snd hkey⟩
  · rintro ⟨a, ha, rfl⟩
    have hmem : a.target ∈ buildAllocationTotals allocations :=
      (mem_totals _ _).2 ⟨a.posting, List.mem_map_of_mem ha, rfl⟩
    obtain ⟨entry, hentry, hkey⟩ := List.mem_map.1 hmem
    exact ⟨entry, hentry, by rw [hkey]; rfl⟩

/-- The targets' totals post what the allocations post. -/
theorem net_targetPostings (allocations : List PaymentAllocation) (t : AllocationTarget) :
    net (targetPostings allocations) t = net (allocationPostings allocations) t := by
  have hnodup : (sortedTargets allocations).Nodup :=
    (List.perm_insertionSort _ _).nodup_iff.2 (List.nodup_dedup _)
  refine net_totals_of_keys (allocationPostings allocations) hnodup (fun p hp => ?_) t
  obtain ⟨a, ha, rfl⟩ := List.mem_map.1 hp
  exact mem_sortedTargets.2 ⟨a, ha, rfl⟩

theorem net_totalsById (htype : ∀ a ∈ allocations, a.referenceType = .PurchaseInvoice) (id : Uuid) :
    net (totalsById allocations) id =
      net (allocationPostings allocations) (PaymentReferenceType.PurchaseInvoice, id) := by
  have hkeys : ∀ e ∈ entryPostings (buildAllocationTotals allocations),
      e.1.1 = .PurchaseInvoice := by
    intro e he
    obtain ⟨entry, hentry, rfl⟩ := List.mem_map.1 he
    have hmem : entry.1 ∈ buildAllocationTotals allocations :=
      List.mem_map.2 ⟨entry, hentry, rfl⟩
    obtain ⟨p, hp, hkey⟩ := (mem_totals _ _).1 hmem
    obtain ⟨a, ha, rfl⟩ := List.mem_map.1 hp
    have htarget : entry.1.1 = a.referenceType := by rw [← hkey]; rfl
    rw [htarget, htype a ha]
  have hinj : Function.Injective fun id : Uuid => (PaymentReferenceType.PurchaseInvoice, id) :=
    fun _ _ h => (Prod.mk.inj h).2
  have hpair : (entryPostings (buildAllocationTotals allocations)).map
      (fun e => ((PaymentReferenceType.PurchaseInvoice, e.1.2), e.2)) =
      entryPostings (buildAllocationTotals allocations) := by
    conv_rhs => rw [← List.map_id (entryPostings (buildAllocationTotals allocations))]
    refine List.map_congr_left fun e he => ?_
    rw [← hkeys e he]
    rfl
  rw [totalsById, net_perm (List.perm_insertionSort _ _)]
  rw [← net_map_of_injective _ (fun e : AllocationTarget × Cents => e.1.2) hinj (fun e => e.2) id,
    hpair, buildAllocationTotals, net_totals]

end PaymentsService

end FashionErp
