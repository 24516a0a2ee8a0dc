/-
`post` and `void` of purchase invoices beside the transactions that pay and credit
them.

`post` and `void` read the invoice without a lock, make their checks, and save the
entity.
-/
import FashionErp.Payments.PayablesRun

namespace FashionErp

open Lib Lib.Tx

namespace PurchaseInvoicesService

/-- The read of `post` and its first check. -/
def readToPost (id companyId : Uuid) : DbTx PurchaseInvoice := do
  let invoice ← findEntity id companyId
  let current := invoice.status.value
  rejectIf (invoice.status ≠ .Draft)
    (appException .Conflict s!"Cannot post a {current} purchase invoice")
  return invoice

/-- The checks of `post` on the order and its goods receipts. -/
def checkOrder (invoice : PurchaseInvoice) (companyId : Uuid) : DbTx Unit := do
  let purchaseOrder ← findOrder invoice companyId
  rejectIf (isReleasedPurchaseOrder purchaseOrder.status = false)
    (appException .Conflict "Only approved purchase orders can be posted to AP invoices")
  let db ← get
  rejectIf (goodsReceiptsOf db companyId invoice.purchaseOrderId).isEmpty
    (appException .Conflict "Cannot post a purchase invoice before any goods receipt exists")

theorem post_eq (id companyId userId : Uuid) (now : Instant) :
    post id companyId userId now = do
      let invoice ← readToPost id companyId
      checkOrder invoice companyId
      savePurchaseInvoice (markPosted userId now invoice)
      return markPosted userId now invoice := by
  simp only [post, readToPost, checkOrder, bind_assoc, pure_bind]

/-- The read of `void` and its checks. -/
def readToVoid (id companyId : Uuid) : DbTx PurchaseInvoice := do
  let invoice ← findEntity id companyId
  rejectIf (invoice.status = .Voided)
    (appException .Conflict "Purchase invoice is already voided")
  rejectIf (0 < invoice.paidAmount ∨ 0 < invoice.creditedAmount)
    (appException .Conflict "Cannot void a purchase invoice that already has payment or credit activity")
  return invoice

theorem void_eq (id companyId userId : Uuid) (now : Instant) (reason : String) :
    void id companyId userId now reason = do
      let invoice ← readToVoid id companyId
      savePurchaseInvoice (markVoided userId now reason invoice)
      return markVoided userId now reason invoice := by
  simp only [void, readToVoid, bind_assoc, pure_bind]

end PurchaseInvoicesService

namespace VoidRace

open PurchaseInvoicesService

/-- `save`: the row with the columns in which the entity differs from what was read. -/
def mergeInvoice (entity seen row : PurchaseInvoice) : PurchaseInvoice where
  id := row.id
  invoiceNumber := mergeCol entity.invoiceNumber seen.invoiceNumber row.invoiceNumber
  companyId := mergeCol entity.companyId seen.companyId row.companyId
  supplierId := mergeCol entity.supplierId seen.supplierId row.supplierId
  purchaseOrderId := mergeCol entity.purchaseOrderId seen.purchaseOrderId row.purchaseOrderId
  status := mergeCol entity.status seen.status row.status
  grandTotal := mergeCol entity.grandTotal seen.grandTotal row.grandTotal
  paidAmount := mergeCol entity.paidAmount seen.paidAmount row.paidAmount
  creditedAmount := mergeCol entity.creditedAmount seen.creditedAmount row.creditedAmount
  balanceAmount := mergeCol entity.balanceAmount seen.balanceAmount row.balanceAmount
  currency := mergeCol entity.currency seen.currency row.currency
  updatedBy := mergeCol entity.updatedBy seen.updatedBy row.updatedBy
  postedAt := mergeCol entity.postedAt seen.postedAt row.postedAt
  postedBy := mergeCol entity.postedBy seen.postedBy row.postedBy
  voidedAt := mergeCol entity.voidedAt seen.voidedAt row.voidedAt
  voidedBy := mergeCol entity.voidedBy seen.voidedBy row.voidedBy
  voidReason := mergeCol entity.voidReason seen.voidReason row.voidReason

/-- A call of `post` or `void`. -/
inductive Call
  | post (id companyId userId : Uuid) (now : Instant)
  | void (id companyId userId : Uuid) (now : Instant) (reason : String)

inductive Phase
  | idle
  /-- `post` has read a draft; the order and the receipts are next. -/
  | posting (companyId userId : Uuid) (now : Instant) (invoice : PurchaseInvoice)
  | changed (entity : PurchaseInvoice)
  /-- `save` has read the row again. -/
  | saving (entity seen : PurchaseInvoice)

structure State where
  db : Db
  phase : ℕ → Phase

inductive Label
  | read (i : ℕ) (call : Call)
  | check (i : ℕ)
  /-- The read of `save`. -/
  | reread (i : ℕ)
  | update (i : ℕ)
  /-- The process gives up. -/
  | abort (i : ℕ)
  | transaction (request : PayablesRequest)

def State.setPhase (s : State) (i : ℕ) (p : Phase) : State :=
  { s with phase := Function.update s.phase i p }

/-- `post` and `void` are taken step by step, the other requests are transactions. -/
def isTransaction : PayablesRequest → Bool
  | .postInvoice .. | .voidInvoice .. => false
  | _ => true

def Call.afterRead (db : Db) : Call → Phase
  | .post id companyId userId now =>
    match (run (readToPost id companyId) db).1 with
    | .ok invoice => .posting companyId userId now invoice
    | .error _ => .idle
  | .void id companyId userId now reason =>
    match (run (readToVoid id companyId) db).1 with
    | .ok invoice => .changed (markVoided userId now reason invoice)
    | .error _ => .idle

def saveInvoice (entity seen row : PurchaseInvoice) (db : Db) : Db :=
  { db with buying := { db.buying with
      purchaseInvoices := db.buying.purchaseInvoices.save (mergeInvoice entity seen row) } }

def step (s : State) : Label → Option State
  | .read i call =>
    match s.phase i with
    | .idle => some (s.setPhase i (call.afterRead s.db))
    | _ => none
  | .check i =>
    match s.phase i with
    | .posting companyId userId now invoice =>
      match (run (checkOrder invoice companyId) s.db).1 with
      | .ok _ => some (s.setPhase i (.changed (markPosted userId now invoice)))
      | .error _ => some (s.setPhase i .idle)
    | _ => none
  | .reread i =>
    match s.phase i with
    | .changed entity => (s.db.buying.purchaseInvoices.find? entity.id).map fun seen =>
        s.setPhase i (.saving entity seen)
    | _ => none
  | .update i =>
    match s.phase i with
    | .saving entity seen => (s.db.buying.purchaseInvoices.find? entity.id).map fun row =>
        { s with db := saveInvoice entity seen row s.db }.setPhase i .idle
    | _ => none
  | .abort i => some (s.setPhase i .idle)
  | .transaction request =>
    if isTransaction request then some { s with db := request.answer s.db } else none

/-- Every interleaving of `post` and `void` with the transactions on the same
invoices. -/
def machine : Machine State Label := ⟨step⟩

/-! ## What may go wrong -/

/-- The update of a save finds the row as it was read: a `post` one that is not void; a
`void` one without a new credit, that is void already or has had no payment since. -/
def Fresh (entity seen row : PurchaseInvoice) : Prop :=
  (entity.status = .Posted → row.status ≠ .Voided) ∧
    (entity.status = .Voided → row.creditedAmount = entity.creditedAmount ∧
      (row.status = .Voided ∨
        (row.paidAmount = entity.paidAmount ∧ row.balanceAmount = seen.balanceAmount)))

instance (entity seen row : PurchaseInvoice) : Decidable (Fresh entity seen row) :=
  inferInstanceAs (Decidable (_ ∧ _))

def ReturnsOpen (db : Db) (id : Uuid) : Prop :=
  ∀ r ∈ db.buying.purchaseReturns.find? id,
    ∀ i ∈ db.buying.purchaseInvoices.find? r.purchaseInvoiceId, i.status ≠ .Voided

instance (db : Db) (id : Uuid) : Decidable (ReturnsOpen db id) :=
  inferInstanceAs (Decidable (∀ r ∈ db.buying.purchaseReturns.find? id,
    ∀ i ∈ db.buying.purchaseInvoices.find? r.purchaseInvoiceId, i.status ≠ .Voided))

/-- No return is completed on a void invoice, and no save writes over what it has not
read. -/
def Respects (s : State) : Label → Prop
  | .update i =>
    match s.phase i with
    | .saving entity seen => ∀ row ∈ s.db.buying.purchaseInvoices.find? entity.id,
        Fresh entity seen row
    | _ => True
  | .transaction (.completeReturn id ..) => ReturnsOpen s.db id
  | _ => True

instance (s : State) (l : Label) : Decidable (Respects s l) := by
  unfold Respects
  split
  · split <;> infer_instance
  · infer_instance
  · infer_instance

def VoidedWorthless (tables : PurchaseTables) : Prop :=
  ∀ i ∈ tables.purchaseInvoices.rows, i.status = .Voided →
    i.balanceAmount = 0 ∧ i.paidAmount = 0

/-- Void invoices stay void and worthless from one database to a later one: no
payment is allocated to them, no credit is added, and no return of theirs completed. -/
structure StaysVoid (db db' : Db) : Prop where
  row : ∀ i ∈ db.buying.purchaseInvoices.rows, i.status = .Voided →
    ∃ i' ∈ db'.buying.purchaseInvoices.rows, i'.id = i.id ∧ i'.status = .Voided ∧
      i'.balanceAmount = 0 ∧ i'.paidAmount = 0 ∧ i'.creditedAmount = i.creditedAmount
  allocations : ∀ i ∈ db.buying.purchaseInvoices.rows, i.status = .Voided →
    allocatedTo db' i.id = allocatedTo db i.id
  credits : ∀ i ∈ db.buying.purchaseInvoices.rows, i.status = .Voided →
    ∀ r ∈ db'.buying.purchaseReturns.rows, r.purchaseInvoiceId = i.id → r.status = .Completed →
      r ∈ db.buying.purchaseReturns.rows

theorem StaysVoid.refl {db : Db} (h : VoidedWorthless db.buying) : StaysVoid db db := by
  refine ⟨fun i hi hvoid => ?_, fun _ _ _ => rfl, fun _ _ _ r hr _ _ => hr⟩
  obtain ⟨hbalance, hpaid⟩ := h i hi hvoid
  exact ⟨i, hi, rfl, hvoid, hbalance, hpaid, rfl⟩

theorem StaysVoid.trans {db db₁ db₂ : Db} (h₁ : StaysVoid db db₁) (h₂ : StaysVoid db₁ db₂) :
    StaysVoid db db₂ := by
  refine ⟨fun i hi hvoid => ?_, fun i hi hvoid => ?_, fun i hi hvoid r hr hri hcompleted => ?_⟩
  · obtain ⟨i₁, hi₁, hid₁, hvoid₁, -, -, hcredited₁⟩ := h₁.row i hi hvoid
    obtain ⟨i₂, hi₂, hid₂, hvoid₂, hbalance, hpaid, hcredited₂⟩ := h₂.row i₁ hi₁ hvoid₁
    exact ⟨i₂, hi₂, hid₂.trans hid₁, hvoid₂, hbalance, hpaid, hcredited₂.trans hcredited₁⟩
  · obtain ⟨i₁, hi₁, hid₁, hvoid₁, -⟩ := h₁.row i hi hvoid
    have hlater := h₂.allocations i₁ hi₁ hvoid₁
    rw [hid₁] at hlater
    exact hlater.trans (h₁.allocations i hi hvoid)
  · obtain ⟨i₁, hi₁, hid₁, hvoid₁, -⟩ := h₁.row i hi hvoid
    have hr₁ := h₂.credits i₁ hi₁ hvoid₁ r hr (hri.trans hid₁.symm) hcompleted
    exact h₁.credits i hi hvoid r hr₁ hri hcompleted

/-! ## What a transaction does to void invoices -/

structure PaidNonneg (tables : PurchaseTables) : Prop where
  invoices : ∀ i ∈ tables.purchaseInvoices.rows, 0 ≤ i.paidAmount
  orders : ∀ o ∈ tables.purchaseOrders.rows, 0 ≤ o.paidAmount

structure SameVoided (tables tables' : PurchaseTables) : Prop where
  kept : ∀ i ∈ tables.purchaseInvoices.rows, i.status = .Voided → i ∈ tables'.purchaseInvoices.rows
  old : ∀ i ∈ tables'.purchaseInvoices.rows, i.status = .Voided → i ∈ tables.purchaseInvoices.rows

theorem SameVoided.refl (tables : PurchaseTables) : SameVoided tables tables :=
  ⟨fun _ hi _ => hi, fun _ hi _ => hi⟩

variable {t : PurchaseTables} {companyId id userId : Uuid} {i : PurchaseInvoice}
  {totals : List (Uuid × Cents)} {allocations : List PaymentAllocation} {db' : Db}

theorem SameVoided.trans {t₁ t₂ : PurchaseTables} (h₁ : SameVoided t t₁) (h₂ : SameVoided t₁ t₂) :
    SameVoided t t₂ :=
  ⟨fun i hi hvoid => h₂.kept i (h₁.kept i hi hvoid) hvoid,
    fun i hi hvoid => h₁.old i (h₂.old i hi hvoid) hvoid⟩

theorem SameVoided.worthless {t' : PurchaseTables} (h : SameVoided t t') (ht : VoidedWorthless t) :
    VoidedWorthless t' :=
  fun i hi hvoid => ht i (h.old i hi hvoid) hvoid

theorem SameVoided.save {t' : PurchaseTables} {i' : PurchaseInvoice}
    (ht' : t'.purchaseInvoices = t.purchaseInvoices.save i') (hnot' : i'.status ≠ .Voided)
    (hrow : ∀ i, t.purchaseInvoices.find? i'.id = some i → i.status ≠ .Voided) :
    SameVoided t t' := by
  constructor
  · intro i hi hvoid
    rw [ht', Table.mem_save]
    refine .inr ⟨hi, fun hkey => hrow i ?_ hvoid⟩
    have hfind := (Table.mem_rows_iff _ _).1 hi
    rw [hkey] at hfind
    exact hfind
  · intro i hi hvoid
    rw [ht', Table.mem_save] at hi
    rcases hi with rfl | ⟨hi, -⟩
    · exact absurd hvoid hnot'
    · exact hi

variable {paid : Cents}

theorem SameVoided.settle {o : PurchaseOrder}
    (hi : t.purchaseInvoices.find? id = some i) (hnot : i.status ≠ .Voided) :
    SameVoided t (settle userId paid i o t) := by
  refine .save rfl hnot fun j hj => ?_
  have hid : i.id = id := Table.key_of_find? hi
  change t.purchaseInvoices.find? i.id = some j at hj
  rw [hid, hi] at hj
  rw [← Option.some.inj hj]
  exact hnot

theorem PaidNonneg.settle (h : PaidNonneg t) {o : PurchaseOrder} (hpaid : 0 ≤ paid) :
    PaidNonneg (settle userId paid i o t) :=
  ⟨Table.forall_save h.invoices hpaid, Table.forall_save h.orders hpaid⟩

structure Settles (tables tables' : PurchaseTables) : Prop where
  voided : SameVoided tables tables'
  paid : PaidNonneg tables'
  returns : tables'.purchaseReturns = tables.purchaseReturns

theorem Settles.settle {s : PurchaseTables} (h : Settles t s) (userId : Uuid)
    (o : PurchaseOrder) (hi : s.purchaseInvoices.find? id = some i) (hnot : i.status ≠ .Voided)
    (hpaid : 0 ≤ paid) :
    Settles t (PurchaseInvoicesService.settle userId paid i o s) ∧
      ∀ j ∈ t.purchaseInvoices.rows, j.status = .Voided → j.id ≠ id := by
  refine ⟨⟨h.voided.trans (.settle hi hnot), h.paid.settle hpaid, h.returns⟩,
    fun j hj hvoid hid => ?_⟩
  have hij : j = i :=
    Table.eq_of_key (h.voided.kept j hj hvoid) (Table.mem_of_find? hi)
      (hid.trans (Table.key_of_find? hi).symm)
  exact hnot (hij ▸ hvoid)

def PassesBy (tables : PurchaseTables) (totals : List (Uuid × Cents)) : Prop :=
  ∀ i ∈ tables.purchaseInvoices.rows, i.status = .Voided → i.id ∉ totals.map Prod.fst

theorem PassesBy.append {tables : PurchaseTables} {e : Uuid × Cents} (h : PassesBy tables totals)
    (he : ∀ i ∈ tables.purchaseInvoices.rows, i.status = .Voided → i.id ≠ e.1) :
    PassesBy tables (totals ++ [e]) := by
  intro i hi hvoid hmem
  rw [List.map_append, List.mem_append, List.map_singleton, List.mem_singleton] at hmem
  rcases hmem with hmem | hid
  · exact h i hi hvoid hmem
  · exact he i hi hvoid hid

variable {direction : PaymentDirection}

theorem totalForTarget_nonneg
    (hvalid : PaymentsService.ValidAllocations direction allocations) (t : AllocationTarget) :
    0 ≤ PaymentsService.totalForTarget allocations t := by
  have hnet : PaymentsService.totalForTarget allocations t = net (allocationPostings allocations) t :=
    lookup_totals (allocationPostings allocations) t
  rw [hnet]
  refine net_nonneg (fun p hp => ?_) t
  obtain ⟨a, ha, rfl⟩ := List.mem_map.1 hp
  exact (hvalid a ha).2.le

variable {u : Unit}

/-- The loop of a payment passes by void invoices: it would be rejected there. -/
theorem applyTargets_settles
    (hvalid : PaymentsService.ValidAllocations direction allocations) {db : Db}
    (hpaid : PaidNonneg db.buying)
    (h : Commits ((PaymentsService.sortedTargets allocations).forM (PaymentsService.applyTarget companyId userId allocations)) db u db') :
    Settles db.buying db'.buying ∧ ∀ i ∈ db.buying.purchaseInvoices.rows, i.status = .Voided →
      invoiceTarget i.id ∉ PaymentsService.sortedTargets allocations := by
  have hloop := forM_invariant (fun done s => Settles db.buying s.buying ∧
    ∀ i ∈ db.buying.purchaseInvoices.rows, i.status = .Voided → invoiceTarget i.id ∉ done)
    (fun done t rest s s' heq hI hstep => ?_)
    ⟨⟨.refl _, hpaid, rfl⟩, fun _ _ _ => List.not_mem_nil⟩ h
  · exact hloop
  · obtain ⟨hI, hdone⟩ := hI
    have htype : t.1 = PaymentsService.VALID_DIRECTION_REFERENCE_PAIRS direction := by
      have hmem : t ∈ PaymentsService.sortedTargets allocations := by
        rw [heq]
        exact List.mem_append_right _ List.mem_cons_self
      obtain ⟨a, ha, rfl⟩ := PaymentsService.mem_sortedTargets.1 hmem
      exact (hvalid a ha).1
    obtain ⟨type, id⟩ := t
    have hother : s'.buying = s.buying → type ≠ .PurchaseInvoice →
        Settles db.buying s'.buying ∧ ∀ i ∈ db.buying.purchaseInvoices.rows, i.status = .Voided →
          invoiceTarget i.id ∉ done ++ [(type, id)] := by
      intro hbuying htype
      rw [hbuying]
      refine ⟨hI, fun i hi hvoid hmem => ?_⟩
      rcases List.mem_append.1 hmem with hmem | hmem
      · exact hdone i hi hvoid hmem
      · exact htype (Prod.mk.inj (List.mem_singleton.1 hmem)).1.symm
    cases type with
    | PurchaseInvoice =>
      obtain ⟨i, o, hfound, hposted, -, rfl⟩ := (commits_applyPayment _ _ _ _ _ _ _).1 hstep
      have hnot : i.status ≠ .Voided := by
        rw [hposted]
        decide
      have hnewPaid := add_nonneg (hI.paid.invoices i (Table.mem_of_find? hfound.row))
        (totalForTarget_nonneg hvalid (.PurchaseInvoice, id))
      obtain ⟨hsettles, hnotVoid⟩ := hI.settle userId o hfound.row hnot hnewPaid
      refine ⟨hsettles, fun j hj hvoid hmem => ?_⟩
      rcases List.mem_append.1 hmem with hmem | hmem
      · exact hdone j hj hvoid hmem
      · exact hnotVoid j hj hvoid (Prod.mk.inj (List.mem_singleton.1 hmem)).2
    | Sale =>
      obtain ⟨sale, -, -, -, rfl⟩ := (SalesService.commits_applyPayment _ _ _ _ _ _ _).1 hstep
      exact hother rfl (by decide)
    | PurchaseOrder =>
      cases direction <;> cases htype
    | SaleReturn =>
      have hbuying : s'.buying = s.buying := by
        simp only [PaymentsService.applyTarget, SaleReturnsService.applyRefund,
          SaleReturnsService.findByIdInCompany, SaleReturnsService.saveReturn, commits_bind,
          commits_get, commits_orReject, commits_rejectIf, commits_modify] at hstep
        obtain ⟨_, _, ⟨_, _, ⟨rfl, rfl⟩, -, rfl⟩, _, _, ⟨-, rfl⟩, _, _, ⟨-, rfl⟩, rfl⟩ := hstep
        rfl
      exact hother hbuying (by decide)

/-- The loop that takes totals back passes by void invoices: nothing is paid on
them. -/
theorem unapplyTotals_settles (hpos : ∀ e ∈ totals, 0 < e.2) {db : Db}
    (hpaid : PaidNonneg db.buying) (hworthless : VoidedWorthless db.buying)
    (h : Commits (totals.forM (PaymentsService.unapplyTotal companyId userId)) db u db') :
    Settles db.buying db'.buying ∧ PassesBy db.buying totals := by
  have hloop := forM_invariant
    (fun done s => Settles db.buying s.buying ∧ PassesBy db.buying done)
    (fun done e rest s s' heq hI hstep => ?_)
    ⟨⟨.refl _, hpaid, rfl⟩, fun _ _ _ => List.not_mem_nil⟩ h
  · exact hloop
  · obtain ⟨hI, hdone⟩ := hI
    have hmem : e ∈ totals := by
      rw [heq]
      exact List.mem_append_right _ List.mem_cons_self
    obtain ⟨i, o, hfound, hroom, rfl⟩ := (commits_unapplyPayment _ _ _ _ _ _ _).1 hstep
    have hrow := Table.mem_of_find? hfound.row
    have hnot : i.status ≠ .Voided := by
      intro hvoid
      obtain ⟨-, hzero⟩ := hI.voided.worthless hworthless i hrow hvoid
      rw [hzero, zero_sub] at hroom
      exact absurd (hpos e hmem) (not_lt.2 (neg_nonneg.1 hroom))
    obtain ⟨hsettles, hnotVoid⟩ := hI.settle userId o hfound.row hnot hroom
    exact ⟨hsettles, hdone.append hnotVoid⟩

theorem applyTotals_settles (hpos : ∀ e ∈ totals, 0 < e.2) {db : Db}
    (h : Commits (totals.forM (PaymentsService.applyTotal companyId userId)) db u db')
    (hpaid : PaidNonneg db.buying) : Settles db.buying db'.buying ∧ PassesBy db.buying totals := by
  have hloop := forM_invariant
    (fun done s => Settles db.buying s.buying ∧ PassesBy db.buying done)
    (fun done e rest s s' heq hI hstep => ?_)
    ⟨⟨.refl _, hpaid, rfl⟩, fun _ _ _ => List.not_mem_nil⟩ h
  · exact hloop
  · obtain ⟨hI, hdone⟩ := hI
    have hmem : e ∈ totals := by
      rw [heq]
      exact List.mem_append_right _ List.mem_cons_self
    obtain ⟨i, o, hfound, hposted, -, rfl⟩ := (commits_applyPayment _ _ _ _ _ _ _).1 hstep
    have hnot : i.status ≠ .Voided := by
      rw [hposted]
      decide
    have hnewPaid := add_nonneg (hI.paid.invoices i (Table.mem_of_find? hfound.row)) (hpos e hmem).le
    obtain ⟨hsettles, hnotVoid⟩ := hI.settle userId o hfound.row hnot hnewPaid
    exact ⟨hsettles, hdone.append hnotVoid⟩

/-! ## Transactions -/

/-- The invariant of the database. -/
structure Sound (db : Db) : Prop where
  worthless : VoidedWorthless db.buying
  paid : PaidNonneg db.buying
  positive : ∀ p ∈ db.paying.payments.rows, ∀ a ∈ p.allocations, 0 < a.allocatedAmount

theorem Sound.leaves {db : Db} (h : Sound db) (hvoided : SameVoided db.buying db'.buying)
    (hpaid : PaidNonneg db'.buying)
    (hpositive : ∀ p ∈ db'.paying.payments.rows, ∀ a ∈ p.allocations, 0 < a.allocatedAmount)
    (hallocated : ∀ i ∈ db.buying.purchaseInvoices.rows, i.status = .Voided → allocatedTo db' i.id = allocatedTo db i.id)
    (hreturns : ∀ i ∈ db.buying.purchaseInvoices.rows, i.status = .Voided → ∀ r ∈ db'.buying.purchaseReturns.rows, r.purchaseInvoiceId = i.id → r.status = .Completed → r ∈ db.buying.purchaseReturns.rows) :
    Sound db' ∧ StaysVoid db db' := by
  have hworthless := hvoided.worthless h.worthless
  refine ⟨⟨hworthless, hpaid, hpositive⟩, fun i hi hvoid => ?_, hallocated, hreturns⟩
  have hi' := hvoided.kept i hi hvoid
  obtain ⟨hbalance, hzero⟩ := hworthless i hi' hvoid
  exact ⟨i, hi', rfl, hvoid, hbalance, hzero, rfl⟩

theorem allocatedTo_congr {db : Db} (h : db'.paying.payments = db.paying.payments) (k : Uuid) :
    allocatedTo db' k = allocatedTo db k := by
  rw [allocatedTo_eq_sum, allocatedTo_eq_sum, h]

theorem Sound.leaves_documents {db : Db} (h : Sound db) (hvoided : SameVoided db.buying db'.buying)
    (hpaid : PaidNonneg db'.buying) (hpayments : db'.paying.payments = db.paying.payments)
    (hreturns : ∀ i ∈ db.buying.purchaseInvoices.rows, i.status = .Voided → ∀ r ∈ db'.buying.purchaseReturns.rows, r.purchaseInvoiceId = i.id → r.status = .Completed → r ∈ db.buying.purchaseReturns.rows) :
    Sound db' ∧ StaysVoid db db' := by
  refine h.leaves hvoided hpaid ?_ (fun i _ _ => allocatedTo_congr hpayments i.id) hreturns
  rw [hpayments]
  exact h.positive

theorem Sound.same {db : Db} (h : Sound db) (hbuying : db'.buying = db.buying)
    (hpayments : db'.paying.payments = db.paying.payments) : Sound db' ∧ StaysVoid db db' := by
  apply h.leaves_documents _ _ hpayments _
  · rw [hbuying]
    exact .refl _
  · rw [hbuying]
    exact h.paid
  · rw [hbuying]
    exact fun _ _ _ r hr _ _ => hr

theorem net_eq_zero_of_target {t : AllocationTarget} (h : ∀ a ∈ allocations, a.target ≠ t) :
    net (allocationPostings allocations) t = 0 := by
  refine net_eq_zero fun p hp hkey => ?_
  obtain ⟨a, ha, rfl⟩ := List.mem_map.1 hp
  exact h a ha hkey

theorem PassesBy.net_eq_zero {tables : PurchaseTables}
    (h : PassesBy tables (PaymentsService.totalsById allocations))
    (hi : i ∈ tables.purchaseInvoices.rows) (hvoid : i.status = .Voided) :
    net (allocationPostings allocations) (invoiceTarget i.id) = 0 := by
  refine net_eq_zero_of_target fun a ha htarget => h i hi hvoid ?_
  exact PaymentsService.mem_totalsById.2 ⟨a, ha, (Prod.mk.inj htarget).2⟩

theorem createPayment_leaves {now : Instant} {dto : PaymentsService.CreatePaymentDto}
    {key : Option String} {db : Db} {result : Payment × Bool} (h : Sound db)
    (hc : Commits (PaymentsService.create companyId userId now dto key) db result db') :
    Sound db' ∧ StaysVoid db db' := by
  rcases PaymentsService.create_cases hc with ⟨-, rfl⟩ | ⟨-, hvalid, hrun⟩
  · exact h.same rfl rfl
  · have hcreated := PaymentsService.runCreate_created hrun
    obtain ⟨db₁, db₂, hbuying₁, hbuying', hloop⟩ := hcreated.targets
    obtain ⟨hsettles, hnone⟩ := applyTargets_settles hvalid (by rw [hbuying₁]; exact h.paid) hloop
    rw [hbuying₁] at hsettles hnone
    apply h.leaves
    · rw [hbuying']
      exact hsettles.voided
    · rw [hbuying']
      exact hsettles.paid
    · rw [hcreated.payments]
      refine Table.forall_save h.positive fun a ha => ?_
      rw [hcreated.allocations] at ha
      exact (hvalid a ha).2
    · intro i hi hvoid
      have hzero : net (allocationPostings dto.allocations) (invoiceTarget i.id) = 0 :=
        net_eq_zero_of_target fun a ha htarget =>
          hnone i hi hvoid (PaymentsService.mem_sortedTargets.2 ⟨a, ha, htarget⟩)
      rw [hcreated.allocatedTo_eq, hzero, add_zero]
    · rw [hbuying', hsettles.returns]
      exact fun _ _ _ r hr _ _ => hr

theorem reversePayment_leaves {now : Instant} {reason : String} {db : Db} {reversed : Payment}
    (h : Sound db)
    (hc : Commits (PaymentsService.reverse id companyId userId now reason) db reversed db') :
    Sound db' ∧ StaysVoid db db' := by
  obtain ⟨payment, hrev⟩ := PaymentsService.reverse_reversed hc
  obtain ⟨db₁, hbuying', hloop⟩ := hrev.targets
  have hpos := h.positive payment (Table.mem_of_find? hrev.row)
  obtain ⟨hsettles, hpasses⟩ := unapplyTotals_settles (PaymentsService.totalsById_pos hpos) h.paid
    h.worthless hloop
  apply h.leaves
  · rw [hbuying']
    exact hsettles.voided
  · rw [hbuying']
    exact hsettles.paid
  · rw [hrev.payments, hrev.written]
    exact Table.forall_save h.positive hpos
  · intro i hi hvoid
    rw [hrev.allocatedTo_eq, hpasses.net_eq_zero hi hvoid, neg_zero, add_zero]
  · rw [hbuying', hsettles.returns]
    exact fun _ _ _ r hr _ _ => hr

theorem reallocatePayment_leaves {now : Instant} {dto : PaymentsService.ReallocatePaymentDto}
    {db : Db} {reallocated : Payment} (h : Sound db)
    (hc : Commits (PaymentsService.reallocate id companyId userId now dto) db reallocated db') :
    Sound db' ∧ StaysVoid db db' := by
  obtain ⟨payment, db₁, db₂, hfind, -, hconfirmed, -, -, hvalid, hunapply, happly, rfl, rfl⟩ :=
    PaymentsService.reallocate_spec hc
  have hpos := h.positive payment (Table.mem_of_find? hfind)
  have hnewPos : ∀ a ∈ dto.allocations, 0 < a.allocatedAmount := fun a ha => (hvalid a ha).2
  obtain ⟨hsettles₁, hpasses₁⟩ := unapplyTotals_settles (PaymentsService.totalsById_pos hpos) h.paid
    h.worthless hunapply
  obtain ⟨hsettles₂, hpasses₂⟩ := applyTotals_settles (PaymentsService.totalsById_pos hnewPos)
    happly hsettles₁.paid
  have hdocs₁ := PaymentsService.forM_documents
    (fun _ _ _ _ => PaymentsService.unapplyTotal_documents) hunapply
  have hdocs₂ := PaymentsService.forM_documents
    (fun _ _ _ _ => PaymentsService.applyTotal_documents) happly
  have hpayments₁ : db₁.paying.payments = db.paying.payments := by rw [hdocs₁]
  have hpayments₂ : db₂.paying.payments =
      db.paying.payments.save { payment with allocations := [] } := by
    rw [hdocs₂, ← hpayments₁]
  have hreturns : db₂.buying.purchaseReturns = db.buying.purchaseReturns :=
    hsettles₂.returns.trans hsettles₁.returns
  apply h.leaves
  · exact hsettles₁.voided.trans hsettles₂.voided
  · exact hsettles₂.paid
  · change ∀ p ∈ (db₂.paying.payments.save _).rows, _
    rw [hpayments₂]
    exact Table.forall_save (Table.forall_save h.positive fun a ha => by cases ha) hnewPos
  · intro i hi hvoid
    have hi₁ := hsettles₁.voided.kept i hi hvoid
    rw [PaymentsService.reallocated_allocatedTo userId now dto hfind hconfirmed hpayments₂,
      hpasses₁.net_eq_zero hi hvoid, hpasses₂.net_eq_zero hi₁ hvoid, sub_zero, add_zero]
  · change ∀ i ∈ db.buying.purchaseInvoices.rows, i.status = .Voided →
      ∀ r ∈ db₂.buying.purchaseReturns.rows, _
    rw [hreturns]
    exact fun _ _ _ r hr _ _ => hr

theorem syncInvoices_leaves {supplierId : Option Uuid} {db : Db} (h : Sound db)
    (hc : Commits (syncEligibleInvoices companyId supplierId) db u db') :
    Sound db' ∧ StaysVoid db db' := by
  simp only [syncEligibleInvoices, commits_bind, commits_get] at hc
  obtain ⟨_, _, ⟨rfl, rfl⟩, hloop⟩ := hc
  have hinv := forM_invariant (fun _ s => Settles db.buying s.buying ∧
      s.buying.purchaseOrders = db.buying.purchaseOrders ∧
      s.paying.payments = db.paying.payments)
    (fun done o rest s s' heq hI hstep => ?_) ⟨⟨.refl _, h.paid, rfl⟩, rfl, rfl⟩ hloop
  · obtain ⟨hsettles, -, hpayments⟩ := hinv
    refine h.leaves_documents hsettles.voided hsettles.paid hpayments ?_
    rw [hsettles.returns]
    exact fun _ _ _ r hr _ _ => hr
  · obtain ⟨hsettles, horders, hpayments⟩ := hI
    have ho : o ∈ db.buying.purchaseOrders.rows := by
      have hmem : o ∈ eligibleOrders db companyId supplierId := by
        rw [heq]
        exact List.mem_append_right _ List.mem_cons_self
      exact (mem_eligibleOrders hmem).1
    obtain ⟨id, s₁, hseq, hfresh, rfl⟩ := insertInvoice_spec hstep
    refine ⟨⟨hsettles.voided.trans (.save rfl (by simp [draftInvoice]) fun i hi => ?_),
      ⟨?_, hsettles.paid.orders⟩, hsettles.returns⟩, horders, ?_⟩
    · change s.buying.purchaseInvoices.find? id = some i at hi
      rw [hfresh] at hi
      cases hi
    · exact Table.forall_save hsettles.paid.invoices (h.paid.orders o ho)
    · rw [← hpayments, hseq]

theorem createReturn_leaves {now : Instant} {dto : PurchaseReturnsService.CreatePurchaseReturnDto}
    {db : Db} {r : PurchaseReturn} (h : Sound db)
    (hc : Commits (PurchaseReturnsService.create companyId userId now dto) db r db') :
    Sound db' ∧ StaysVoid db db' := by
  obtain ⟨order, -, -, hdraft, -, hdb'⟩ := PurchaseReturnsService.create_spec hc
  have hinvoices : db'.buying.purchaseInvoices = db.buying.purchaseInvoices := by rw [hdb']
  have horders : db'.buying.purchaseOrders = db.buying.purchaseOrders := by rw [hdb']
  refine h.leaves_documents ⟨fun i hi _ => ?_, fun i hi _ => ?_⟩ ⟨?_, ?_⟩ (by rw [hdb'])
    fun i _ _ r' hr' _ hcompleted => ?_
  · rw [hinvoices]
    exact hi
  · rw [← hinvoices]
    exact hi
  · rw [hinvoices]
    exact h.paid.invoices
  · rw [horders]
    exact h.paid.orders
  · rw [hdb'] at hr'
    rcases (Table.mem_save _ _ _).1 hr' with rfl | ⟨hr', -⟩
    · rw [hdraft] at hcompleted
      cases hcompleted
    · exact hr'

theorem completeReturn_leaves {now : Instant} {db : Db} {completed : PurchaseReturn} (h : Sound db)
    (hopen : ReturnsOpen db id)
    (hc : Commits (PurchaseReturnsService.complete id companyId userId now) db completed db') :
    Sound db' ∧ StaysVoid db db' := by
  obtain ⟨r, invoice, order, warehouseId, hr, -, hinvoice, horder, -, -, -, stocks, ms, rfl⟩ :=
    PurchaseReturnsService.complete_spec hc
  have hnot : invoice.status ≠ .Voided := hopen r hr invoice hinvoice
  have hid : invoice.id = r.purchaseInvoiceId := Table.key_of_find? hinvoice
  refine h.leaves_documents (.save rfl hnot fun i hi => ?_) ⟨?_, ?_⟩ rfl
    fun i hi hvoid r' hr' hri _ => ?_
  · change db.buying.purchaseInvoices.find? invoice.id = some i at hi
    rw [hid, hinvoice] at hi
    rw [← Option.some.inj hi]
    exact hnot
  · exact Table.forall_save h.paid.invoices (h.paid.invoices invoice (Table.mem_of_find? hinvoice))
  · exact Table.forall_save h.paid.orders (h.paid.orders order (Table.mem_of_find? horder))
  · rcases (Table.mem_save _ _ _).1 hr' with rfl | ⟨hr', -⟩
    · -- The completed return is of an invoice that is not void.
      have hi' : i = invoice := Table.eq_of_key hi (Table.mem_of_find? hinvoice)
        (hri.symm.trans hid.symm)
      exact absurd (hi' ▸ hvoid) hnot
    · exact hr'

theorem cancelReturn_leaves {db : Db} {cancelled : PurchaseReturn} (h : Sound db)
    (hc : Commits (PurchaseReturnsService.cancel id companyId) db cancelled db') :
    Sound db' ∧ StaysVoid db db' := by
  obtain ⟨draft, -, -, rfl⟩ := PurchaseReturnsService.cancel_spec hc
  refine h.leaves_documents ⟨fun _ hi _ => hi, fun _ hi _ => hi⟩ ⟨h.paid.invoices, h.paid.orders⟩ rfl
    fun i _ _ r' hr' _ hcompleted => ?_
  rcases (Table.mem_save _ _ _).1 hr' with rfl | ⟨hr', -⟩
  · cases hcompleted
  · exact hr'

theorem transaction_leaves {request : PayablesRequest} (htransaction : isTransaction request = true)
    {db : Db} (h : Sound db)
    (hopen : ∀ id companyId userId now, request = .completeReturn id companyId userId now →
      ReturnsOpen db id) : Sound (request.answer db) ∧ StaysVoid db (request.answer db) := by
  have hrun : ∀ {α : Type} (t : DbTx α),
      (∀ a db', Commits t db a db' → Sound db' ∧ StaysVoid db db') →
        Sound (run t db).2 ∧ StaysVoid db (run t db).2 := by
    intro α t ht
    rcases run_cases t db with ⟨a, db', hcommits, hrun⟩ | ⟨_, -, hrun⟩
    · rw [hrun]
      exact ht a db' hcommits
    · rw [hrun]
      exact h.same rfl rfl
  have hmanual : ∀ {db'}, JournalEntriesService.Manual db db' → Sound db' ∧ StaysVoid db db' :=
    fun hm => h.same hm.buying (by rw [hm.paying])
  cases request with
  | createPayment => exact hrun _ fun _ _ => createPayment_leaves h
  | reversePayment => exact hrun _ fun _ _ => reversePayment_leaves h
  | reallocatePayment => exact hrun _ fun _ _ => reallocatePayment_leaves h
  | syncInvoices => exact hrun _ fun _ _ => syncInvoices_leaves h
  | postInvoice => cases htransaction
  | voidInvoice => cases htransaction
  | createReturn => exact hrun _ fun _ _ => createReturn_leaves h
  | completeReturn => exact hrun _ fun _ _ => completeReturn_leaves h (hopen _ _ _ _ rfl)
  | cancelReturn => exact hrun _ fun _ _ => cancelReturn_leaves h
  | createEntry => exact hrun _ fun _ _ hc => hmanual (JournalEntriesService.create_manual hc)
  | postEntry => exact hrun _ fun _ _ hc => hmanual (JournalEntriesService.post_manual hc)
  | cancelEntry => exact hrun _ fun _ _ hc => hmanual (JournalEntriesService.cancel_manual hc)

/-! ## Saves -/

/-- What `post` and `void` make of the invoice they read. -/
structure EntityOk (entity : PurchaseInvoice) : Prop where
  paid : 0 ≤ entity.paidAmount
  status : entity.status = .Posted ∨
    (entity.status = .Voided ∧ entity.balanceAmount = 0 ∧ entity.paidAmount = 0)

theorem mergeCol_of_both {α : Type} [DecidableEq α] {P : α → Prop} {entity seen row : α}
    (hentity : P entity) (hrow : P row) : P (mergeCol entity seen row) := by
  rcases mergeCol_cases entity seen row with h | h
  · rw [h]
    exact hentity
  · rw [h]
    exact hrow

theorem save_posted_leaves {db : Db} {entity seen row : PurchaseInvoice} (h : Sound db)
    (hpaid : 0 ≤ entity.paidAmount) (hposted : entity.status = .Posted)
    (hrow : db.buying.purchaseInvoices.find? entity.id = some row) (hnot : row.status ≠ .Voided) :
    Sound (saveInvoice entity seen row db) ∧ StaysVoid db (saveInvoice entity seen row db) := by
  have hid : row.id = entity.id := Table.key_of_find? hrow
  have hmem := Table.mem_of_find? hrow
  have hnot' : (mergeInvoice entity seen row).status ≠ .Voided := by
    refine mergeCol_of_both (P := (· ≠ PurchaseInvoiceStatus.Voided)) ?_ hnot
    rw [hposted]
    decide
  refine h.leaves_documents (.save rfl hnot' fun i hi => ?_) ⟨?_, h.paid.orders⟩ rfl
    fun _ _ _ r hr _ _ => hr
  · change db.buying.purchaseInvoices.find? row.id = some i at hi
    rw [hid, hrow] at hi
    rw [← Option.some.inj hi]
    exact hnot
  · exact Table.forall_save h.paid.invoices
      (mergeCol_of_both (P := (0 ≤ ·)) hpaid (h.paid.invoices row hmem))

theorem save_voided_leaves {db : Db} {entity seen row : PurchaseInvoice} (h : Sound db)
    (hvoided : entity.status = .Voided) (hbalance : entity.balanceAmount = 0)
    (hpaid : entity.paidAmount = 0)
    (hrow : db.buying.purchaseInvoices.find? entity.id = some row)
    (hcredited : row.creditedAmount = entity.creditedAmount)
    (hfresh : row.status = .Voided ∨
      (row.paidAmount = entity.paidAmount ∧ row.balanceAmount = seen.balanceAmount)) :
    Sound (saveInvoice entity seen row db) ∧ StaysVoid db (saveInvoice entity seen row db) := by
  have hid : row.id = entity.id := Table.key_of_find? hrow
  have hmem := Table.mem_of_find? hrow
  have hzero : (mergeInvoice entity seen row).balanceAmount = 0 ∧
      (mergeInvoice entity seen row).paidAmount = 0 := by
    rcases hfresh with hvoid | ⟨hrowPaid, hrowBalance⟩
    · obtain ⟨hrowBalance, hrowPaid⟩ := h.worthless row hmem hvoid
      exact ⟨mergeCol_of_both (P := (· = 0)) hbalance hrowBalance,
        mergeCol_of_both (P := (· = 0)) hpaid hrowPaid⟩
    · refine ⟨?_, mergeCol_of_both (P := (· = 0)) hpaid (hrowPaid.trans hpaid)⟩
      -- What the save read is still there, so either way the balance is the entity's.
      show mergeCol entity.balanceAmount seen.balanceAmount row.balanceAmount = 0
      rw [hrowBalance, mergeCol_same, hbalance]
  have hcredit : (mergeInvoice entity seen row).creditedAmount = row.creditedAmount :=
    mergeCol_of_both (P := (· = row.creditedAmount)) hcredited.symm rfl
  have hworthless : VoidedWorthless (saveInvoice entity seen row db).buying :=
    Table.forall_save h.worthless fun _ => hzero
  refine ⟨⟨hworthless, ⟨?_, h.paid.orders⟩, h.positive⟩, fun i hi hvoid => ?_, fun _ _ _ => rfl,
    fun _ _ _ r hr _ _ => hr⟩
  · exact Table.forall_save h.paid.invoices (hzero.2.symm.le)
  · by_cases hirow : i.id = row.id
    · obtain rfl := Table.eq_of_key hi hmem hirow
      refine ⟨_, (Table.mem_save _ _ _).2 (.inl rfl), rfl, ?_, hzero.1, hzero.2, hcredit⟩
      exact mergeCol_of_both (P := (· = PurchaseInvoiceStatus.Voided)) hvoided hvoid
    · obtain ⟨hibalance, hipaid⟩ := h.worthless i hi hvoid
      exact ⟨i, (Table.mem_save _ _ _).2 (.inr ⟨hi, hirow⟩), rfl, hvoid, hibalance, hipaid, rfl⟩

def PhaseOk : Phase → Prop
  | .idle => True
  | .posting _ _ _ invoice => 0 ≤ invoice.paidAmount
  | .changed entity => EntityOk entity
  | .saving entity _ => EntityOk entity

/-- The invariant. -/
structure Inv (s : State) : Prop where
  sound : Sound s.db
  phase : ∀ i, PhaseOk (s.phase i)

theorem Inv.setPhase {s : State} (h : Inv s) (i : ℕ) {p : Phase} (hp : PhaseOk p) :
    Inv (s.setPhase i p) :=
  ⟨h.sound, forall_update (P := fun _ q => PhaseOk q) hp fun j _ => h.phase j⟩

theorem afterRead_ok {db : Db} (h : Sound db) (call : Call) : PhaseOk (call.afterRead db) := by
  cases call with
  | post id companyId userId now =>
    rcases run_cases (readToPost id companyId) db with ⟨invoice, db', hc, hrun⟩ | ⟨_, -, hrun⟩
    · simp only [Call.afterRead, hrun]
      simp only [readToPost, commits_bind, commits_findEntity, commits_rejectIf, commits_pure] at hc
      obtain ⟨_, _, ⟨⟨hfind, -⟩, rfl⟩, _, _, ⟨-, rfl⟩, rfl, rfl⟩ := hc
      exact h.paid.invoices invoice (Table.mem_of_find? hfind)
    · simp only [Call.afterRead, hrun]
      trivial
  | void id companyId userId now reason =>
    rcases run_cases (readToVoid id companyId) db with ⟨invoice, db', hc, hrun⟩ | ⟨_, -, hrun⟩
    · simp only [Call.afterRead, hrun]
      simp only [readToVoid, commits_bind, commits_findEntity, commits_rejectIf, commits_pure,
        not_or, not_lt] at hc
      obtain ⟨_, _, ⟨⟨hfind, -⟩, rfl⟩, _, _, ⟨-, rfl⟩, _, _, ⟨⟨hnotPaid, -⟩, rfl⟩, rfl, rfl⟩ := hc
      have hpaid := h.paid.invoices invoice (Table.mem_of_find? hfind)
      exact ⟨hpaid, .inr ⟨rfl, rfl, le_antisymm hnotPaid hpaid⟩⟩
    · simp only [Call.afterRead, hrun]
      trivial

theorem Inv.step {s s' : State} {l : Label} (h : Inv s) (hrespects : Respects s l)
    (hs : VoidRace.step s l = some s') : Inv s' ∧ StaysVoid s.db s'.db := by
  have hrefl : StaysVoid s.db s.db := .refl h.sound.worthless
  cases l with
  | read i call =>
    simp only [VoidRace.step] at hs
    split at hs
    · cases hs
      exact ⟨h.setPhase i (afterRead_ok h.sound call), hrefl⟩
    · cases hs
  | check i =>
    simp only [VoidRace.step] at hs
    split at hs
    · rename_i companyId userId now invoice hphase
      have hpaid := h.phase i
      rw [hphase] at hpaid
      split at hs
      · cases hs
        exact ⟨h.setPhase i ⟨hpaid, .inl rfl⟩, hrefl⟩
      · cases hs
        exact ⟨h.setPhase i trivial, hrefl⟩
    · cases hs
  | reread i =>
    simp only [VoidRace.step] at hs
    split at hs
    · rename_i entity hphase
      have hentity := h.phase i
      rw [hphase] at hentity
      obtain ⟨seen, -, rfl⟩ := Option.map_eq_some_iff.1 hs
      exact ⟨h.setPhase i hentity, hrefl⟩
    · cases hs
  | update i =>
    simp only [VoidRace.step] at hs
    split at hs
    · rename_i entity seen hphase
      have hentity := h.phase i
      rw [hphase] at hentity
      obtain ⟨row, hrow, rfl⟩ := Option.map_eq_some_iff.1 hs
      simp only [Respects, hphase] at hrespects
      obtain ⟨hpost, hvoid⟩ := hrespects row hrow
      have hsaved : Sound (saveInvoice entity seen row s.db) ∧
          StaysVoid s.db (saveInvoice entity seen row s.db) := by
        rcases hentity.status with hposted | ⟨hvoided, hbalance, hpaid⟩
        · exact save_posted_leaves h.sound hentity.paid hposted hrow (hpost hposted)
        · obtain ⟨hcredited, hfresh⟩ := hvoid hvoided
          exact save_voided_leaves h.sound hvoided hbalance hpaid hrow hcredited hfresh
      have hinv : Inv { s with db := saveInvoice entity seen row s.db } := ⟨hsaved.1, h.phase⟩
      exact ⟨hinv.setPhase i trivial, hsaved.2⟩
    · cases hs
  | abort i =>
    cases hs
    exact ⟨h.setPhase i trivial, hrefl⟩
  | transaction request =>
    simp only [VoidRace.step] at hs
    split at hs
    · rename_i htransaction
      cases hs
      obtain ⟨hsound, hstays⟩ := transaction_leaves htransaction h.sound (by
        rintro id companyId userId now rfl
        exact hrespects)
      exact ⟨⟨hsound, h.phase⟩, hstays⟩
    · cases hs

/-- Nothing is invoiced or paid yet, and no call is under way. -/
structure Start (s : State) : Prop where
  db : BeforePayables s.db
  idle : ∀ i, s.phase i = .idle

theorem Start.inv {s : State} (h : Start s) : Inv s := by
  refine ⟨⟨?_, ⟨?_, fun o ho => (h.db.unpaid o ho).1.symm.le⟩, ?_⟩, fun i => ?_⟩
  · intro i hi
    rw [h.db.noInvoices] at hi
    exact absurd hi List.not_mem_nil
  · intro i hi
    rw [h.db.noInvoices] at hi
    exact absurd hi List.not_mem_nil
  · rw [h.db.noPayments]
    exact fun p hp => absurd hp List.not_mem_nil
  · rw [h.idle i]
    trivial

/-- A void invoice stays void and worthless in every run whose returns are completed
on invoices that are not void, and whose saves write over nothing they have not read. -/
theorem voided_stays_void {s₀ s s' : State} {ls ls' : List Label} (h₀ : Start s₀)
    (hrun : machine.RunWith Respects s₀ ls s) (hrun' : machine.RunWith Respects s ls' s') :
    VoidedWorthless s.db.buying ∧ StaysVoid s.db s'.db := by
  have hinv : Inv s := hrun.invariant h₀.inv fun _ _ _ h hc hs => (h.step hc hs).1
  have hboth : Inv s' ∧ StaysVoid s.db s'.db := by
    refine hrun'.invariant (I := fun t => Inv t ∧ StaysVoid s.db t.db)
      ⟨hinv, .refl hinv.sound.worthless⟩ fun _ _ _ h hc hs => ?_
    obtain ⟨hnext, hstays⟩ := h.1.step hc hs
    exact ⟨hnext, h.2.trans hstays⟩
  exact ⟨hinv.sound.worthless, hboth.2⟩

/-! An order of ten pieces for 100.00, all of them received; its invoice is row `0`. -/

namespace VoidDemo

def order : PurchaseOrder :=
  { PayablesDemo.order with
    warehouseId := some 70
    items := [{ id := 71, productVariantId := 7, quantity := 10, unitCostSnapshot := 1000,
                conversionFactorToBaseSnapshot := none }] }

def receipt : GoodsReceipt :=
  { PayablesDemo.receipt with
    items := [{ purchaseOrderItemId := 71, productVariantId := 7, receivedQuantity := 10,
                rejectedQuantity := 0, conversionFactorToBaseSnapshot := 10000,
                baseReceivedQuantity := 10, baseRejectedQuantity := 0 }] }

def db : Db where
  master := PayablesDemo.db.master
  stock :=
    { warehouseStock := .ofRows [{ warehouseId := 70, productVariantId := 7, onHandQuantity := 10,
                                   reservedQuantity := 0 }]
      goodsReceipts := [receipt] }
  buying := { purchaseOrders := .ofRows [order] }

def start : State := ⟨db, fun _ => .idle⟩

theorem start_ok : Start start := by
  refine ⟨⟨rfl, rfl, rfl, fun e he => absurd he List.not_mem_nil, fun o ho => ?_⟩, fun _ => rfl⟩
  obtain rfl := List.mem_singleton.1 ho
  decide

def now : Instant := PayablesDemo.now

def sync : Label := .transaction (.syncInvoices 10 none)

def pay : Label := .transaction (.createPayment 10 99 now PayablesDemo.paymentDto none)

def giveBack : Label := .transaction (.createReturn 10 99 now
  { supplierId := 20, purchaseInvoiceId := 0, reason := "damaged"
    items := [{ purchaseOrderItemId := 71, quantity := 4 }] })

def posting : List Label := [.read 0 (.post 0 10 99 now), .check 0, .reread 0, .update 0]

def voiding : List Label := [.read 1 (.void 0 10 99 now "entered twice"), .reread 1, .update 1]

end VoidDemo

open VoidDemo in
theorem voided_stays_void_posted :
    ∃ ls s ls' s', machine.RunWith Respects start ls s ∧ machine.RunWith Respects s ls' s' ∧
      (∃ i ∈ s.db.buying.purchaseInvoices.rows, i.status = .Voided) ∧
      VoidedWorthless s.db.buying ∧ StaysVoid s.db s'.db := by
  obtain ⟨s, hrun, hs⟩ := Machine.exists_runWith machine Respects start
    (sync :: posting ++ [giveBack] ++ voiding)
    (fun s => (s.db.buying.purchaseInvoices.rows.any fun i => i.status = .Voided) &&
      (machine.execWith Respects s [pay, .transaction (.cancelReturn 1 10)]).isSome)
    (by decide +kernel)
  rw [Bool.and_eq_true, List.any_eq_true] at hs
  obtain ⟨⟨i, hi, hvoid⟩, hlater⟩ := hs
  obtain ⟨s', hs'⟩ := Option.isSome_iff_exists.1 hlater
  have hrun' := Machine.runWith_iff_execWith.2 hs'
  obtain ⟨hworthless, hstays⟩ := voided_stays_void start_ok hrun hrun'
  exact ⟨_, s, _, s', hrun, hrun', ⟨i, hi, of_decide_eq_true hvoid⟩, hworthless, hstays⟩

open VoidDemo in
theorem voided_invoice_comes_back :
    (∃ ls s, machine.Run start ls s ∧ ∃ i ∈ s.db.buying.purchaseInvoices.rows,
      i.status = .Voided ∧ i.balanceAmount = 10000) ∧
    (∃ ls s ls' s', machine.Run start ls s ∧ machine.Run s ls' s' ∧
      (∃ i ∈ s.db.buying.purchaseInvoices.rows, i.id = 0 ∧ i.status = .Voided) ∧
      ∃ i ∈ s'.db.buying.purchaseInvoices.rows, i.id = 0 ∧ i.status = .Posted) ∧
    ∃ ls s, machine.Run start ls s ∧ ∃ i ∈ s.db.buying.purchaseInvoices.rows,
      i.status = .Voided ∧ i.paidAmount = 6000 := by
  refine ⟨?_, ?_, ?_⟩
  · obtain ⟨s, hrun, hs⟩ := Machine.exists_runWith machine (fun _ _ => True) start
      (sync :: posting ++ [giveBack] ++ voiding ++ [.transaction (.completeReturn 1 10 99 now)])
      (fun s => s.db.buying.purchaseInvoices.rows.any fun i =>
        i.status = .Voided ∧ i.balanceAmount = 10000) (by decide +kernel)
    obtain ⟨i, hi, hvoid⟩ := List.any_eq_true.1 hs
    exact ⟨_, s, hrun, i, hi, of_decide_eq_true hvoid⟩
  · obtain ⟨s, hrun, hs⟩ := Machine.exists_runWith machine (fun _ _ => True) start
      (sync :: [.read 0 (.post 0 10 99 now), .check 0] ++ voiding)
      (fun s => (s.db.buying.purchaseInvoices.rows.any fun i => i.id = 0 ∧ i.status = .Voided) &&
        (machine.execWith (fun _ _ => True) s [.reread 0, .update 0]).any fun s' =>
          s'.db.buying.purchaseInvoices.rows.any fun i => i.id = 0 ∧ i.status = .Posted)
      (by decide +kernel)
    rw [Bool.and_eq_true, List.any_eq_true] at hs
    obtain ⟨⟨i, hi, hvoid⟩, hlater⟩ := hs
    obtain ⟨s', hrun', hs'⟩ := Machine.exists_runWith machine (fun _ _ => True) s _ _ hlater
    obtain ⟨i', hi', hposted⟩ := List.any_eq_true.1 hs'
    exact ⟨_, s, _, s', hrun, hrun', ⟨i, hi, of_decide_eq_true hvoid⟩,
      ⟨i', hi', of_decide_eq_true hposted⟩⟩
  · obtain ⟨s, hrun, hs⟩ := Machine.exists_runWith machine (fun _ _ => True) start
      (sync :: posting ++ [.read 1 (.void 0 10 99 now "entered twice"), .reread 1, pay, .update 1])
      (fun s => s.db.buying.purchaseInvoices.rows.any fun i =>
        i.status = .Voided ∧ i.paidAmount = 6000) (by decide +kernel)
    obtain ⟨i, hi, hvoid⟩ := List.any_eq_true.1 hs
    exact ⟨_, s, hrun, i, hi, of_decide_eq_true hvoid⟩

end VoidRace

end FashionErp
