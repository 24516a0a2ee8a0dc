/-
Lookups of master data that several services start with.

Each is a read and a check; none writes. A plain `findOne` does not see
soft-deleted rows, `withDeleted: true` does.
-/
import FashionErp.Core.Db

namespace FashionErp

open Lib Lib.Tx

def WarehousesService.findById (id : Uuid) : DbTx Warehouse := do
  let db ← get
  orReject ((db.master.warehouses.find? id).filter fun w => !w.deleted)
    (appException .NotFound "Warehouse not found")

/-- The check of a warehouse a stock document names in its field `label`. -/
def assertWarehouseUsable (label : String) (warehouse : Warehouse) (companyId : Uuid) :
    DbTx Unit := do
  rejectIf (warehouse.status ≠ .Active)
    (appException .ValidationError s!"{label} does not reference an active warehouse")
  rejectIf (warehouse.companyId ≠ companyId)
    (appException .ValidationError s!"{label} does not belong to the resolved company")

def ProductVariantsService.findByIdInCompany (id companyId : Uuid) : DbTx ProductVariant := do
  let db ← get
  orReject
    ((db.master.productVariants.find? id).filter fun v => v.companyId = companyId && !v.deleted)
    (appException .NotFound "Product variant not found")

def CompaniesService.findActiveByIdOrNull (id : Uuid) : DbTx (Option Company) :=
  reads fun db => (db.master.companies.find? id).filter fun c => c.status = .Active && !c.deleted

def BranchesService.findActiveByIdOrNull (id : Uuid) : DbTx (Option Branch) :=
  reads fun db => (db.master.branches.find? id).filter fun b => b.status = .Active && !b.deleted

def assertCompanyAndBranch (companyId : Uuid) (branchId : Option Uuid) : DbTx Unit := do
  let company ← CompaniesService.findActiveByIdOrNull companyId
  let _company ← orReject company
    (appException .ValidationError "companyId does not reference an active company")
  match branchId with
  | none => return ()
  | some branchId =>
    let branch ← BranchesService.findActiveByIdOrNull branchId
    let branch ← orReject branch
      (appException .ValidationError "branchId does not reference an active branch")
    rejectIf (branch.companyId ≠ companyId)
      (appException .ValidationError "branchId does not belong to the resolved company")

def CustomersService.findByIdInCompany (id companyId : Uuid) : DbTx Customer := do
  let db ← get
  orReject ((db.master.customers.find? id).filter fun c => c.companyId = companyId && !c.deleted)
    (appException .NotFound "Customer not found")

def SuppliersService.findByIdInCompany (id companyId : Uuid) : DbTx Supplier := do
  let db ← get
  orReject ((db.master.suppliers.find? id).filter fun s => s.companyId = companyId && !s.deleted)
    (appException .NotFound "Supplier not found")

def PaymentMethodsService.findByIdInCompany (id companyId : Uuid) : DbTx PaymentMethod := do
  let db ← get
  orReject
    ((db.master.paymentMethods.find? id).filter fun m => m.companyId = companyId && !m.deleted)
    (appException .NotFound "Payment method not found")

theorem assertCompanyAndBranch_reads {companyId : Uuid} {branchId : Option Uuid} {db db' : Db}
    {u : Unit} (h : Commits (assertCompanyAndBranch companyId branchId) db u db') : db = db' := by
  simp only [assertCompanyAndBranch, CompaniesService.findActiveByIdOrNull, commits_bind,
    commits_reads, commits_orReject] at h
  obtain ⟨_, _, ⟨-, rfl⟩, _, _, ⟨-, rfl⟩, h⟩ := h
  cases branchId with
  | none => exact ((commits_pure _ _ _ _).1 h).2
  | some branchId =>
    simp only [BranchesService.findActiveByIdOrNull, commits_bind, commits_reads,
      commits_orReject, commits_rejectIf] at h
    obtain ⟨_, _, ⟨-, rfl⟩, _, _, ⟨-, rfl⟩, -, rfl⟩ := h
    rfl

theorem assertCompanyAndBranch_readsOnly (companyId : Uuid) (branchId : Option Uuid) :
    ReadsOnly Db.master (assertCompanyAndBranch companyId branchId) := by
  refine ReadsOnly.bind (readsOnly_reads fun _ _ h => by rw [h]) fun company => ?_
  refine (readsOnly_orReject _ _).bind fun _ => ?_
  cases branchId with
  | none => exact readsOnly_pure _
  | some branchId =>
    refine ReadsOnly.bind (readsOnly_reads fun _ _ h => by rw [h]) fun branch => ?_
    exact (readsOnly_orReject _ _).bind fun _ => readsOnly_rejectIf _ _

theorem findCustomer_readsOnly (id companyId : Uuid) :
    ReadsOnly Db.master (CustomersService.findByIdInCompany id companyId) :=
  readsOnly_lookup (fun m : MasterData => (m.customers.find? id).filter fun c =>
    c.companyId = companyId && !c.deleted) _

theorem findSupplier_readsOnly (id companyId : Uuid) :
    ReadsOnly Db.master (SuppliersService.findByIdInCompany id companyId) :=
  readsOnly_lookup (fun m : MasterData => (m.suppliers.find? id).filter fun s =>
    s.companyId = companyId && !s.deleted) _

theorem findPaymentMethod_readsOnly (id companyId : Uuid) :
    ReadsOnly Db.master (PaymentMethodsService.findByIdInCompany id companyId) :=
  readsOnly_lookup (fun m : MasterData => (m.paymentMethods.find? id).filter fun p =>
    p.companyId = companyId && !p.deleted) _

@[simp] theorem commits_findCustomer (id companyId : Uuid) (db : Db) (c : Customer) (db' : Db) :
    Commits (CustomersService.findByIdInCompany id companyId) db c db' ↔
      (db.master.customers.find? id).filter
        (fun c => c.companyId = companyId && !c.deleted) = some c ∧ db = db' := by
  simp only [CustomersService.findByIdInCompany, commits_lookup]

@[simp] theorem commits_findSupplier (id companyId : Uuid) (db : Db) (s : Supplier) (db' : Db) :
    Commits (SuppliersService.findByIdInCompany id companyId) db s db' ↔
      (db.master.suppliers.find? id).filter
        (fun s => s.companyId = companyId && !s.deleted) = some s ∧ db = db' := by
  simp only [SuppliersService.findByIdInCompany, commits_lookup]

@[simp] theorem commits_findPaymentMethod (id companyId : Uuid) (db : Db) (m : PaymentMethod)
    (db' : Db) :
    Commits (PaymentMethodsService.findByIdInCompany id companyId) db m db' ↔
      (db.master.paymentMethods.find? id).filter
        (fun m => m.companyId = companyId && !m.deleted) = some m ∧ db = db' := by
  simp only [PaymentMethodsService.findByIdInCompany, commits_lookup]

@[simp] theorem commits_findById (id : Uuid) (db : Db) (w : Warehouse) (db' : Db) :
    Commits (WarehousesService.findById id) db w db' ↔
      (db.master.warehouses.find? id).filter (fun w => !w.deleted) = some w ∧ db = db' := by
  simp only [WarehousesService.findById, commits_lookup]

@[simp] theorem commits_assertWarehouseUsable (label : String) (w : Warehouse) (companyId : Uuid)
    (db : Db) (u : Unit) (db' : Db) :
    Commits (assertWarehouseUsable label w companyId) db u db' ↔
      (w.status = .Active ∧ w.companyId = companyId) ∧ db = db' := by
  simp [assertWarehouseUsable, and_assoc]

@[simp] theorem commits_findVariantInCompany (id companyId : Uuid) (db : Db) (v : ProductVariant)
    (db' : Db) :
    Commits (ProductVariantsService.findByIdInCompany id companyId) db v db' ↔
      (db.master.productVariants.find? id).filter
        (fun v => v.companyId = companyId && !v.deleted) = some v ∧ db = db' := by
  simp only [ProductVariantsService.findByIdInCompany, commits_lookup]

end FashionErp
