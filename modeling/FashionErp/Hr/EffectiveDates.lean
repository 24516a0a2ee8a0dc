/-
`payroll/services/employee-compensation.service.ts`,
`payroll/services/employee-payroll-components.service.ts`,
`payroll/services/employee-shift-assignments.service.ts` and
`hr/services/employee-assignments.service.ts`, as services of dated records.

They differ in their columns and in what they check of other tables; the components are kept
apart for each component of an employee, the others for each employee; and only the
assignments of an employee are updated.
-/
import FashionErp.Core.Entities
import FashionErp.Hr.DatedRecords

namespace FashionErp.Hr

open Lib Lib.Tx DatedRecords
open scoped Chronological

structure PayrollComponent where
  id : Uuid
  companyId : Uuid
  isActive : Bool

instance : Keyed PayrollComponent Uuid := ⟨PayrollComponent.id⟩

/-- A `Shift`, a `Department` or a `Designation`: nothing is read of one but its company. -/
structure CompanyRow where
  id : Uuid
  companyId : Uuid

instance : Keyed CompanyRow Uuid := ⟨CompanyRow.id⟩

structure HrTables where
  employees : Table Employee := .empty
  components : Table PayrollComponent := .empty
  shifts : Table CompanyRow := .empty
  departments : Table CompanyRow := .empty
  designations : Table CompanyRow := .empty
  branches : Table Branch := .empty
  warehouses : Table Warehouse := .empty

def findEmployee (employeeId companyId : Uuid) (tables : HrTables) : Except Failure Employee :=
  orRefuse ((tables.employees.find? employeeId).filter (·.companyId = companyId))
    (appException .ValidationError
      "employeeId does not reference an employee in the specified company")

/-! ## `EmployeeCompensationService` -/

namespace EmployeeCompensationService

inductive PayFrequency
  | Monthly
  deriving DecidableEq

structure EmployeeCompensation where
  id : Uuid
  companyId : Uuid
  employeeId : Uuid
  effectiveFrom : DateOnly
  effectiveTo : Option DateOnly
  baseSalary : Cents
  currency : String
  payFrequency : PayFrequency
  createdBy : Option Uuid
  updatedBy : Option Uuid
  deriving DecidableEq

instance : Keyed EmployeeCompensation Uuid := ⟨EmployeeCompensation.id⟩

/-- What `create` is called with. -/
structure Create where
  employeeId : Uuid
  companyId : Uuid
  userId : Uuid
  effectiveFrom : DateText
  effectiveTo : Option DateText := none
  baseSalary : Cents
  currency : String
  payFrequency : Option PayFrequency := none

def newCompensation (id : Uuid) (dto : Create) : EmployeeCompensation where
  id := id
  companyId := dto.companyId
  employeeId := dto.employeeId
  effectiveFrom := dto.effectiveFrom.day
  effectiveTo := dto.effectiveTo.map (·.day)
  baseSalary := dto.baseSalary
  currency := dto.currency
  payFrequency := dto.payFrequency.getD .Monthly
  createdBy := some dto.userId
  updatedBy := some dto.userId

def service : DatedService EmployeeCompensation Uuid Create Empty HrTables where
  slot := EmployeeCompensation.employeeId
  effectiveFrom := EmployeeCompensation.effectiveFrom
  effectiveTo := EmployeeCompensation.effectiveTo
  overlapText := "Employee compensation dates overlap with an existing record"
  newSlot := Create.employeeId
  newFrom := Create.effectiveFrom
  newTo := Create.effectiveTo
  assertNew dto tables := do
    let _employee ← findEmployee dto.employeeId dto.companyId tables
  newRow := newCompensation
  findRow dto _ := nomatch dto
  nextFrom dto _ := nomatch dto
  nextTo dto _ := nomatch dto
  assertNext dto _ _ := nomatch dto
  applyUpdate dto _ := nomatch dto
  merge _ _ row := row
  newRow_key _ _ := rfl
  newRow_slot _ _ := rfl
  newRow_from _ _ := rfl
  newRow_to _ _ := rfl
  apply_key dto _ := nomatch dto
  apply_slot dto _ := nomatch dto
  apply_from dto _ := nomatch dto
  apply_to dto _ := nomatch dto
  merge_key _ _ _ := rfl
  merge_slot _ _ _ _ := rfl

end EmployeeCompensationService

/-! ## `EmployeePayrollComponentsService` -/

namespace EmployeePayrollComponentsService

structure EmployeePayrollComponent where
  id : Uuid
  employeeId : Uuid
  payrollComponentId : Uuid
  amount : Option Cents
  /-- `DECIMAL(7,4)`, in ten-thousandths. -/
  percentage : Option ℤ
  effectiveFrom : DateOnly
  effectiveTo : Option DateOnly

instance : Keyed EmployeePayrollComponent Uuid := ⟨EmployeePayrollComponent.id⟩

/-- What `create` is called with. -/
structure Create where
  employeeId : Uuid
  companyId : Uuid
  payrollComponentId : Uuid
  amount : Option Cents := none
  percentage : Option ℤ := none
  effectiveFrom : DateText
  effectiveTo : Option DateText := none

def assertNew (dto : Create) (tables : HrTables) : Except Failure Unit := do
  let _employee ← findEmployee dto.employeeId dto.companyId tables
  let component ← orRefuse
    ((tables.components.find? dto.payrollComponentId).filter (·.companyId = dto.companyId))
    (appException .ValidationError
      "payrollComponentId does not reference a payroll component in the specified company")
  refuseIf (component.isActive = false)
    (appException .ValidationError "Cannot assign an inactive payroll component")

def newComponent (id : Uuid) (dto : Create) : EmployeePayrollComponent where
  id := id
  employeeId := dto.employeeId
  payrollComponentId := dto.payrollComponentId
  amount := dto.amount
  percentage := dto.percentage
  effectiveFrom := dto.effectiveFrom.day
  effectiveTo := dto.effectiveTo.map (·.day)

def service : DatedService EmployeePayrollComponent (Uuid × Uuid) Create Empty HrTables where
  slot row := (row.employeeId, row.payrollComponentId)
  effectiveFrom := EmployeePayrollComponent.effectiveFrom
  effectiveTo := EmployeePayrollComponent.effectiveTo
  overlapText := "Employee payroll component dates overlap with an existing assignment"
  newSlot dto := (dto.employeeId, dto.payrollComponentId)
  newFrom := Create.effectiveFrom
  newTo := Create.effectiveTo
  assertNew := assertNew
  newRow := newComponent
  findRow dto _ := nomatch dto
  nextFrom dto _ := nomatch dto
  nextTo dto _ := nomatch dto
  assertNext dto _ _ := nomatch dto
  applyUpdate dto _ := nomatch dto
  merge _ _ row := row
  newRow_key _ _ := rfl
  newRow_slot _ _ := rfl
  newRow_from _ _ := rfl
  newRow_to _ _ := rfl
  apply_key dto _ := nomatch dto
  apply_slot dto _ := nomatch dto
  apply_from dto _ := nomatch dto
  apply_to dto _ := nomatch dto
  merge_key _ _ _ := rfl
  merge_slot _ _ _ _ := rfl

end EmployeePayrollComponentsService

/-! ## `EmployeeShiftAssignmentsService` -/

namespace EmployeeShiftAssignmentsService

structure EmployeeShiftAssignment where
  id : Uuid
  employeeId : Uuid
  shiftId : Uuid
  effectiveFrom : DateOnly
  effectiveTo : Option DateOnly

instance : Keyed EmployeeShiftAssignment Uuid := ⟨EmployeeShiftAssignment.id⟩

/-- What `create` is called with. -/
structure Create where
  employeeId : Uuid
  companyId : Uuid
  shiftId : Uuid
  effectiveFrom : DateText
  effectiveTo : Option DateText := none

def assertNew (dto : Create) (tables : HrTables) : Except Failure Unit := do
  let _employee ← findEmployee dto.employeeId dto.companyId tables
  let _shift ← orRefuse ((tables.shifts.find? dto.shiftId).filter (·.companyId = dto.companyId))
    (appException .ValidationError "shiftId does not reference a shift in the specified company")

def newShiftAssignment (id : Uuid) (dto : Create) : EmployeeShiftAssignment where
  id := id
  employeeId := dto.employeeId
  shiftId := dto.shiftId
  effectiveFrom := dto.effectiveFrom.day
  effectiveTo := dto.effectiveTo.map (·.day)

def service : DatedService EmployeeShiftAssignment Uuid Create Empty HrTables where
  slot := EmployeeShiftAssignment.employeeId
  effectiveFrom := EmployeeShiftAssignment.effectiveFrom
  effectiveTo := EmployeeShiftAssignment.effectiveTo
  overlapText := "Employee shift assignment dates overlap with an existing assignment"
  newSlot := Create.employeeId
  newFrom := Create.effectiveFrom
  newTo := Create.effectiveTo
  assertNew := assertNew
  newRow := newShiftAssignment
  findRow dto _ := nomatch dto
  nextFrom dto _ := nomatch dto
  nextTo dto _ := nomatch dto
  assertNext dto _ _ := nomatch dto
  applyUpdate dto _ := nomatch dto
  merge _ _ row := row
  newRow_key _ _ := rfl
  newRow_slot _ _ := rfl
  newRow_from _ _ := rfl
  newRow_to _ _ := rfl
  apply_key dto _ := nomatch dto
  apply_slot dto _ := nomatch dto
  apply_from dto _ := nomatch dto
  apply_to dto _ := nomatch dto
  merge_key _ _ _ := rfl
  merge_slot _ _ _ _ := rfl

end EmployeeShiftAssignmentsService

/-! ## `EmployeeAssignmentsService` -/

namespace EmployeeAssignmentsService

abbrev EmployeeAssignmentStatus := ActiveStatus

structure EmployeeAssignment where
  id : Uuid
  employeeId : Uuid
  companyId : Uuid
  branchId : Uuid
  departmentId : Option Uuid
  designationId : Option Uuid
  warehouseId : Option Uuid
  effectiveFrom : DateOnly
  effectiveTo : Option DateOnly
  status : EmployeeAssignmentStatus

instance : Keyed EmployeeAssignment Uuid := ⟨EmployeeAssignment.id⟩

structure CreateEmployeeAssignmentDto where
  employeeId : Uuid
  companyId : Uuid
  branchId : Uuid
  departmentId : Option Uuid := none
  designationId : Option Uuid := none
  warehouseId : Option Uuid := none
  effectiveFrom : DateText
  effectiveTo : Option DateText := none

/-- What `update` is called with, besides the id; of a nullable field, `none` is `undefined` and
`some none` is `null`. -/
structure Update where
  companyId : Uuid
  departmentId : Option (Option Uuid) := none
  designationId : Option (Option Uuid) := none
  warehouseId : Option (Option Uuid) := none
  effectiveFrom : Option DateText := none
  effectiveTo : Option (Option DateText) := none
  status : Option EmployeeAssignmentStatus := none

def assertCompanyRow (id : Option Uuid) (rows : Table CompanyRow) (companyId : Uuid)
    (text : String) : Except Failure Unit :=
  match id with
  | none => pure ()
  | some id =>
    refuseIf ((rows.find? id).filter (·.companyId = companyId)).isNone
      (appException .ValidationError text)

def assertWarehouse (warehouseId : Option Uuid) (companyId branchId : Uuid) (tables : HrTables) :
    Except Failure Unit :=
  match warehouseId with
  | none => pure ()
  | some warehouseId => do
    let warehouse ← orRefuse ((tables.warehouses.find? warehouseId).filter fun w =>
        w.companyId = companyId && !w.deleted)
      (appException .ValidationError
        "warehouseId does not reference a warehouse in the specified company")
    refuseIf (warehouse.branchId ≠ branchId)
      (appException .ValidationError "warehouseId does not belong to the specified branchId")

def assertValidRelations (employeeId companyId branchId : Uuid)
    (departmentId designationId warehouseId : Option Uuid) (tables : HrTables) :
    Except Failure Unit := do
  let employee ← findEmployee employeeId companyId tables
  refuseIf (employee.branchId ≠ branchId)
    (appException .ValidationError "branchId must match the employee branch assignment")
  refuseIf ((tables.branches.find? branchId).filter fun b =>
      b.companyId = companyId && !b.deleted).isNone
    (appException .ValidationError "branchId does not reference a branch in the specified company")
  assertCompanyRow departmentId tables.departments companyId
    "departmentId does not reference a department in the specified company"
  assertCompanyRow designationId tables.designations companyId
    "designationId does not reference a designation in the specified company"
  assertWarehouse warehouseId companyId branchId tables

def newAssignment (id : Uuid) (dto : CreateEmployeeAssignmentDto) : EmployeeAssignment where
  id := id
  employeeId := dto.employeeId
  companyId := dto.companyId
  branchId := dto.branchId
  departmentId := dto.departmentId
  designationId := dto.designationId
  warehouseId := dto.warehouseId
  effectiveFrom := dto.effectiveFrom.day
  effectiveTo := dto.effectiveTo.map (·.day)
  status := .Active

/-- `next.effectiveFrom`. -/
def nextFrom (dto : Update) (entity : EmployeeAssignment) : DateText :=
  dto.effectiveFrom.getD (dateText entity.effectiveFrom)

/-- `next.effectiveTo`. -/
def nextTo (dto : Update) (entity : EmployeeAssignment) : Option DateText :=
  dto.effectiveTo.getD (entity.effectiveTo.map dateText)

/-- The entity `update` saves. -/
def applyUpdate (dto : Update) (entity : EmployeeAssignment) : EmployeeAssignment :=
  { entity with
    departmentId := dto.departmentId.getD entity.departmentId
    designationId := dto.designationId.getD entity.designationId
    warehouseId := dto.warehouseId.getD entity.warehouseId
    effectiveFrom := (nextFrom dto entity).day
    effectiveTo := (nextTo dto entity).map (·.day)
    status := dto.status.getD entity.status }

def mergeAssignment (entity seen row : EmployeeAssignment) : EmployeeAssignment where
  id := row.id
  employeeId := mergeCol entity.employeeId seen.employeeId row.employeeId
  companyId := mergeCol entity.companyId seen.companyId row.companyId
  branchId := mergeCol entity.branchId seen.branchId row.branchId
  departmentId := mergeCol entity.departmentId seen.departmentId row.departmentId
  designationId := mergeCol entity.designationId seen.designationId row.designationId
  warehouseId := mergeCol entity.warehouseId seen.warehouseId row.warehouseId
  effectiveFrom := mergeCol entity.effectiveFrom seen.effectiveFrom row.effectiveFrom
  effectiveTo := mergeCol entity.effectiveTo seen.effectiveTo row.effectiveTo
  status := mergeCol entity.status seen.status row.status

def service : DatedService EmployeeAssignment Uuid CreateEmployeeAssignmentDto Update HrTables where
  slot := EmployeeAssignment.employeeId
  effectiveFrom := EmployeeAssignment.effectiveFrom
  effectiveTo := EmployeeAssignment.effectiveTo
  overlapText := "Employee assignment dates overlap with an existing assignment"
  newSlot := CreateEmployeeAssignmentDto.employeeId
  newFrom := CreateEmployeeAssignmentDto.effectiveFrom
  newTo := CreateEmployeeAssignmentDto.effectiveTo
  assertNew dto tables := assertValidRelations dto.employeeId dto.companyId dto.branchId
    dto.departmentId dto.designationId dto.warehouseId tables
  newRow := newAssignment
  findRow dto entity := refuseIf (entity.companyId ≠ dto.companyId)
    (appException .NotFound "Employee assignment not found")
  nextFrom := nextFrom
  nextTo := nextTo
  assertNext dto entity tables := assertValidRelations entity.employeeId entity.companyId
    entity.branchId (dto.departmentId.getD entity.departmentId)
    (dto.designationId.getD entity.designationId) (dto.warehouseId.getD entity.warehouseId) tables
  applyUpdate := applyUpdate
  merge := mergeAssignment
  newRow_key _ _ := rfl
  newRow_slot _ _ := rfl
  newRow_from _ _ := rfl
  newRow_to _ _ := rfl
  apply_key _ _ := rfl
  apply_slot _ _ := rfl
  apply_from _ _ := rfl
  apply_to _ _ := rfl
  merge_key _ _ _ := rfl
  merge_slot _ _ _ h := mergeCol_of_eq h _

end EmployeeAssignmentsService

/-! ## The four of them -/

def NeverOverlap {ρ κ γ δ β : Type} [Keyed ρ Uuid] [DecidableEq κ] (service : DatedService ρ κ γ δ β)
    (call : ℕ → Call γ δ) (db : DatedDb ρ β) (ls : List (ℕ × Label)) : Prop :=
  ∀ ks, ks <+: ls → ∀ s', (machine service call).Run (.start db .called) ks s' →
    service.OneRecord s'.db

def NeverOverlapIff {ρ κ γ δ β : Type} [Keyed ρ Uuid] [DecidableEq κ]
    (service : DatedService ρ κ γ δ β) (ls : List (ℕ × Label)) : Prop :=
  ∀ call db s, Good service db → (machine service call).Run (.start db .called) ls s →
    (NeverOverlap service call db ls ↔
      (machine service call).RunWith (Respects service call) (.start db .called) ls s)

/-- Dated records do not overlap, be they compensations, components, shifts or assignments,
in a run of any creations and updates, exactly when the days of each write are in order and
whatever record of its slot it meets was in the snapshot its request has checked, for these
days. -/
theorem never_overlap_iff (ls : List (ℕ × Label)) :
    NeverOverlapIff EmployeeCompensationService.service ls ∧
      NeverOverlapIff EmployeePayrollComponentsService.service ls ∧
      NeverOverlapIff EmployeeShiftAssignmentsService.service ls ∧
      NeverOverlapIff EmployeeAssignmentsService.service ls :=
  ⟨fun call _ _ hdb hrun => oneRecord_run_iff _ call hdb hrun,
    fun call _ _ hdb hrun => oneRecord_run_iff _ call hdb hrun,
    fun call _ _ hdb hrun => oneRecord_run_iff _ call hdb hrun,
    fun call _ _ hdb hrun => oneRecord_run_iff _ call hdb hrun⟩

/-! Two salaries of one employee, both without an end. -/

namespace CompensationDemo

open EmployeeCompensationService

def db : DatedDb EmployeeCompensation HrTables :=
  { base := { employees := .ofRows [{ id := 1, userId := some 7, companyId := 10, branchId := 20 }] }
    nextId := 100 }

def salaryFrom (effectiveFrom : DateOnly) (baseSalary : Cents) : Create :=
  { employeeId := 1, companyId := 10, userId := 8, baseSalary, currency := "USD"
    effectiveFrom := dateText effectiveFrom }

def calls : ℕ → Call Create Empty
  | 0 => .create (salaryFrom ⟨2026, 1, 1⟩ 300000)
  | _ => .create (salaryFrom ⟨2026, 3, 1⟩ 320000)

def inTurn : List (ℕ × Label) := [(0, .check), (0, .commit), (1, .check)]

def atOnce : List (ℕ × Label) := [(0, .check), (1, .check), (0, .commit), (1, .commit)]

def inApril (s : Shared (DatedDb EmployeeCompensation HrTables) Uuid (Phase EmployeeCompensation)) :
    ℕ :=
  s.db.rows.rows.countP fun row => (1, ⟨2026, 4, 15⟩) ∈ service.occupies row

theorem good_db : Good service db :=
  ⟨fun _ h => (List.not_mem_nil h).elim, Table.apart_empty _, fun _ h => (List.not_mem_nil h).elim⟩

end CompensationDemo

open CompensationDemo EmployeeCompensationService in
/-- One after the other: the second salary is refused. -/
theorem never_overlap_iff_in_turn : ∃ s, inApril s = 1 ∧ NeverOverlap service calls db inTurn := by
  obtain ⟨s, hrun, hs⟩ := Machine.exists_runWith (machine service calls) (Respects service calls)
    (.start db .called) inTurn (fun s => inApril s = 1) (by decide +kernel)
  exact ⟨s, of_decide_eq_true hs,
    ((never_overlap_iff inTurn).1 calls db s good_db hrun.run).2 hrun⟩

open CompensationDemo EmployeeCompensationService in
theorem two_salaries :
    ∃ s, (machine service calls).Run (.start db .called) atOnce s ∧ inApril s = 2 ∧
      ¬ NeverOverlap service calls db atOnce := by
  obtain ⟨s, hrun, hs⟩ := Machine.exists_runWith (machine service calls) (fun _ _ => True)
    (.start db .called) atOnce (fun s => inApril s = 2) (by decide +kernel)
  have htwo := of_decide_eq_true hs
  refine ⟨s, hrun, htwo, fun hnever => ?_⟩
  have hle : inApril s ≤ 1 := (hnever atOnce (List.prefix_refl _) s hrun).asOf (1, ⟨2026, 4, 15⟩)
  omega

end FashionErp.Hr
