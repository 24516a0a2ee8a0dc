/-
`PayrollRunsService.calculate`, the part that works a payslip out.

For each active employee of the company it takes the compensation, the assignment and the
components as of the first day of the period, and, when the company's configuration says so,
the days of approved unpaid leave that fall into it.
-/
import FashionErp.Hr.EffectiveDates
import Mathlib.Algebra.Order.Ring.Int
import Mathlib.Data.List.Sort

namespace FashionErp.Payroll

open Lib Lib.Tx Hr
open Hr.EmployeeAssignmentsService (EmployeeAssignment)
open Hr.EmployeeCompensationService (EmployeeCompensation)
open Hr.EmployeePayrollComponentsService (EmployeePayrollComponent)

/-! ## Rows the calculation reads -/

inductive EmployeeStatus
  | Active
  | Inactive
  | Terminated
  deriving DecidableEq

structure Employee extends Hr.Employee where
  employeeCode : String
  displayName : String
  status : EmployeeStatus

inductive PayrollComponentType
  | Earning
  | Deduction
  | EmployerContribution
  deriving DecidableEq

inductive PayrollCalculationType
  | FixedAmount
  | PercentageOfBase

structure PayrollComponent extends Hr.PayrollComponent where
  name : String
  code : String
  type : PayrollComponentType
  calculationType : PayrollCalculationType
  fixedAmount : Option Cents := none
  /-- `DECIMAL(7,4)`, in ten-thousandths. -/
  percentage : Option ℤ := none

instance : Keyed PayrollComponent Uuid := ⟨fun c => c.id⟩

inductive UnpaidLeaveCalculation
  | None
  | DailyRate

structure PayrollConfiguration where
  companyId : Uuid
  unpaidLeaveCalculation : UnpaidLeaveCalculation := .None
  workingDaysPerMonth : Option ℕ := none

structure LeaveType where
  id : Uuid
  isPaid : Bool

instance : Keyed LeaveType Uuid := ⟨LeaveType.id⟩

/-- A `Department` or a `Designation`. -/
structure NamedRow where
  id : Uuid
  name : String

instance : Keyed NamedRow Uuid := ⟨NamedRow.id⟩

/-- What a calculation reads of other modules, without the removed rows. -/
structure PayrollTables where
  configurations : List PayrollConfiguration := []
  employees : List Employee := []
  compensations : List EmployeeCompensation := []
  assignments : List EmployeeAssignment := []
  departments : Table NamedRow := .empty
  designations : Table NamedRow := .empty
  employeeComponents : List EmployeePayrollComponent := []
  components : Table PayrollComponent := .empty
  leaveRequests : List LeaveRequest := []
  leaveTypes : Table LeaveType := .empty

/-- The amounts `Math.round` makes of a quotient. -/
structure Rounding where
  percentageOf : Cents → ℤ → Cents
  /-- `Math.round(baseSalaryCents / workingDaysPerMonth)`. -/
  dailyRate : Cents → ℕ → Cents

/-! ## As of a date -/

/-- `effectiveFrom <= :asOfDate AND (effectiveTo IS NULL OR effectiveTo >= :asOfDate)`. -/
def asOf (asOfDate effectiveFrom : DateOnly) (effectiveTo : Option DateOnly) : Bool :=
  effectiveFrom ≤ asOfDate && effectiveTo.all fun last => asOfDate ≤ last

def findAsOfDate (employeeId : Uuid) (asOfDate : DateOnly) (rows : List EmployeeCompensation) :
    Option EmployeeCompensation :=
  ((rows.filter fun c => c.employeeId = employeeId &&
    asOf asOfDate c.effectiveFrom c.effectiveTo).insertionSort
      fun a b => b.effectiveFrom ≤ a.effectiveFrom).head?

def findAssignment (employeeId : Uuid) (asOfDate : DateOnly) (rows : List EmployeeAssignment) :
    Option EmployeeAssignment :=
  ((rows.filter fun a => a.employeeId = employeeId &&
    asOf asOfDate a.effectiveFrom a.effectiveTo).insertionSort
      fun a b => b.effectiveFrom ≤ a.effectiveFrom).head?

def findAllAsOfDate (employeeId : Uuid) (asOfDate : DateOnly)
    (rows : List EmployeePayrollComponent) : List EmployeePayrollComponent :=
  rows.filter fun a => a.employeeId = employeeId && asOf asOfDate a.effectiveFrom a.effectiveTo

/-! ## One employee -/

/-- An entry of `itemsToCreate`, its amount in cents. -/
structure PayslipItem where
  payrollComponentId : Option Uuid
  componentNameSnapshot : String
  componentCodeSnapshot : String
  type : PayrollComponentType
  calculationTypeSnapshot : PayrollCalculationType
  amount : Cents

structure PayslipColumns where
  employeeId : Uuid
  employeeCodeSnapshot : String
  employeeNameSnapshot : String
  departmentSnapshot : Option String
  designationSnapshot : Option String
  baseSalarySnapshot : Cents
  grossPay : Cents
  totalDeductions : Cents
  netPay : Cents

structure Payslip extends PayslipColumns where
  items : List PayslipItem

def totalOf (type : PayrollComponentType) (items : List PayslipItem) : Cents :=
  ((items.filter (·.type = type)).map (·.amount)).sum

/-- `amountCents` of a component. -/
def componentAmount (rounding : Rounding) (baseSalaryCents : Cents) (component : PayrollComponent)
    (assignment : EmployeePayrollComponent) : Cents :=
  match component.calculationType with
  | .FixedAmount => (assignment.amount.or component.fixedAmount).getD 0
  | .PercentageOfBase =>
    rounding.percentageOf baseSalaryCents ((assignment.percentage.or component.percentage).getD 0)

def componentItem (rounding : Rounding) (tables : PayrollTables) (baseSalaryCents : Cents)
    (assignment : EmployeePayrollComponent) : Except Failure (Option PayslipItem) := do
  let component ← orRefuse (tables.components.find? assignment.payrollComponentId) .entityNotFound
  if component.isActive then
    return some
      { payrollComponentId := some component.id
        componentNameSnapshot := component.name
        componentCodeSnapshot := component.code
        type := component.type
        calculationTypeSnapshot := component.calculationType
        amount := componentAmount rounding baseSalaryCents component assignment }
  else return none

def overlapDays (periodStart periodEnd : DateOnly) (leave : LeaveRequest) : ℤ :=
  let overlapStart := if periodStart ≤ leave.fromDate then leave.fromDate else periodStart
  let overlapEnd := if leave.toDate ≤ periodEnd then leave.toDate else periodEnd
  max (overlapEnd.daysSinceEpoch - overlapStart.daysSinceEpoch + 1) 0

def resolveUnpaidLeaveDays (tables : PayrollTables) (employeeId : Uuid)
    (periodStart periodEnd : DateOnly) : ℤ :=
  ((tables.leaveRequests.filter fun leave => leave.employeeId = employeeId &&
    leave.status = .Approved &&
    (tables.leaveTypes.find? leave.leaveTypeId).any (fun t => !t.isPaid) &&
    leave.fromDate ≤ periodEnd && periodStart ≤ leave.toDate).map
      (overlapDays periodStart periodEnd)).sum

def unpaidLeaveItem (rounding : Rounding) (config : PayrollConfiguration) (unpaidDays : ℤ)
    (baseSalaryCents : Cents) : Option PayslipItem :=
  match config.unpaidLeaveCalculation, config.workingDaysPerMonth with
  | .DailyRate, some workingDays =>
    if 0 < unpaidDays ∧ workingDays ≠ 0 then
      some
        { payrollComponentId := none
          componentNameSnapshot := "Unpaid Leave Deduction"
          componentCodeSnapshot := "UNPAID_LEAVE"
          type := .Deduction
          calculationTypeSnapshot := .FixedAmount
          amount := rounding.dailyRate baseSalaryCents workingDays * unpaidDays }
    else none
  | _, _ => none

def makePayslip (tables : PayrollTables) (asOfDate : DateOnly) (employee : Employee)
    (baseSalaryCents : Cents) (items : List PayslipItem) : Payslip :=
  let assignment := findAssignment employee.id asOfDate tables.assignments
  let earningsCents := totalOf .Earning items
  let deductionsCents := totalOf .Deduction items
  let grossCents := baseSalaryCents + earningsCents
  { employeeId := employee.id
    employeeCodeSnapshot := employee.employeeCode
    employeeNameSnapshot := employee.displayName
    departmentSnapshot :=
      ((assignment.bind (·.departmentId)).bind tables.departments.find?).map (·.name)
    designationSnapshot :=
      ((assignment.bind (·.designationId)).bind tables.designations.find?).map (·.name)
    baseSalarySnapshot := baseSalaryCents
    grossPay := grossCents
    totalDeductions := deductionsCents
    netPay := grossCents - deductionsCents
    items := items }

def calculateEmployee (rounding : Rounding) (tables : PayrollTables) (config : PayrollConfiguration)
    (periodStart periodEnd : DateOnly) (employee : Employee) :
    Except Failure (Option Payslip) := do
  match findAsOfDate employee.id periodStart tables.compensations with
  | none => return none
  | some compensation =>
    let base := compensation.baseSalary
    let items ← (findAllAsOfDate employee.id periodStart tables.employeeComponents).mapM
      (componentItem rounding tables base)
    let unpaidDays := resolveUnpaidLeaveDays tables employee.id periodStart periodEnd
    let leaveItem := unpaidLeaveItem rounding config unpaidDays base
    return some (makePayslip tables periodStart employee base
      (items.filterMap id ++ leaveItem.toList))

def eligible (tables : PayrollTables) (companyId : Uuid) : List Employee :=
  tables.employees.filter fun e => e.companyId = companyId && e.status = .Active

def getRequiredForCalculation (tables : PayrollTables) (companyId : Uuid) :
    Except Failure PayrollConfiguration :=
  orRefuse (tables.configurations.find? (·.companyId = companyId))
    (appException .UnprocessableEntity "Payroll configuration has not been set up for this company")

def calculatePayslips (rounding : Rounding) (tables : PayrollTables) (companyId : Uuid)
    (periodStart periodEnd : DateOnly) : Except Failure (List Payslip) := do
  let config ← getRequiredForCalculation tables companyId
  let payslips ← (eligible tables companyId).mapM
    (calculateEmployee rounding tables config periodStart periodEnd)
  return payslips.filterMap id

/-! ## What a payslip says -/

structure Payslip.AddsUp (payslip : Payslip) : Prop where
  gross : payslip.grossPay = payslip.baseSalarySnapshot + totalOf .Earning payslip.items
  deductions : payslip.totalDeductions = totalOf .Deduction payslip.items
  net : payslip.netPay = payslip.grossPay - payslip.totalDeductions

end FashionErp.Payroll
