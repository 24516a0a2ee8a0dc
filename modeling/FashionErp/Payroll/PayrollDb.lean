/-
The tables of the payroll module that its requests write: periods, runs, payslips with their
items, and the counters of the two document numbers.

A period has one active run at a time, one that is not cancelled.
-/
import FashionErp.Payroll.Payslips

namespace FashionErp.Payroll

open Lib Lib.Tx Hr

/-! ## Rows -/

inductive PayrollPeriodStatus
  | Open
  | Processing
  | Finalized
  | Cancelled
  deriving DecidableEq

def PayrollPeriodStatus.text : PayrollPeriodStatus → String
  | Open => "OPEN"
  | Processing => "PROCESSING"
  | Finalized => "FINALIZED"
  | Cancelled => "CANCELLED"

structure PayrollPeriod where
  id : Uuid
  companyId : Uuid
  periodNumber : String
  name : String
  startDate : DateOnly
  endDate : DateOnly
  payDate : DateOnly
  status : PayrollPeriodStatus
  createdBy : Uuid
  updatedBy : Option Uuid

instance : Keyed PayrollPeriod Uuid := ⟨PayrollPeriod.id⟩

inductive PayrollRunStatus
  | Draft
  | Processing
  | Calculated
  | Finalized
  | Cancelled
  deriving DecidableEq

def PayrollRunStatus.text : PayrollRunStatus → String
  | Draft => "DRAFT"
  | Processing => "PROCESSING"
  | Calculated => "CALCULATED"
  | Finalized => "FINALIZED"
  | Cancelled => "CANCELLED"

structure PayrollRun where
  id : Uuid
  companyId : Uuid
  payrollPeriodId : Uuid
  runNumber : String
  status : PayrollRunStatus
  employeeCount : ℕ := 0
  totalGrossPay : Cents := 0
  totalDeductions : Cents := 0
  totalNetPay : Cents := 0
  startedAt : Option Instant := none
  completedAt : Option Instant := none
  finalizedAt : Option Instant := none
  createdBy : Uuid
  finalizedBy : Option Uuid := none

instance : Keyed PayrollRun Uuid := ⟨PayrollRun.id⟩

inductive PayrollRunEmployeeStatus
  | Calculated
  | Finalized

structure PayrollRunEmployee extends PayslipColumns where
  id : Uuid
  payrollRunId : Uuid
  status : PayrollRunEmployeeStatus

instance : Keyed PayrollRunEmployee Uuid := ⟨fun p => p.id⟩

structure PayrollRunEmployeeItem extends PayslipItem where
  id : Uuid
  payrollRunEmployeeId : Uuid

/-- A row of `company_payroll_period_counters` or `company_payroll_run_counters`. -/
structure PayrollCounter where
  companyId : Uuid
  year : ℕ
  lastSequence : ℕ

instance : Keyed PayrollCounter (Uuid × ℕ) := ⟨fun c => (c.companyId, c.year)⟩

structure PayrollDb where
  companies : Table Company := .empty
  periods : Table PayrollPeriod := .empty
  runs : Table PayrollRun := .empty
  payslips : Table PayrollRunEmployee := .empty
  items : List PayrollRunEmployeeItem := []
  periodCounters : Table PayrollCounter := .empty
  runCounters : Table PayrollCounter := .empty
  nextId : Uuid := 0

abbrev PayrollTx := Tx PayrollDb Failure

/-! ## Reads and writes -/

namespace PayrollDb

def savePeriod (db : PayrollDb) (period : PayrollPeriod) : PayrollDb :=
  { db with periods := db.periods.save period }

def saveRun (db : PayrollDb) (run : PayrollRun) : PayrollDb :=
  { db with runs := db.runs.save run }

def runsOf (db : PayrollDb) (periodId : Uuid) : List PayrollRun :=
  db.runs.rows.filter (·.payrollPeriodId = periodId)

/-- `findOne(PayrollRun, { where: { payrollPeriodId } })`, which orders nothing: some run of the
period, `scan` says which. -/
def findOneRun (db : PayrollDb) (periodId : Uuid) (scan : ℕ) : Option PayrollRun :=
  (db.runsOf periodId)[scan % (db.runsOf periodId).length]?

def payslipsOf (db : PayrollDb) (runId : Uuid) : List PayrollRunEmployee :=
  db.payslips.rows.filter (·.payrollRunId = runId)

def itemsOf (db : PayrollDb) (payslipId : Uuid) : List PayrollRunEmployeeItem :=
  db.items.filter (·.payrollRunEmployeeId = payslipId)

def insertPayslip (runId : Uuid) (db : PayrollDb) (payslip : Payslip) : PayrollDb :=
  { db with
    payslips := db.payslips.save
      { toPayslipColumns := payslip.toPayslipColumns
        id := db.nextId
        payrollRunId := runId
        status := .Calculated }
    items := db.items ++ payslip.items.mapIdx fun i item =>
      { toPayslipItem := item, id := db.nextId + 1 + i, payrollRunEmployeeId := db.nextId }
    nextId := db.nextId + 1 + payslip.items.length }

/-- `update(PayrollRunEmployee, { payrollRunId }, { status: FINALIZED })`. -/
def finalizePayslips (db : PayrollDb) (runId : Uuid) : PayrollDb :=
  { db with
    payslips := db.payslips.mapRows
      (fun p => if p.payrollRunId = runId then { p with status := .Finalized } else p)
      fun p => by split <;> rfl }

@[simp] theorem saveRun_runs (db : PayrollDb) (run : PayrollRun) :
    (db.saveRun run).runs = db.runs.save run := rfl

@[simp] theorem saveRun_periods (db : PayrollDb) (run : PayrollRun) :
    (db.saveRun run).periods = db.periods := rfl

theorem nextId_lt_insertPayslip (runId : Uuid) (db : PayrollDb) (payslip : Payslip) :
    db.nextId < (db.insertPayslip runId payslip).nextId :=
  Nat.lt_of_lt_of_le (Nat.lt_succ_self _) (Nat.le_add_right _ _)

theorem insertPayslips_runs (runId : Uuid) (payslips : List Payslip) (db : PayrollDb) :
    (payslips.foldl (insertPayslip runId) db).runs = db.runs := by
  induction payslips generalizing db with
  | nil => rfl
  | cons payslip payslips ih => exact ih _

theorem insertPayslips_periods (runId : Uuid) (payslips : List Payslip) (db : PayrollDb) :
    (payslips.foldl (insertPayslip runId) db).periods = db.periods := by
  induction payslips generalizing db with
  | nil => rfl
  | cons payslip payslips ih => exact ih _

theorem mem_of_findOneRun {db : PayrollDb} {periodId : Uuid} {scan : ℕ} {run : PayrollRun}
    (h : db.findOneRun periodId scan = some run) :
    run ∈ db.runs.rows ∧ run.payrollPeriodId = periodId := by
  simpa [runsOf] using List.mem_of_getElem? h

theorem findOneRun_isSome {db : PayrollDb} {periodId : Uuid} {run : PayrollRun} (scan : ℕ)
    (hrun : run ∈ db.runs.rows) (hperiod : run.payrollPeriodId = periodId) :
    (db.findOneRun periodId scan).isSome := by
  have hmem : run ∈ db.runsOf periodId := by
    simp [runsOf, hrun, hperiod]
  rw [findOneRun, Option.isSome_iff_ne_none, ne_eq, List.getElem?_eq_none_iff, not_le]
  exact Nat.mod_lt _ (List.length_pos_of_mem hmem)

end PayrollDb

/-! ## The active run of a period -/

/-- `active` is the run of the period that is not cancelled, and there is no other. -/
def Active (runs : Table PayrollRun) (periodId : Uuid) (active : Option PayrollRun) : Prop :=
  ∀ run, active = some run ↔
    run ∈ runs.rows ∧ run.payrollPeriodId = periodId ∧ run.status ≠ .Cancelled

section

variable {runs : Table PayrollRun} {periodId : Uuid} {active : Option PayrollRun} {run : PayrollRun}

theorem Active.save_other (h : Active runs periodId active)
    (hold : ∀ old, runs.find? run.id = some old → old.payrollPeriodId = run.payrollPeriodId)
    (hother : run.payrollPeriodId ≠ periodId) : Active (runs.save run) periodId active := by
  intro x
  rw [h x, Table.mem_save]
  constructor
  · rintro ⟨hx, hperiod, hlive⟩
    refine ⟨.inr ⟨hx, fun hkey => hother ?_⟩, hperiod, hlive⟩
    have hfound : runs.find? run.id = some x := by
      rw [show run.id = key x from hkey.symm]
      exact (Table.mem_rows_iff runs x).1 hx
    rw [← hperiod]
    exact (hold x hfound).symm
  · rintro ⟨rfl | ⟨hx, -⟩, hperiod, hlive⟩
    · exact absurd hperiod hother
    · exact ⟨hx, hperiod, hlive⟩

theorem Active.save (h : Active runs periodId active)
    (hperiod : run.payrollPeriodId = periodId) (hplace : ∀ old ∈ active, old.id = run.id) :
    Active (runs.save run) periodId (if run.status = .Cancelled then none else some run) := by
  intro x
  have hmem : x ∈ (runs.save run).rows ∧ x.payrollPeriodId = periodId ∧ x.status ≠ .Cancelled ↔
      x = run ∧ run.status ≠ .Cancelled := by
    rw [Table.mem_save]
    constructor
    · rintro ⟨rfl | ⟨hx, hne⟩, hx', hlive⟩
      · exact ⟨rfl, hlive⟩
      · exact absurd (hplace x ((h x).2 ⟨hx, hx', hlive⟩)) hne
    · rintro ⟨rfl, hlive⟩
      exact ⟨.inl rfl, hperiod, hlive⟩
  rw [hmem]
  by_cases hcancelled : run.status = .Cancelled
  · simp [hcancelled]
  · simp [hcancelled, eq_comm]

theorem Active.unique (h : Active runs periodId active)
    (hrun : run ∈ runs.rows) (hperiod : run.payrollPeriodId = periodId)
    (hlive : run.status ≠ .Cancelled) : active = some run :=
  (h run).2 ⟨hrun, hperiod, hlive⟩

end

end FashionErp.Payroll
