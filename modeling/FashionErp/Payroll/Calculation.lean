/-
`PayrollRunsService.calculate`, sum by sum.

The items of a payslip, its earnings and deductions, and the totals of the run are variables of
their own, added to in nested loops that also save the rows.
-/
import FashionErp.Payroll.PayrollRuns

namespace FashionErp.Payroll

open Lib Lib.Tx Hr
open Hr.EmployeePayrollComponentsService (EmployeePayrollComponent)

/-! ## The loops -/

/-- What the loop over the components of an employee builds. -/
structure Tally where
  itemsToCreate : List PayslipItem := []
  earningsCents : Cents := 0
  deductionsCents : Cents := 0

def Tally.push (tally : Tally) (item : PayslipItem) : Tally where
  itemsToCreate := tally.itemsToCreate ++ [item]
  earningsCents :=
    if item.type = .Earning then tally.earningsCents + item.amount else tally.earningsCents
  deductionsCents :=
    if item.type = .Deduction then tally.deductionsCents + item.amount else tally.deductionsCents

def tallyComponent (rounding : Rounding) (tables : PayrollTables) (baseSalaryCents : Cents)
    (tally : Tally) (assignment : EmployeePayrollComponent) : Except Failure Tally := do
  match ← componentItem rounding tables baseSalaryCents assignment with
  | some item => return tally.push item
  | none => return tally

def tallyComponents (rounding : Rounding) (tables : PayrollTables) (baseSalaryCents : Cents)
    (componentAssignments : List EmployeePayrollComponent) : Except Failure Tally :=
  componentAssignments.foldlM (tallyComponent rounding tables baseSalaryCents) {}

structure Totals where
  totalGrossCents : Cents := 0
  totalDeductionsCents : Cents := 0
  totalNetCents : Cents := 0

def Totals.add (totals : Totals) (payslip : Payslip) : Totals where
  totalGrossCents := totals.totalGrossCents + payslip.grossPay
  totalDeductionsCents := totals.totalDeductionsCents + payslip.totalDeductions
  totalNetCents := totals.totalNetCents + payslip.netPay

def Tally.payslip (tally : Tally) (tables : PayrollTables) (asOfDate : DateOnly)
    (employee : Employee) (baseSalaryCents : Cents) : Payslip :=
  let assignment := findAssignment employee.id asOfDate tables.assignments
  let grossCents := baseSalaryCents + tally.earningsCents
  { employeeId := employee.id
    employeeCodeSnapshot := employee.employeeCode
    employeeNameSnapshot := employee.displayName
    departmentSnapshot :=
      ((assignment.bind (·.departmentId)).bind tables.departments.find?).map (·.name)
    designationSnapshot :=
      ((assignment.bind (·.designationId)).bind tables.designations.find?).map (·.name)
    baseSalarySnapshot := baseSalaryCents
    grossPay := grossCents
    totalDeductions := tally.deductionsCents
    netPay := grossCents - tally.deductionsCents
    items := tally.itemsToCreate }

section Loops

variable (rounding : Rounding) (tables : PayrollTables)

def payEmployee (config : PayrollConfiguration) (runId : Uuid) (period : PayrollPeriod)
    (totals : Totals) (employee : Employee) : PayrollTx Totals := do
  match findAsOfDate employee.id period.startDate tables.compensations with
  | none => return totals
  | some compensation =>
    let baseSalaryCents := compensation.baseSalary
    let tally ← tallyComponents rounding tables baseSalaryCents
      (findAllAsOfDate employee.id period.startDate tables.employeeComponents)
    let unpaidDays := resolveUnpaidLeaveDays tables employee.id period.startDate period.endDate
    let tally := match unpaidLeaveItem rounding config unpaidDays baseSalaryCents with
      | some item => tally.push item
      | none => tally
    let payslip := tally.payslip tables period.startDate employee baseSalaryCents
    modify fun db => db.insertPayslip runId payslip
    return totals.add payslip

/-- `calculate`. -/
def calculateLoop (id companyId : Uuid) (startedAt completedAt : Instant) :
    PayrollTx PayrollRun := do
  let run ← PayrollRunsService.findRun "calculate" [.Draft] id companyId
  let run := { run with status := .Processing, startedAt := some startedAt }
  modify fun db => db.saveRun run
  let period ← reads fun db => db.periods.find? run.payrollPeriodId
  let period ← orReject period .entityNotFound
  let _period ← PayrollPeriodsService.markProcessing period.id
  let config ← getRequiredForCalculation tables companyId
  let totals ← (eligible tables companyId).foldlM
    (payEmployee rounding tables config run.id period) ({} : Totals)
  let employeeCount ← reads fun db => (db.payslipsOf run.id).length
  let run :=
    { run with
      status := .Calculated
      employeeCount := employeeCount
      totalGrossPay := totals.totalGrossCents
      totalDeductions := totals.totalDeductionsCents
      totalNetPay := totals.totalNetCents
      completedAt := some completedAt }
  modify fun db => db.saveRun run
  return run

end Loops

/-! ## What the loops add up -/

theorem totalOf_cons (type : PayrollComponentType) (item : PayslipItem) (items : List PayslipItem) :
    totalOf type (item :: items) =
      (if item.type = type then item.amount else 0) + totalOf type items := by
  unfold totalOf
  by_cases htype : item.type = type
  · rw [List.filter_cons_of_pos (by simpa using htype), if_pos htype, List.map_cons, List.sum_cons]
  · rw [List.filter_cons_of_neg (by simpa using htype), if_neg htype, zero_add]

theorem foldl_push (items : List PayslipItem) (tally : Tally) :
    items.foldl Tally.push tally =
      { itemsToCreate := tally.itemsToCreate ++ items
        earningsCents := tally.earningsCents + totalOf .Earning items
        deductionsCents := tally.deductionsCents + totalOf .Deduction items } := by
  induction items generalizing tally with
  | nil =>
    simp [totalOf]
  | cons item items ih =>
    rw [List.foldl_cons, ih, totalOf_cons, totalOf_cons]
    unfold Tally.push
    dsimp only
    rw [List.append_assoc, List.singleton_append]
    congr 1
    · split
      · rw [add_assoc]
      · rw [zero_add]
    · split
      · rw [add_assoc]
      · rw [zero_add]

theorem foldl_add (payslips : List Payslip) (totals : Totals) :
    payslips.foldl Totals.add totals =
      { totalGrossCents := totals.totalGrossCents + (payslips.map (·.grossPay)).sum
        totalDeductionsCents := totals.totalDeductionsCents + (payslips.map (·.totalDeductions)).sum
        totalNetCents := totals.totalNetCents + (payslips.map (·.netPay)).sum } := by
  induction payslips generalizing totals with
  | nil => simp
  | cons payslip payslips ih =>
    rw [List.foldl_cons, ih]
    unfold Totals.add
    simp only [List.map_cons, List.sum_cons, add_assoc]

theorem tallyComponents_eq_ok {rounding : Rounding} {tables : PayrollTables} {base : Cents}
    {components : List EmployeePayrollComponent} {tally tally' : Tally} :
    components.foldlM (tallyComponent rounding tables base) tally = .ok tally' ↔
      ∃ items, components.mapM (componentItem rounding tables base) = .ok items ∧
        tally' = (items.filterMap id).foldl Tally.push tally := by
  induction components generalizing tally with
  | nil =>
    simp only [List.foldlM_nil, List.mapM_nil]
    constructor
    · rintro h
      exact ⟨[], rfl, (Except.ok.inj h).symm⟩
    · rintro ⟨items, hitems, rfl⟩
      cases hitems
      rfl
  | cons component components ih =>
    rw [List.foldlM_cons, List.mapM_cons]
    unfold tallyComponent
    cases hitem : componentItem rounding tables base component with
    | error e =>
      constructor
      · intro h
        cases h
      · rintro ⟨_, h, -⟩
        cases h
    | ok item =>
      have hstep : ∀ next : Tally, (components.foldlM (tallyComponent rounding tables base) next =
          .ok tally' ↔ ∃ items, components.mapM (componentItem rounding tables base) = .ok items ∧
            tally' = (items.filterMap id).foldl Tally.push next) := fun next => ih
      have hmap : ∀ items, (do
          let found ← (.ok item : Except Failure (Option PayslipItem))
          let rest ← components.mapM (componentItem rounding tables base)
          pure (found :: rest)) = .ok items ↔ ∃ rest,
            components.mapM (componentItem rounding tables base) = .ok rest ∧ items = item :: rest := by
        intro items
        cases components.mapM (componentItem rounding tables base) with
        | error e =>
          constructor
          · intro h
            cases h
          · rintro ⟨_, h, -⟩
            cases h
        | ok rest =>
          constructor
          · intro h
            exact ⟨rest, rfl, (Except.ok.inj h).symm⟩
          · rintro ⟨_, h, rfl⟩
            rw [Except.ok.inj h]
            rfl
      cases item with
      | none =>
        refine (hstep tally).trans ?_
        constructor
        · rintro ⟨rest, hrest, rfl⟩
          exact ⟨none :: rest, (hmap _).2 ⟨rest, hrest, rfl⟩, rfl⟩
        · rintro ⟨items, hitems, rfl⟩
          obtain ⟨rest, hrest, rfl⟩ := (hmap _).1 hitems
          exact ⟨rest, hrest, rfl⟩
      | some item =>
        refine (hstep (tally.push item)).trans ?_
        constructor
        · rintro ⟨rest, hrest, rfl⟩
          exact ⟨some item :: rest, (hmap _).2 ⟨rest, hrest, rfl⟩, rfl⟩
        · rintro ⟨items, hitems, rfl⟩
          obtain ⟨rest, hrest, rfl⟩ := (hmap _).1 hitems
          exact ⟨rest, hrest, rfl⟩

theorem payslip_foldl (tables : PayrollTables) (asOfDate : DateOnly) (employee : Employee)
    (base : Cents) (items : List PayslipItem) :
    (items.foldl Tally.push {}).payslip tables asOfDate employee base =
      makePayslip tables asOfDate employee base items := by
  rw [foldl_push]
  unfold Tally.payslip makePayslip
  simp only [List.nil_append, zero_add]

theorem filterMap_cons_id {α : Type} (first : Option α) (rest : List (Option α)) :
    (first :: rest).filterMap id = first.toList ++ rest.filterMap id := by
  cases first with
  | none => rfl
  | some a => rfl

section Loops

variable {rounding : Rounding} {tables : PayrollTables} {config : PayrollConfiguration}
  {runId : Uuid} {period : PayrollPeriod}

variable {db db' : PayrollDb}

theorem commits_payEmployee {totals totals' : Totals} {employee : Employee} :
    Commits (payEmployee rounding tables config runId period totals employee) db totals' db' ↔
      ∃ found, calculateEmployee rounding tables config period.startDate period.endDate employee =
          .ok found ∧ totals' = found.toList.foldl Totals.add totals ∧
        db' = found.toList.foldl (PayrollDb.insertPayslip runId) db := by
  unfold payEmployee calculateEmployee
  cases findAsOfDate employee.id period.startDate tables.compensations with
  | none =>
    dsimp only
    rw [commits_pure]
    constructor
    · rintro ⟨rfl, rfl⟩
      exact ⟨none, rfl, rfl, rfl⟩
    · rintro ⟨found, hfound, rfl, rfl⟩
      cases hfound
      exact ⟨rfl, rfl⟩
  | some compensation =>
    dsimp only
    generalize compensation.baseSalary = base
    generalize findAllAsOfDate employee.id period.startDate tables.employeeComponents = components
    generalize unpaidLeaveItem rounding config
      (resolveUnpaidLeaveDays tables employee.id period.startDate period.endDate) base = leaveItem
    simp only [commits_bind, commits_liftM, commits_modify, commits_pure]
    unfold tallyComponents
    -- The tally with the leave in it is that of all the items.
    have hleave : ∀ items : List (Option PayslipItem),
        (match leaveItem with
          | some item => ((items.filterMap id).foldl Tally.push {}).push item
          | none => (items.filterMap id).foldl Tally.push {}) =
        (items.filterMap id ++ leaveItem.toList).foldl Tally.push {} := by
      intro items
      rw [List.foldl_append]
      cases leaveItem with
      | none => rfl
      | some item => rfl
    constructor
    · rintro ⟨tally, _, ⟨htally, rfl⟩, _, _, rfl, rfl, rfl⟩
      obtain ⟨items, hitems, rfl⟩ := tallyComponents_eq_ok.1 htally
      rw [hleave, payslip_foldl, hitems]
      exact ⟨some (makePayslip tables period.startDate employee base
        (items.filterMap id ++ leaveItem.toList)), rfl, rfl, rfl⟩
    · rintro ⟨found, hfound, rfl, rfl⟩
      obtain ⟨items, hitems, hfound⟩ := except_bind_eq_ok.1 hfound
      cases hfound
      refine ⟨_, db, ⟨tallyComponents_eq_ok.2 ⟨items, hitems, rfl⟩, rfl⟩, ?_⟩
      rw [hleave, payslip_foldl]
      exact ⟨(), _, rfl, rfl, rfl⟩

theorem commits_payEmployees {employees : List Employee} {totals totals' : Totals} :
    Commits (employees.foldlM (payEmployee rounding tables config runId period) totals) db totals'
        db' ↔
      ∃ found, employees.mapM (calculateEmployee rounding tables config period.startDate
          period.endDate) = .ok found ∧
        totals' = (found.filterMap id).foldl Totals.add totals ∧
        db' = (found.filterMap id).foldl (PayrollDb.insertPayslip runId) db := by
  induction employees generalizing totals db with
  | nil =>
    rw [commits_foldlM_nil, List.mapM_nil]
    constructor
    · rintro ⟨rfl, rfl⟩
      exact ⟨[], rfl, rfl, rfl⟩
    · rintro ⟨found, hfound, rfl, rfl⟩
      cases hfound
      exact ⟨rfl, rfl⟩
  | cons employee employees ih =>
    rw [commits_foldlM_cons]
    constructor
    · rintro ⟨totals₁, db₁, hpay, hpayRest⟩
      obtain ⟨first, hfirst, rfl, rfl⟩ := commits_payEmployee.1 hpay
      obtain ⟨rest, hrest, rfl, rfl⟩ := ih.1 hpayRest
      refine ⟨first :: rest, ?_, ?_, ?_⟩
      · rw [List.mapM_cons, hfirst, hrest]
        rfl
      · rw [filterMap_cons_id, List.foldl_append]
      · rw [filterMap_cons_id, List.foldl_append]
    · rintro ⟨found, hfound, rfl, rfl⟩
      rw [List.mapM_cons] at hfound
      obtain ⟨first, hfirst, hfound⟩ := except_bind_eq_ok.1 hfound
      obtain ⟨rest, hrest, hfound⟩ := except_bind_eq_ok.1 hfound
      cases hfound
      refine ⟨_, _, commits_payEmployee.2 ⟨first, hfirst, rfl, rfl⟩, ih.2 ⟨rest, hrest, ?_, ?_⟩⟩
      · rw [filterMap_cons_id, List.foldl_append]
      · rw [filterMap_cons_id, List.foldl_append]

theorem commits_calculateLoop {companyId : Uuid} {startedAt completedAt : Instant}
    {run : PayrollRun} :
    Commits (calculateLoop rounding tables runId companyId startedAt completedAt) db run db' ↔
      Commits (PayrollRunsService.calculate rounding runId companyId tables startedAt completedAt) db
        run db' := by
  have hpayslips : ∀ (start last : DateOnly) (payslips : List Payslip),
      calculatePayslips rounding tables companyId start last = .ok payslips ↔
        ∃ config found, getRequiredForCalculation tables companyId = .ok config ∧
          (eligible tables companyId).mapM (calculateEmployee rounding tables config start last) =
            .ok found ∧ payslips = found.filterMap id := by
    intro start last payslips
    unfold calculatePayslips
    constructor
    · intro h
      obtain ⟨config, hconfig, h⟩ := except_bind_eq_ok.1 h
      obtain ⟨found, hfound, h⟩ := except_bind_eq_ok.1 h
      exact ⟨config, found, hconfig, hfound, (Except.ok.inj h).symm⟩
    · rintro ⟨config, found, hconfig, hfound, rfl⟩
      rw [hconfig]
      show (eligible tables companyId).mapM (calculateEmployee rounding tables config start last) >>= _
        = _
      rw [hfound]
      rfl
  unfold calculateLoop PayrollRunsService.calculate
  simp only [commits_bind, commits_reads, commits_orReject, commits_liftM, commits_modify,
    commits_pure, commits_payEmployees]
  constructor
  · rintro ⟨run₀, _, hfind, _, _, rfl, _, _, ⟨rfl, rfl⟩, period, _, ⟨hperiod, rfl⟩, marked, db₁, hmark,
      config, _, ⟨hconfig, rfl⟩, totals, _, ⟨found, hfound, rfl, rfl⟩, _, _, ⟨rfl, rfl⟩, _, _, rfl,
      rfl, rfl⟩
    rw [foldl_add]
    simp only [zero_add]
    exact ⟨run₀, _, hfind, (), _, rfl, _, _, ⟨rfl, rfl⟩, period, _, ⟨hperiod, rfl⟩, marked, db₁, hmark,
      found.filterMap id, db₁, ⟨(hpayslips _ _ _).2 ⟨config, found, hconfig, hfound, rfl⟩, rfl⟩, (), _,
      rfl, _, _, ⟨rfl, rfl⟩, (), _, rfl, rfl, rfl⟩
  · rintro ⟨run₀, _, hfind, _, _, rfl, _, _, ⟨rfl, rfl⟩, period, _, ⟨hperiod, rfl⟩, marked, db₁, hmark,
      payslips, _, ⟨hcalculated, rfl⟩, _, _, rfl, _, _, ⟨rfl, rfl⟩, _, _, rfl, rfl, rfl⟩
    obtain ⟨config, found, hconfig, hfound, rfl⟩ := (hpayslips _ _ _).1 hcalculated
    refine ⟨run₀, _, hfind, (), _, rfl, _, _, ⟨rfl, rfl⟩, period, _, ⟨hperiod, rfl⟩, marked, db₁, hmark,
      config, db₁, ⟨hconfig, rfl⟩, _, _, ⟨found, hfound, rfl, rfl⟩, _, _, ⟨rfl, rfl⟩, (), _, rfl, ?_⟩
    rw [foldl_add]
    simp only [zero_add]
    exact ⟨trivial, trivial⟩

end Loops

/-! ## What is saved -/

def PayrollDb.payslipItems (db : PayrollDb) (payslipId : Uuid) : List PayslipItem :=
  (db.itemsOf payslipId).map (·.toPayslipItem)

def paidEmployees (tables : PayrollTables) (companyId : Uuid) (asOfDate : DateOnly) :
    List Employee :=
  (eligible tables companyId).filter fun e =>
    (findAsOfDate e.id asOfDate tables.compensations).isSome

structure PayslipReconciles (db : PayrollDb) (payslip : PayrollRunEmployee) : Prop where
  gross : payslip.grossPay =
    payslip.baseSalarySnapshot + totalOf .Earning (db.payslipItems payslip.id)
  deductions : payslip.totalDeductions = totalOf .Deduction (db.payslipItems payslip.id)
  net : payslip.netPay = payslip.grossPay - payslip.totalDeductions

/-- A calculated run adds up: each payslip, the totals and the count, and one payslip for
each employee who is paid, at the base salary there is on the first day of the period. -/
structure Reconciles (tables : PayrollTables) (companyId : Uuid) (asOfDate : DateOnly)
    (db : PayrollDb) (run : PayrollRun) : Prop where
  saved : db.runs.find? run.id = some run
  payslips : ∀ payslip ∈ db.payslipsOf run.id, PayslipReconciles db payslip
  grossPay : run.totalGrossPay = ((db.payslipsOf run.id).map (·.grossPay)).sum
  deductions : run.totalDeductions = ((db.payslipsOf run.id).map (·.totalDeductions)).sum
  netPay : run.totalNetPay = ((db.payslipsOf run.id).map (·.netPay)).sum
  count : run.employeeCount = (db.payslipsOf run.id).length
  employees : (db.payslipsOf run.id).map (·.employeeId) =
    (paidEmployees tables companyId asOfDate).map (·.id)
  salaries : ∀ payslip ∈ db.payslipsOf run.id, ∃ compensation,
    findAsOfDate payslip.employeeId asOfDate tables.compensations = some compensation ∧
      payslip.baseSalarySnapshot = compensation.baseSalary

structure Sound (db : PayrollDb) : Prop where
  payslips : ∀ s ∈ db.payslips.rows, s.id < db.nextId
  runs : ∀ s ∈ db.payslips.rows, s.payrollRunId < db.nextId
  items : ∀ i ∈ db.items, i.payrollRunEmployeeId < db.nextId

theorem Sound.insertPayslip {db : PayrollDb} (h : Sound db) {runId : Uuid} (hrun : runId < db.nextId)
    (payslip : Payslip) : Sound (db.insertPayslip runId payslip) := by
  have hlt := PayrollDb.nextId_lt_insertPayslip runId db payslip
  refine ⟨?_, ?_, fun i hi => ?_⟩
  · exact Table.forall_save (fun s hs => Nat.lt_trans (h.payslips s hs) hlt) hlt
  · exact Table.forall_save (fun s hs => Nat.lt_trans (h.runs s hs) hlt) (Nat.lt_trans hrun hlt)
  · rcases List.mem_append.1 hi with hi | hi
    · exact Nat.lt_trans (h.items i hi) hlt
    · obtain ⟨k, _, rfl⟩ := List.mem_mapIdx.1 hi
      exact hlt

theorem Sound.insertPayslips {db : PayrollDb} (h : Sound db) {runId : Uuid}
    (hrun : runId < db.nextId) (payslips : List Payslip) :
    Sound (payslips.foldl (PayrollDb.insertPayslip runId) db) := by
  induction payslips generalizing db with
  | nil => exact h
  | cons payslip payslips ih =>
    exact ih (h.insertPayslip hrun payslip)
      (Nat.lt_trans hrun (PayrollDb.nextId_lt_insertPayslip runId db payslip))

def IsRowOf (db : PayrollDb) (payslip : Payslip) (row : PayrollRunEmployee) : Prop :=
  row.toPayslipColumns = payslip.toPayslipColumns ∧ db.payslipItems row.id = payslip.items

/-- The rows a loop over payslips saves come after those of the run there were. -/
theorem payslipsOf_insertPayslips {db : PayrollDb} (h : Sound db) {runId : Uuid}
    (hrun : runId < db.nextId) (payslips : List Payslip) :
    ∃ rows, (payslips.foldl (PayrollDb.insertPayslip runId) db).payslipsOf runId =
        db.payslipsOf runId ++ rows ∧
      List.Forall₂ (IsRowOf (payslips.foldl (PayrollDb.insertPayslip runId) db)) payslips rows := by
  induction payslips generalizing db with
  | nil => exact ⟨[], (List.append_nil _).symm, .nil⟩
  | cons payslip payslips ih =>
    have hlt := PayrollDb.nextId_lt_insertPayslip runId db payslip
    obtain ⟨rows, hrows, hforall⟩ := ih (h.insertPayslip hrun payslip) (Nat.lt_trans hrun hlt)
    let row : PayrollRunEmployee :=
      { toPayslipColumns := payslip.toPayslipColumns, id := db.nextId, payrollRunId := runId
        status := .Calculated }
    refine ⟨row :: rows, ?_, .cons ⟨rfl, ?_⟩ hforall⟩
    · rw [List.foldl_cons, hrows]
      have hnew : (db.insertPayslip runId payslip).payslipsOf runId =
          db.payslipsOf runId ++ [row] := by
        unfold PayrollDb.payslipsOf PayrollDb.insertPayslip
        rw [Table.rows_save_new, List.filter_append, List.filter_cons_of_pos, List.filter_nil]
        · simp
        · rw [Table.find?_eq_none]
          exact fun s hs => Nat.ne_of_lt (h.payslips s hs)
      rw [hnew, List.append_assoc, List.singleton_append]
    · -- Later payslips have items of their own.
      have hkept := (OthersKept.insertPayslips runId payslips
        (db.insertPayslip runId payslip)).items db.nextId hlt
      unfold PayrollDb.payslipItems
      rw [List.foldl_cons, show row.id = db.nextId from rfl, hkept]
      unfold PayrollDb.itemsOf PayrollDb.insertPayslip
      dsimp only
      rw [List.filter_append, List.filter_eq_nil_iff.2, List.nil_append, List.filter_eq_self.2]
      · apply List.ext_getElem
        · simp
        · intro i h₁ h₂
          simp
      · intro item hitem
        obtain ⟨i, _, rfl⟩ := List.mem_mapIdx.1 hitem
        simp
      · intro item hitem
        have hne := Nat.ne_of_lt (h.items item hitem)
        simpa using hne

/-! ## Payslips of employees -/

structure Pays (tables : PayrollTables) (asOfDate : DateOnly) (employee : Employee)
    (payslip : Payslip) : Prop where
  employeeId : payslip.employeeId = employee.id
  salary : ∃ compensation, findAsOfDate employee.id asOfDate tables.compensations = some compensation ∧
    payslip.baseSalarySnapshot = compensation.baseSalary
  addsUp : payslip.AddsUp

variable {periodEnd periodStart : DateOnly}

theorem calculateEmployee_spec {rounding : Rounding} {tables : PayrollTables}
    {config : PayrollConfiguration} {employee : Employee}
    {found : Option Payslip}
    (h : calculateEmployee rounding tables config periodStart periodEnd employee = .ok found) :
    found.isSome = (findAsOfDate employee.id periodStart tables.compensations).isSome ∧
      ∀ payslip ∈ found, Pays tables periodStart employee payslip := by
  unfold calculateEmployee at h
  cases hbase : findAsOfDate employee.id periodStart tables.compensations with
  | none =>
    rw [hbase] at h
    cases h
    exact ⟨rfl, fun _ hpayslip => by cases hpayslip⟩
  | some compensation =>
    rw [hbase] at h
    obtain ⟨items, -, h⟩ := except_bind_eq_ok.1 h
    cases h
    refine ⟨rfl, fun payslip hpayslip => ?_⟩
    cases hpayslip
    exact ⟨rfl, ⟨compensation, hbase, rfl⟩, ⟨rfl, rfl, rfl⟩⟩

theorem calculateEmployees_spec {rounding : Rounding} {tables : PayrollTables}
    {config : PayrollConfiguration} {employees : List Employee}
    {found : List (Option Payslip)}
    (h : employees.mapM (calculateEmployee rounding tables config periodStart periodEnd) = .ok found) :
    List.Forall₂ (Pays tables periodStart)
      (employees.filter fun e => (findAsOfDate e.id periodStart tables.compensations).isSome)
      (found.filterMap id) := by
  induction employees generalizing found with
  | nil =>
    cases h
    exact .nil
  | cons employee employees ih =>
    rw [List.mapM_cons] at h
    obtain ⟨first, hfirst, h⟩ := except_bind_eq_ok.1 h
    obtain ⟨rest, hrest, h⟩ := except_bind_eq_ok.1 h
    cases h
    obtain ⟨hsome, hpays⟩ := calculateEmployee_spec hfirst
    cases first with
    | none =>
      rw [List.filter_cons_of_neg (by rw [← hsome]; simp)]
      have hforall := ih hrest
      exact hforall
    | some payslip =>
      rw [List.filter_cons_of_pos (by rw [← hsome]; rfl)]
      exact .cons (hpays payslip rfl) (ih hrest)

theorem calculatePayslips_spec {rounding : Rounding} {tables : PayrollTables} {companyId : Uuid} {payslips : List Payslip}
    (h : calculatePayslips rounding tables companyId periodStart periodEnd = .ok payslips) :
    List.Forall₂ (Pays tables periodStart) (paidEmployees tables companyId periodStart) payslips := by
  obtain ⟨config, -, h⟩ := except_bind_eq_ok.1 h
  obtain ⟨found, hfound, h⟩ := except_bind_eq_ok.1 h
  cases h
  exact calculateEmployees_spec hfound

/-! ## Lists that go together -/

section Forall₂

variable {α β γ : Type} {R : α → β → Prop}

theorem exists_of_forall₂_right {xs : List α} {ys : List β} (h : List.Forall₂ R xs ys) :
    ∀ y ∈ ys, ∃ x ∈ xs, R x y := by
  induction h with
  | nil => exact fun y hy => absurd hy List.not_mem_nil
  | cons hxy _ ih =>
    intro y hy
    rcases List.mem_cons.1 hy with rfl | hy
    · exact ⟨_, List.mem_cons_self, hxy⟩
    · obtain ⟨x, hx, hR⟩ := ih y hy
      exact ⟨x, List.mem_cons_of_mem _ hx, hR⟩

theorem map_eq_of_forall₂ {f : α → γ} {g : β → γ} (hR : ∀ x y, R x y → g y = f x) {xs : List α}
    {ys : List β} (h : List.Forall₂ R xs ys) : ys.map g = xs.map f := by
  induction h with
  | nil => rfl
  | cons hxy _ ih => rw [List.map_cons, List.map_cons, hR _ _ hxy, ih]

end Forall₂

theorem map_rows {α : Type} {db : PayrollDb} {payslips : List Payslip}
    {rows : List PayrollRunEmployee} (f : PayslipColumns → α)
    (h : List.Forall₂ (IsRowOf db) payslips rows) :
    rows.map (fun row => f row.toPayslipColumns) =
      payslips.map fun payslip => f payslip.toPayslipColumns :=
  map_eq_of_forall₂ (fun _ _ hrow => congrArg f hrow.1) h

/-! ## What holds before every calculation -/

/-- A draft has no payslips yet, and the tables are sound. -/
structure Ready (db : PayrollDb) : Prop where
  wellFormed : WellFormed db
  sound : Sound db
  drafts : ∀ r ∈ db.runs.rows, r.status = .Draft → db.payslipsOf r.id = []

theorem Change.not_draft {r r' : PayrollRunStatus} {p p' : PayrollPeriodStatus}
    (h : Change r r' p p') : r' ≠ .Draft := by
  cases h <;> exact nofun

section Ready

variable {rounding : Rounding} {db db' : PayrollDb}

theorem Sound.saveRun (h : Sound db) (run : PayrollRun) : Sound (db.saveRun run) :=
  ⟨h.payslips, h.runs, h.items⟩

theorem Sound.savePeriod (h : Sound db) (period : PayrollPeriod) : Sound (db.savePeriod period) :=
  ⟨h.payslips, h.runs, h.items⟩

theorem Sound.finalizePayslips (h : Sound db) (runId : Uuid) : Sound (db.finalizePayslips runId) := by
  have hrow : ∀ (P : PayrollRunEmployee → Prop), (∀ s ∈ db.payslips.rows, P s) →
      (∀ s, P s → P { s with status := .Finalized }) →
      ∀ s ∈ (db.finalizePayslips runId).payslips.rows, P s := by
    intro P hP hfinal s hs
    obtain ⟨s₀, hs₀, rfl⟩ := List.mem_map.1 hs
    split
    · exact hfinal s₀ (hP s₀ hs₀)
    · exact hP s₀ hs₀
  exact ⟨hrow (fun s => s.id < db.nextId) h.payslips fun _ hs => hs,
    hrow (fun s => s.payrollRunId < db.nextId) h.runs fun _ hs => hs, h.items⟩

theorem Sound.mono (h : Sound db) (hpayslips : db'.payslips = db.payslips)
    (hitems : db'.items = db.items) (hle : db.nextId ≤ db'.nextId) : Sound db' := by
  refine ⟨fun s hs => ?_, fun s hs => ?_, fun i hi => ?_⟩
  · rw [hpayslips] at hs
    exact Nat.lt_of_lt_of_le (h.payslips s hs) hle
  · rw [hpayslips] at hs
    exact Nat.lt_of_lt_of_le (h.runs s hs) hle
  · rw [hitems] at hi
    exact Nat.lt_of_lt_of_le (h.items i hi) hle

theorem calculate_writes {runId companyId : Uuid} {tables : PayrollTables}
    {startedAt completedAt : Instant} {run : PayrollRun}
    (h : Commits (PayrollRunsService.calculate rounding runId companyId tables startedAt completedAt)
      db run db') :
    ∃ run₀ run₁ period period' payslips db₁,
      db.runs.find? run.id = some run₀ ∧ run₀.status = .Draft ∧
      db.periods.find? run.payrollPeriodId = some period ∧
      calculatePayslips rounding tables companyId period.startDate period.endDate = .ok payslips ∧
      db₁ = payslips.foldl (PayrollDb.insertPayslip run.id)
        ((db.saveRun run₁).savePeriod period') ∧
      db' = db₁.saveRun run ∧ run.employeeCount = (db₁.payslipsOf run.id).length ∧
      run.totalGrossPay = (payslips.map (·.grossPay)).sum ∧
      run.totalDeductions = (payslips.map (·.totalDeductions)).sum ∧
      run.totalNetPay = (payslips.map (·.netPay)).sum := by
  simp only [PayrollRunsService.calculate, commits_bind, commits_reads, commits_orReject,
    commits_liftM, commits_modify, commits_pure] at h
  obtain ⟨run₀, _, hfind, _, _, rfl, _, _, ⟨rfl, rfl⟩, period, _, ⟨hperiod, rfl⟩, _, _, hmark,
    payslips, _, ⟨hpayslips, rfl⟩, _, _, rfl, _, _, ⟨rfl, rfl⟩, _, _, rfl, rfl, rfl⟩ := h
  obtain ⟨hrun, hstatus, rfl⟩ := PayrollRunsService.findRun_spec hfind
  obtain ⟨p, hp, hopen, rfl, rfl⟩ := PayrollPeriodsService.mark_spec hmark
  rw [List.mem_singleton] at hstatus
  have hid : run₀.id = runId := Table.key_of_find? hrun
  refine ⟨run₀, _, period, _, payslips, _, ?_, hstatus, hperiod, hpayslips, rfl, rfl, rfl, rfl, rfl, rfl⟩
  rw [hid]
  exact hrun

theorem Sound.step (hwf : WellFormed db) (h : Sound db) {request : Request}
    (hs : (machine rounding).step db request = some db') : Sound db' := by
  rcases serial_cases hs with ⟨rfl, -⟩ | ⟨u, hcommits⟩
  · exact h
  cases request with
  | createPeriod companyId userId dto =>
    obtain ⟨period, hperiod⟩ := (commits_void _ _ _ _).1 hcommits
    obtain ⟨hid, hopen, counters, rfl⟩ := PayrollPeriodsService.create_spec hperiod
    exact h.mono rfl rfl (Nat.le_succ _)
  | cancelPeriod id companyId userId scan =>
    obtain ⟨period, hperiod⟩ := (commits_void _ _ _ _).1 hcommits
    obtain ⟨p, -, -, -, -, rfl, rfl⟩ := PayrollPeriodsService.cancel_iff.1 hperiod
    exact h.savePeriod _
  | createRun companyId userId payrollPeriodId =>
    obtain ⟨run, hrun⟩ := (commits_void _ _ _ _).1 hcommits
    simp only [PayrollRunsService.create, PayrollRunsService.generateRunNumber, generateNumber, drawId,
      commits_bind, commits_rejectIf, commits_reads, commits_orReject, commits_get, commits_set,
      commits_modify, commits_pure] at hrun
    obtain ⟨_, _, ⟨rfl, rfl⟩, period, _, ⟨-, rfl⟩, _, _, ⟨-, rfl⟩, _, _, ⟨rfl, rfl⟩, _, _, ⟨-, rfl⟩,
      _, _, ⟨_, _, ⟨rfl, rfl⟩, _, _, rfl, -, rfl⟩, _, _, ⟨_, _, ⟨rfl, rfl⟩, _, _, rfl, rfl, rfl⟩, _, _,
      rfl, rfl, rfl⟩ := hrun
    exact h.mono rfl rfl (Nat.le_succ _)
  | calculateRun =>
    obtain ⟨run, hrun⟩ := (commits_void _ _ _ _).1 hcommits
    obtain ⟨run₀, run₁, period, period', payslips, db₁, hfound, -, -, -, rfl, rfl, -⟩ :=
      calculate_writes hrun
    have hlt : run.id < db.nextId := by
      rw [← Table.key_of_find? hfound]
      exact hwf.runIds run₀ (Table.mem_of_find? hfound)
    exact (((h.saveRun run₁).savePeriod period').insertPayslips hlt payslips).saveRun run
  | finalizeRun id companyId userId finalizedAt =>
    obtain ⟨run, hrun⟩ := (commits_void _ _ _ _).1 hcommits
    simp only [PayrollRunsService.finalize, commits_bind, commits_modify, commits_pure] at hrun
    obtain ⟨run₀, _, hfind, _, _, rfl, _, _, rfl, _, _, hmark, rfl, rfl⟩ := hrun
    obtain ⟨hrun, hstatus, rfl⟩ := PayrollRunsService.findRun_spec hfind
    obtain ⟨p, hp, hprocessing, rfl, rfl⟩ := PayrollPeriodsService.mark_spec hmark
    exact ((h.finalizePayslips run₀.id).saveRun _).savePeriod _
  | cancelRun id companyId =>
    obtain ⟨run, hrun⟩ := (commits_void _ _ _ _).1 hcommits
    simp only [PayrollRunsService.cancel, commits_bind, commits_modify] at hrun
    obtain ⟨run₀, _, hfind, _, _, rfl, hrun⟩ := hrun
    obtain ⟨-, -, rfl⟩ := PayrollRunsService.findRun_spec hfind
    split at hrun
    · simp only [commits_bind, commits_pure] at hrun
      obtain ⟨_, _, hrevert, rfl, rfl⟩ := hrun
      obtain ⟨p, -, ⟨-, rfl⟩ | ⟨-, rfl⟩⟩ := PayrollPeriodsService.revertToOpen_spec hrevert
      · exact h.saveRun _
      · exact (h.saveRun _).savePeriod _
    · obtain ⟨rfl, rfl⟩ := (commits_pure _ _ _ _).1 hrun
      exact h.saveRun _

theorem payslipsOf_eq_nil (h : Sound db) : db.payslipsOf db.nextId = [] := by
  refine List.filter_eq_nil_iff.2 fun s hs => ?_
  have hne := Nat.ne_of_lt (h.runs s hs)
  simpa using hne

/-- Every request leaves drafts without payslips. -/
theorem Ready.step (h : Ready db) {request : Request}
    (hs : (machine rounding).step db request = some db') : Ready db' := by
  have heffect := effect_of_step h.wellFormed hs
  refine ⟨heffect.wellFormed h.wellFormed, h.sound.step h.wellFormed hs, ?_⟩
  cases heffect with
  | rejected => exact h.drafts
  | opened => exact h.drafts
  | periodCancelled => exact h.drafts
  | drafted companyId userId payrollPeriodId run period counters hid =>
    refine Table.forall_save h.drafts fun _ => ?_
    show db.payslipsOf run.id = []
    rw [hid]
    exact payslipsOf_eq_nil h.sound
  | moved _ _ run run' period period' hmoved =>
    intro r hr hdraft
    rw [hmoved.runs] at hr
    rcases (Table.mem_save _ _ _).1 hr with rfl | ⟨hr, hne⟩
    · exact absurd hdraft hmoved.change.not_draft
    · rw [hmoved.others.payslips h.wellFormed.payslipIds r.id hne]
      exact h.drafts r hr hdraft

theorem Ready.calculate (h : Ready db) {runId companyId : Uuid} {tables : PayrollTables}
    {startedAt completedAt : Instant} {run : PayrollRun}
    (hc : Commits (PayrollRunsService.calculate rounding runId companyId tables startedAt completedAt)
      db run db') :
    ∃ period, db.periods.find? run.payrollPeriodId = some period ∧
      Reconciles tables companyId period.startDate db' run := by
  obtain ⟨run₀, run₁, period, period', payslips, db₁, hfound, hdraft, hperiod, hpayslips, hdb₁, rfl,
    hcount, hgross, hdeductions, hnet⟩ := calculate_writes hc
  refine ⟨period, hperiod, ?_⟩
  have hid : run₀.id = run.id := Table.key_of_find? hfound
  have hlt : run.id < db.nextId := by
    rw [← hid]
    exact h.wellFormed.runIds run₀ (Table.mem_of_find? hfound)
  have hnone : db.payslipsOf run.id = [] := by
    rw [← hid]
    exact h.drafts run₀ (Table.mem_of_find? hfound) hdraft
  obtain ⟨rows, hrows, hforall⟩ := payslipsOf_insertPayslips
    ((h.sound.saveRun run₁).savePeriod period') hlt payslips
  rw [← hdb₁] at hrows hforall
  have hall : db₁.payslipsOf run.id = rows := by
    rw [hrows]
    show db.payslipsOf run.id ++ rows = rows
    rw [hnone, List.nil_append]
  have hpays := calculatePayslips_spec hpayslips
  have hcolumn : ∀ {α : Type} (f : PayslipColumns → α),
      rows.map (fun row => f row.toPayslipColumns) =
        payslips.map fun payslip => f payslip.toPayslipColumns := fun f => map_rows f hforall
  have hrow : ∀ row ∈ rows, ∃ payslip employee, IsRowOf db₁ payslip row ∧
      Pays tables period.startDate employee payslip := by
    intro row hmem
    obtain ⟨payslip, hpayslip, hrow⟩ := exists_of_forall₂_right hforall row hmem
    obtain ⟨employee, -, hpay⟩ := exists_of_forall₂_right hpays payslip hpayslip
    exact ⟨payslip, employee, hrow, hpay⟩
  refine
    { saved := ?_
      payslips := fun row hmem => ?_
      grossPay := ?_
      deductions := ?_
      netPay := ?_
      count := hcount
      employees := ?_
      salaries := fun row hmem => ?_ }
  · exact Table.find?_save_self _ _
  · change row ∈ db₁.payslipsOf run.id at hmem
    rw [hall] at hmem
    obtain ⟨payslip, employee, ⟨hcolumns, hitems⟩, hpay⟩ := hrow row hmem
    have hitems' : (db₁.saveRun run).payslipItems row.id = payslip.items := hitems
    refine ⟨?_, ?_, ?_⟩
    · rw [hitems', hcolumns]
      exact hpay.addsUp.gross
    · rw [hitems', hcolumns]
      exact hpay.addsUp.deductions
    · rw [hcolumns]
      exact hpay.addsUp.net
  · show _ = ((db₁.payslipsOf run.id).map (·.grossPay)).sum
    rw [hall, hgross]
    exact congrArg List.sum (hcolumn (·.grossPay)).symm
  · show _ = ((db₁.payslipsOf run.id).map (·.totalDeductions)).sum
    rw [hall, hdeductions]
    exact congrArg List.sum (hcolumn (·.totalDeductions)).symm
  · show _ = ((db₁.payslipsOf run.id).map (·.netPay)).sum
    rw [hall, hnet]
    exact congrArg List.sum (hcolumn (·.netPay)).symm
  · show (db₁.payslipsOf run.id).map (·.employeeId) = _
    rw [hall]
    refine (hcolumn (·.employeeId)).trans ?_
    exact map_eq_of_forall₂ (fun _ _ hpay => hpay.employeeId) hpays
  · change row ∈ db₁.payslipsOf run.id at hmem
    rw [hall] at hmem
    obtain ⟨payslip, employee, ⟨hcolumns, -⟩, hpay⟩ := hrow row hmem
    obtain ⟨compensation, hfoundAt, hsalary⟩ := hpay.salary
    refine ⟨compensation, ?_, ?_⟩
    · rw [hcolumns, hpay.employeeId]
      exact hfoundAt
    · rw [hcolumns]
      exact hsalary

theorem Ready.reaches {start : PayrollDb} (hstart : Ready start)
    (hreach : (machine rounding).Reaches start db) : Ready db :=
  hreach.invariant hstart fun _ _ _ h hs => h.step hs

end Ready

theorem nodup_paidEmployees {tables : PayrollTables} (hkeys : (tables.employees.map (·.id)).Nodup)
    (companyId : Uuid) (asOfDate : DateOnly) :
    ((paidEmployees tables companyId asOfDate).map (·.id)).Nodup := by
  have hsub : (paidEmployees tables companyId asOfDate).Sublist tables.employees :=
    List.filter_sublist.trans List.filter_sublist
  exact hkeys.sublist (hsub.map _)

/-- A calculation that commits leaves a run that adds up, with one payslip for each employee
who is paid; one that fails leaves everything as it was. -/
theorem payroll_reconciles {rounding : Rounding} {start db : PayrollDb} (hstart : Ready start)
    (hreach : (machine rounding).Reaches start db) {tables : PayrollTables}
    (hkeys : (tables.employees.map (·.id)).Nodup) (runId companyId : Uuid)
    (startedAt completedAt : Instant) :
    (∀ run db', Commits (calculateLoop rounding tables runId companyId startedAt completedAt) db run db' →
      ∃ period, db.periods.find? run.payrollPeriodId = some period ∧
        Reconciles tables companyId period.startDate db' run ∧
        ∀ e ∈ paidEmployees tables companyId period.startDate,
          (db'.payslipsOf run.id).countP (·.employeeId = e.id) = 1) ∧
    ∀ error, Rejects (calculateLoop rounding tables runId companyId startedAt completedAt) db error →
      (Tx.run (calculateLoop rounding tables runId companyId startedAt completedAt) db).2 = db := by
  have hready := hstart.reaches hreach
  constructor
  · intro run db' hcommits
    obtain ⟨period, hperiod, hreconciles⟩ := hready.calculate (commits_calculateLoop.1 hcommits)
    refine ⟨period, hperiod, hreconciles, fun e he => ?_⟩
    have hcount : ((db'.payslipsOf run.id).map (·.employeeId)).count e.id = 1 := by
      rw [hreconciles.employees]
      exact List.count_eq_one_of_mem (nodup_paidEmployees hkeys _ _) (List.mem_map_of_mem he)
    rw [List.count_eq_countP, List.countP_map] at hcount
    rw [← hcount]
    exact List.countP_congr fun payslip _ => by simp
  · intro error hrejects
    rw [run_of_rejects hrejects]

namespace PayrollDemo

theorem company_ready : Ready company where
  wellFormed := company_wellFormed
  sound := ⟨nofun, nofun, nofun⟩
  drafts _ h := (List.not_mem_nil h).elim

def assigned (componentId : Uuid) (amount : Option Cents) : EmployeePayrollComponent :=
  { id := 10 + componentId, employeeId := 3, payrollComponentId := componentId, amount := amount
    percentage := none, effectiveFrom := ⟨2026, 1, 1⟩, effectiveTo := none }

def components : List PayrollComponent :=
  [{ id := 51, companyId := 1, isActive := true, name := "Transport", code := "TRA"
     type := .Earning, calculationType := .FixedAmount, fixedAmount := some 2000000 },
   { id := 52, companyId := 1, isActive := true, name := "Income tax", code := "TAX"
     type := .Deduction, calculationType := .PercentageOfBase, percentage := some 50000 },
   { id := 53, companyId := 1, isActive := true, name := "Social security", code := "SSB"
     type := .EmployerContribution, calculationType := .PercentageOfBase
     percentage := some 30000 },
   { id := 54, companyId := 1, isActive := false, name := "Meals", code := "MEAL"
     type := .Earning, calculationType := .FixedAmount, fixedAmount := some 100000 }]

def componentTables : PayrollTables :=
  { tables with
    components := .ofRows components
    employeeComponents :=
      [assigned 51 (some 3000000), assigned 52 none, assigned 53 none, assigned 54 none] }

def draft : List Request := [.createPeriod 1 9 august, .createRun 1 9 100]

end PayrollDemo

open PayrollDemo in
theorem payroll_reconciles_august : ∃ db, (machine rounding).Reaches company db ∧
    (∃ run db', Commits (calculateLoop rounding componentTables 101 1 payday payday) db run db' ∧
      run.employeeCount = 1 ∧ run.totalGrossPay = 53000000 ∧ run.totalDeductions = 2500000 ∧
      run.totalNetPay = 50500000 ∧ ∃ period,
        db.periods.find? run.payrollPeriodId = some period ∧
        Reconciles componentTables 1 period.startDate db' run ∧
        ∀ e ∈ paidEmployees componentTables 1 period.startDate,
          (db'.payslipsOf run.id).countP (·.employeeId = e.id) = 1) ∧
    ∃ error, Rejects (calculateLoop rounding componentTables 100 1 payday payday) db error ∧
      (Tx.run (calculateLoop rounding componentTables 100 1 payday payday) db).2 = db := by
  obtain ⟨db, hrun, hend⟩ := Machine.exists_runWith (machine rounding) (fun _ _ => True) company draft
    (fun db =>
      ((Tx.run (calculateLoop rounding componentTables 101 1 payday payday) db).1.toOption.any
        fun run => run.employeeCount = 1 && run.totalGrossPay = 53000000 &&
          run.totalDeductions = 2500000 && run.totalNetPay = 50500000) &&
      (Tx.run (calculateLoop rounding componentTables 100 1 payday payday) db).1.toOption.isNone)
    (by decide +kernel)
  rw [Bool.and_eq_true] at hend
  have hreach : (machine rounding).Reaches company db := ⟨draft, hrun⟩
  have hkeys : (componentTables.employees.map (·.id)).Nodup := by decide
  obtain ⟨run, hcommits, htotals⟩ := commits_of_run_any hend.1
  simp only [Bool.and_eq_true, decide_eq_true_eq] at htotals
  refine ⟨db, hreach, ⟨run, _, hcommits, htotals.1.1.1, htotals.1.1.2, htotals.1.2, htotals.2,
    (payroll_reconciles company_ready hreach hkeys 101 1 payday payday).1 run _ hcommits⟩, ?_⟩
  rcases run_cases (calculateLoop rounding componentTables 100 1 payday payday) db with
    ⟨run, db', -, hrun⟩ | ⟨error, hrejects, -⟩
  · have hnone := hend.2
    rw [hrun] at hnone
    cases hnone
  · exact ⟨error, hrejects,
      (payroll_reconciles company_ready hreach hkeys 100 1 payday payday).2 error hrejects⟩

end FashionErp.Payroll
