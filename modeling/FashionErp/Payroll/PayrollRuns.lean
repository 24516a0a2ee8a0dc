/-
`PayrollRunsService`, and payroll periods and runs under requests one after the other.

A period and its active run change status together: calculating a run takes its period into
processing, finalizing it finalizes the period, and cancelling a calculated run opens the
period again.
-/
import FashionErp.Lib.Serial
import FashionErp.Payroll.PayrollPeriods

namespace FashionErp.Payroll

open Lib Lib.Tx Hr

namespace PayrollRunsService

/-! ## The service -/

def generateRunNumber : Uuid → ℕ → PayrollTx String :=
  generateNumber "PR" (·.runCounters) fun db counters => { db with runCounters := counters }

def create (companyId userId payrollPeriodId : Uuid) : PayrollTx PayrollRun := do
  let period ← reads fun db =>
    (db.periods.find? payrollPeriodId).filter (·.companyId = companyId)
  let period ← orReject period (appException .ValidationError
    "payrollPeriodId does not reference a payroll period in the specified company")
  rejectIf (period.status ≠ .Open) (appException .UnprocessableEntity
    s!"Cannot create a payroll run for a period in status {period.status.text}")
  let existingActiveRun ← reads fun db =>
    (db.runsOf payrollPeriodId).find? (·.status ≠ .Cancelled)
  rejectIf existingActiveRun.isSome
    (appException .Conflict "An active payroll run already exists for this payroll period")
  let runNumber ← generateRunNumber companyId period.startDate.year
  let id ← drawId
  let entity : PayrollRun :=
    { id, companyId, payrollPeriodId, runNumber, status := .Draft, createdBy := userId }
  modify fun db => db.saveRun entity
  return entity

def findRun (verb : String) (statuses : List PayrollRunStatus) (id companyId : Uuid) :
    PayrollTx PayrollRun := do
  let run ← reads fun db => (db.runs.find? id).filter (·.companyId = companyId)
  let run ← orReject run (appException .NotFound "Payroll run not found")
  rejectIf (run.status ∉ statuses) (appException .UnprocessableEntity
    s!"Cannot {verb} a payroll run in status {run.status.text}")
  return run

/-- The calculation reads `tables` of other modules; the two times are those of its start and
its end. -/
def calculate (rounding : Rounding) (id companyId : Uuid) (tables : PayrollTables)
    (startedAt completedAt : Instant) : PayrollTx PayrollRun := do
  let run ← findRun "calculate" [.Draft] id companyId
  let run := { run with status := .Processing, startedAt := some startedAt }
  modify fun db => db.saveRun run
  let period ← reads fun db => db.periods.find? run.payrollPeriodId
  let period ← orReject period .entityNotFound
  let _period ← PayrollPeriodsService.markProcessing period.id
  let payslips ←
    calculatePayslips rounding tables companyId period.startDate period.endDate
  modify fun db => payslips.foldl (PayrollDb.insertPayslip run.id) db
  let employeeCount ← reads fun db => (db.payslipsOf run.id).length
  let run :=
    { run with
      status := .Calculated
      employeeCount := employeeCount
      totalGrossPay := (payslips.map (·.grossPay)).sum
      totalDeductions := (payslips.map (·.totalDeductions)).sum
      totalNetPay := (payslips.map (·.netPay)).sum
      completedAt := some completedAt }
  modify fun db => db.saveRun run
  return run

def finalize (id companyId userId : Uuid) (finalizedAt : Instant) : PayrollTx PayrollRun := do
  let run ← findRun "finalize" [.Calculated] id companyId
  modify fun db => db.finalizePayslips run.id
  let run :=
    { run with status := .Finalized, finalizedAt := some finalizedAt, finalizedBy := some userId }
  modify fun db => db.saveRun run
  let _period ← PayrollPeriodsService.markFinalized run.payrollPeriodId
  return run

def cancel (id companyId : Uuid) : PayrollTx PayrollRun := do
  let run ← findRun "cancel" [.Draft, .Calculated] id companyId
  let wasCalculated := run.status = .Calculated
  let run := { run with status := .Cancelled }
  modify fun db => db.saveRun run
  if wasCalculated then
    let _period ← PayrollPeriodsService.revertToOpen run.payrollPeriodId
    return run
  else return run

end PayrollRunsService

/-! ## Runs of requests -/

inductive Request
  | createPeriod (companyId userId : Uuid) (dto : PayrollPeriodsService.CreatePayrollPeriodDto)
  | cancelPeriod (id companyId userId : Uuid) (scan : ℕ)
  | createRun (companyId userId payrollPeriodId : Uuid)
  | calculateRun (id companyId : Uuid) (tables : PayrollTables) (startedAt completedAt : Instant)
  | finalizeRun (id companyId userId : Uuid) (finalizedAt : Instant)
  | cancelRun (id companyId : Uuid)

def Request.call (rounding : Rounding) : Request → PayrollTx Unit
  | createPeriod companyId userId dto => void (PayrollPeriodsService.create companyId userId dto)
  | cancelPeriod id companyId userId scan =>
    void (PayrollPeriodsService.cancel id companyId userId scan)
  | createRun companyId userId payrollPeriodId =>
    void (PayrollRunsService.create companyId userId payrollPeriodId)
  | calculateRun id companyId tables startedAt completedAt =>
    void (PayrollRunsService.calculate rounding id companyId tables startedAt completedAt)
  | finalizeRun id companyId userId finalizedAt =>
    void (PayrollRunsService.finalize id companyId userId finalizedAt)
  | cancelRun id companyId => void (PayrollRunsService.cancel id companyId)

def machine (rounding : Rounding) : Machine PayrollDb Request := serial (Request.call rounding)

/-! ## What should hold -/

/-- Periods and runs agree. -/
structure Consistent (db : PayrollDb) : Prop where
  oneActive : ∀ r ∈ db.runs.rows, ∀ r' ∈ db.runs.rows, r.payrollPeriodId = r'.payrollPeriodId →
    r.status ≠ .Cancelled → r'.status ≠ .Cancelled → r = r'
  processing : ∀ p ∈ db.periods.rows, p.status = .Processing ↔
    ∃ r ∈ db.runs.rows, r.payrollPeriodId = p.id ∧ r.status = .Calculated
  finalized : ∀ p ∈ db.periods.rows, p.status = .Finalized ↔
    ∃ r ∈ db.runs.rows, r.payrollPeriodId = p.id ∧ r.status = .Finalized
  cancelled : ∀ p ∈ db.periods.rows, p.status = .Cancelled → ∀ r ∈ db.runs.rows,
    r.payrollPeriodId = p.id → r.status ≠ .Calculated ∧ r.status ≠ .Finalized

/-- What is final stays: each finalized run, its payslips and their items. -/
def FinalKept (db db' : PayrollDb) : Prop :=
  ∀ id run, db.runs.find? id = some run → run.status = .Finalized →
    db'.runs.find? id = some run ∧ db'.payslipsOf id = db.payslipsOf id ∧
      ∀ payslip ∈ db.payslipsOf id, db'.itemsOf payslip.id = db.itemsOf payslip.id

/-- What holds of the tables in any case: ids below `nextId` are taken, a run is of a period,
and no run is left in `PROCESSING`, which a calculation only passes through. -/
structure WellFormed (db : PayrollDb) : Prop where
  periodIds : ∀ p ∈ db.periods.rows, p.id < db.nextId
  runIds : ∀ r ∈ db.runs.rows, r.id < db.nextId
  payslipIds : ∀ s ∈ db.payslips.rows, s.id < db.nextId
  periodOf : ∀ r ∈ db.runs.rows, ∃ p, db.periods.find? r.payrollPeriodId = some p
  settled : ∀ r ∈ db.runs.rows, r.status ≠ .Processing

/-- The condition on a cancellation of a period in processing: the run it looks at is not
one that was cancelled before. -/
def SeesActiveRun (db : PayrollDb) : Request → Prop
  | .cancelPeriod id companyId _ scan =>
    ∀ period ∈ db.periods.find? id, period.companyId = companyId → period.status = .Processing →
      ∀ run ∈ db.findOneRun id scan, run.status ≠ .Cancelled
  | _ => True

instance (db : PayrollDb) (request : Request) : Decidable (SeesActiveRun db request) := by
  unfold SeesActiveRun
  split <;> infer_instance

/-! ## The statuses of a period and its active run -/

inductive Coupled : PayrollPeriodStatus → Option PayrollRunStatus → Prop
  | idle : Coupled .Open none
  | drafted : Coupled .Open (some .Draft)
  | processing : Coupled .Processing (some .Calculated)
  | finalized : Coupled .Finalized (some .Finalized)
  | cancelled : Coupled .Cancelled none
  | leftDraft : Coupled .Cancelled (some .Draft)

def Coupling (periods : Table PayrollPeriod) (runs : Table PayrollRun) : Prop :=
  ∀ p ∈ periods.rows, ∃ active, Active runs p.id active ∧ Coupled p.status (active.map (·.status))

inductive Change : PayrollRunStatus → PayrollRunStatus → PayrollPeriodStatus →
    PayrollPeriodStatus → Prop
  | calculate : Change .Draft .Calculated .Open .Processing
  | finalize : Change .Calculated .Finalized .Processing .Finalized
  | cancelDraft (p : PayrollPeriodStatus) : Change .Draft .Cancelled p p
  | cancelCalculated : Change .Calculated .Cancelled .Processing .Open
  | cancelLeft (p : PayrollPeriodStatus) (h : p ≠ .Processing) :
    Change .Calculated .Cancelled p p

variable {p p' : PayrollPeriodStatus} {r r' : PayrollRunStatus}

/-- A change keeps the two together. -/
theorem Change.coupled (h : Change r r' p p') (hcoupled : Coupled p (some r)) :
    Coupled p' (if r' = .Cancelled then none else some r') := by
  cases h with
  | calculate => exact .processing
  | finalize => exact .finalized
  | cancelCalculated => exact .idle
  | cancelLeft _ hne =>
    cases hcoupled
    exact absurd rfl hne
  | cancelDraft =>
    cases hcoupled with
    | drafted => exact .idle
    | leftDraft => exact .cancelled

theorem Change.from_live (h : Change r r' p p') : r ≠ .Cancelled ∧ r ≠ .Finalized := by
  cases h <;> exact ⟨nofun, nofun⟩

theorem Change.settled (h : Change r r' p p') : r' ≠ .Processing := by
  cases h <;> exact nofun

theorem Change.closes (h : Change r r' p p') (hfinal : r' = .Finalized) : p' = .Finalized := by
  cases h with
  | finalize => rfl
  | _ => cases hfinal

section

variable {periods : Table PayrollPeriod} {runs : Table PayrollRun}

theorem Coupling.save_period (h : Coupling periods runs) {p p' : PayrollPeriod}
    (hp : periods.find? p'.id = some p)
    (hcoupled : ∀ active, Coupled p.status active → Coupled p'.status active) :
    Coupling (periods.save p') runs := by
  refine Table.forall_save h ?_
  obtain ⟨active, hactive, hpair⟩ := h p (Table.mem_of_find? hp)
  have hid : p.id = p'.id := Table.key_of_find? hp
  exact ⟨active, hid ▸ hactive, hcoupled _ hpair⟩

theorem Coupling.change (h : Coupling periods runs) {run run' : PayrollRun}
    {period period' : PayrollPeriod} (hrun : runs.find? run'.id = some run)
    (hperiod : periods.find? period'.id = some period)
    (hof : run.payrollPeriodId = period'.id) (hof' : run'.payrollPeriodId = period'.id)
    (hchange : Change run.status run'.status period.status period'.status) :
    Coupling (periods.save period') (runs.save run') := by
  have hid : run.id = run'.id := Table.key_of_find? hrun
  have hpid : period.id = period'.id := Table.key_of_find? hperiod
  obtain ⟨active, hactive, hpair⟩ := h period (Table.mem_of_find? hperiod)
  -- The run is the active one of its period.
  obtain rfl := hactive.unique (Table.mem_of_find? hrun) (hof.trans hpid.symm)
    hchange.from_live.1
  intro p hp
  rcases (Table.mem_save _ _ _).1 hp with rfl | ⟨hp, hne⟩
  · have hplace : ∀ old ∈ some run, old.id = run'.id := by
      intro old hold
      rw [← Option.some.inj hold]
      exact hid
    have hnext := hchange.coupled hpair
    refine ⟨_, (hpid ▸ hactive).save hof' hplace, ?_⟩
    by_cases hcancelled : run'.status = .Cancelled
    · rw [if_pos hcancelled] at hnext ⊢
      exact hnext
    · rw [if_neg hcancelled] at hnext ⊢
      exact hnext
  · obtain ⟨other, hother, hpair'⟩ := h p hp
    refine ⟨other, hother.save_other (fun old hold => ?_) fun heq => hne ?_, hpair'⟩
    · rw [hrun] at hold
      rw [← Option.some.inj hold, hof, hof']
    · exact heq.symm.trans hof'

theorem Coupling.draft (h : Coupling periods runs) {run : PayrollRun} {period : PayrollPeriod}
    (hperiod : periods.find? run.payrollPeriodId = some period) (hopen : period.status = .Open)
    (hdraft : run.status = .Draft) (hfresh : runs.find? run.id = none)
    (hnone : ∀ r ∈ runs.rows, r.payrollPeriodId = run.payrollPeriodId → r.status = .Cancelled) :
    Coupling periods (runs.save run) := by
  intro p hp
  obtain ⟨active, hactive, hpair⟩ := h p hp
  by_cases hof : run.payrollPeriodId = p.id
  · have hnoActive : active = none := by
      cases active with
      | none => rfl
      | some r =>
        obtain ⟨hr, hrp, hlive⟩ := (hactive r).1 rfl
        exact absurd (hnone r hr (hrp.trans hof.symm)) hlive
    subst hnoActive
    have hsame : p = period := by
      rw [hof] at hperiod
      exact Option.some.inj (((Table.mem_rows_iff periods p).1 hp).symm.trans hperiod)
    refine ⟨_, hactive.save hof nofun, ?_⟩
    rw [if_neg (by rw [hdraft]; nofun), Option.map_some, hdraft, hsame, hopen]
    exact .drafted
  · refine ⟨active, hactive.save_other (fun old hold => ?_) hof, hpair⟩
    rw [hfresh] at hold
    cases hold

end

/-! ## What a request does -/

structure OthersKept (runId : Uuid) (db db' : PayrollDb) : Prop where
  nextId : db.nextId ≤ db'.nextId
  fresh : (∀ s ∈ db.payslips.rows, s.id < db.nextId) → ∀ s ∈ db'.payslips.rows, s.id < db'.nextId
  payslips : (∀ s ∈ db.payslips.rows, s.id < db.nextId) →
    ∀ id, id ≠ runId → db'.payslipsOf id = db.payslipsOf id
  items : ∀ payslipId, payslipId < db.nextId → db'.itemsOf payslipId = db.itemsOf payslipId

namespace OthersKept

variable {runId : Uuid} {db db₁ db' : PayrollDb}

theorem refl (runId : Uuid) (db : PayrollDb) : OthersKept runId db db :=
  ⟨Nat.le_refl _, id, fun _ _ _ => rfl, fun _ _ => rfl⟩

theorem trans (h : OthersKept runId db db₁) (h' : OthersKept runId db₁ db') :
    OthersKept runId db db' where
  nextId := Nat.le_trans h.nextId h'.nextId
  fresh hfresh := h'.fresh (h.fresh hfresh)
  payslips hfresh id hne :=
    (h'.payslips (h.fresh hfresh) id hne).trans (h.payslips hfresh id hne)
  items payslipId hlt :=
    (h'.items payslipId (Nat.lt_of_lt_of_le hlt h.nextId)).trans (h.items payslipId hlt)

theorem insertPayslip (runId : Uuid) (db : PayrollDb) (payslip : Payslip) :
    OthersKept runId db (db.insertPayslip runId payslip) where
  nextId := Nat.le_of_lt (PayrollDb.nextId_lt_insertPayslip runId db payslip)
  fresh hfresh := by
    have hlt := PayrollDb.nextId_lt_insertPayslip runId db payslip
    exact Table.forall_save (fun s hs => Nat.lt_trans (hfresh s hs) hlt) hlt
  payslips hfresh id hne := by
    unfold PayrollDb.payslipsOf PayrollDb.insertPayslip
    rw [Table.rows_save_new, List.filter_append, List.filter_cons_of_neg, List.filter_nil,
      List.append_nil]
    · simpa using hne.symm
    · rw [Table.find?_eq_none]
      exact fun s hs => Nat.ne_of_lt (hfresh s hs)
  items payslipId hlt := by
    unfold PayrollDb.itemsOf PayrollDb.insertPayslip
    rw [List.filter_append, List.append_right_eq_self, List.filter_eq_nil_iff]
    intro item hitem
    obtain ⟨i, _, rfl⟩ := List.mem_mapIdx.1 hitem
    simpa using (Nat.ne_of_lt hlt).symm

theorem insertPayslips (runId : Uuid) (payslips : List Payslip) (db : PayrollDb) :
    OthersKept runId db (payslips.foldl (PayrollDb.insertPayslip runId) db) := by
  induction payslips generalizing db with
  | nil => exact refl runId db
  | cons payslip payslips ih => exact (insertPayslip runId db payslip).trans (ih _)

theorem finalizePayslips (runId : Uuid) (db : PayrollDb) :
    OthersKept runId db (db.finalizePayslips runId) where
  nextId := Nat.le_refl _
  fresh hfresh s hs := by
    obtain ⟨s₀, hs₀, rfl⟩ := List.mem_map.1 hs
    split
    · exact hfresh s₀ hs₀
    · exact hfresh s₀ hs₀
  payslips _ id hne := by
    unfold PayrollDb.payslipsOf PayrollDb.finalizePayslips Table.mapRows
    rw [List.filter_map]
    have hsame : ∀ s ∈ db.payslips.rows, ((fun p : PayrollRunEmployee => decide (p.payrollRunId = id)) ∘
        fun p => if p.payrollRunId = runId then { p with status := .Finalized } else p) s =
          decide (s.payrollRunId = id) := by
      intro s _
      simp only [Function.comp_apply]
      split <;> rfl
    rw [List.filter_congr hsame]
    refine (List.map_congr_left fun s hs => if_neg ?_).trans (List.map_id _)
    rw [List.mem_filter, decide_eq_true_eq] at hs
    exact fun heq => hne (hs.2.symm.trans heq)
  items _ _ := rfl

/-! The writes of a run and of a period are not of payslips. -/

theorem saveRun (h : OthersKept runId db db') (run : PayrollRun) :
    OthersKept runId db (db'.saveRun run) :=
  ⟨h.nextId, h.fresh, h.payslips, h.items⟩

theorem savePeriod (h : OthersKept runId db db') (period : PayrollPeriod) :
    OthersKept runId db (db'.savePeriod period) :=
  ⟨h.nextId, h.fresh, h.payslips, h.items⟩

end OthersKept

structure Moved (db db' : PayrollDb) (run run' : PayrollRun) (period period' : PayrollPeriod) :
    Prop where
  runFound : db.runs.find? run'.id = some run
  periodFound : db.periods.find? period'.id = some period
  ofPeriod : run.payrollPeriodId = period'.id
  ofPeriod' : run'.payrollPeriodId = period'.id
  change : Change run.status run'.status period.status period'.status
  runs : db'.runs = db.runs.save run'
  periods : db'.periods = db.periods.save period'
  others : OthersKept run'.id db db'

/-- What a request can do. -/
inductive Effect (db : PayrollDb) : Request → PayrollDb → Prop
  | rejected (request : Request) : Effect db request db
  | opened (companyId userId : Uuid) (dto : PayrollPeriodsService.CreatePayrollPeriodDto)
      (period : PayrollPeriod) (counters : Table PayrollCounter) (hid : period.id = db.nextId)
      (hopen : period.status = .Open) :
      Effect db (.createPeriod companyId userId dto)
        { db with
          periods := db.periods.save period
          periodCounters := counters
          nextId := db.nextId + 1 }
  | periodCancelled (id companyId userId : Uuid) (scan : ℕ) (period : PayrollPeriod)
      (hfound : db.periods.find? id = some period) (hcompany : period.companyId = companyId)
      (hstatus : period.status = .Open ∨ period.status = .Processing)
      (hseen : ∀ run ∈ db.findOneRun id scan, run.status = .Cancelled ∨ run.status = .Draft) :
      Effect db (.cancelPeriod id companyId userId scan)
        (db.savePeriod { period with status := .Cancelled, updatedBy := some userId })
  | drafted (companyId userId payrollPeriodId : Uuid) (run : PayrollRun) (period : PayrollPeriod)
      (counters : Table PayrollCounter) (hid : run.id = db.nextId)
      (hof : run.payrollPeriodId = payrollPeriodId) (hdraft : run.status = .Draft)
      (hfound : db.periods.find? payrollPeriodId = some period) (hopen : period.status = .Open)
      (hnone : ∀ r ∈ db.runs.rows, r.payrollPeriodId = payrollPeriodId → r.status = .Cancelled) :
      Effect db (.createRun companyId userId payrollPeriodId)
        { db with
          runs := db.runs.save run
          runCounters := counters
          nextId := db.nextId + 1 }
  | moved (request : Request) (db' : PayrollDb) (run run' : PayrollRun)
      (period period' : PayrollPeriod) (h : Moved db db' run run' period period') :
      Effect db request db'

namespace PayrollRunsService

section

variable {db db' : PayrollDb} {run : PayrollRun} {id companyId userId : Uuid}

theorem findRun_spec {verb : String} {statuses : List PayrollRunStatus}
    (h : Commits (findRun verb statuses id companyId) db run db') :
    db.runs.find? id = some run ∧ run.status ∈ statuses ∧ db = db' := by
  simp only [findRun, commits_bind, commits_reads, commits_orReject, commits_rejectIf,
    commits_pure] at h
  obtain ⟨_, _, ⟨rfl, rfl⟩, r, _, ⟨hr, rfl⟩, _, _, ⟨hstatus, rfl⟩, rfl, rfl⟩ := h
  exact ⟨(Option.filter_eq_some_iff.1 hr).1, not_not.1 hstatus, rfl⟩

theorem create_spec {payrollPeriodId : Uuid}
    (h : Commits (create companyId userId payrollPeriodId) db run db') :
    Effect db (.createRun companyId userId payrollPeriodId) db' := by
  simp only [create, generateRunNumber, generateNumber, drawId, commits_bind, commits_rejectIf,
    commits_reads, commits_orReject, commits_get, commits_set, commits_modify, commits_pure] at h
  obtain ⟨_, _, ⟨rfl, rfl⟩, period, _, ⟨hperiod, rfl⟩, _, _, ⟨hopen, rfl⟩, _, _, ⟨rfl, rfl⟩, _, _,
    ⟨hnone, rfl⟩, _, _, ⟨_, _, ⟨rfl, rfl⟩, _, _, rfl, -, rfl⟩, _, _,
    ⟨_, _, ⟨rfl, rfl⟩, _, _, rfl, rfl, rfl⟩, _, _, rfl, rfl, rfl⟩ := h
  refine .drafted companyId userId payrollPeriodId _ period _ rfl rfl rfl (Option.filter_eq_some_iff.1 hperiod).1
    (not_not.1 hopen) fun r hr hof => ?_
  rw [Option.not_isSome_iff_eq_none, List.find?_eq_none] at hnone
  simpa using hnone r (by simpa [PayrollDb.runsOf] using ⟨hr, hof⟩)

theorem calculate_spec {rounding : Rounding} {tables : PayrollTables}
    {startedAt completedAt : Instant}
    (h : Commits (calculate rounding id companyId tables startedAt completedAt) db run db') :
    ∃ run₀ period period', Moved db db' run₀ run period period' := by
  simp only [calculate, commits_bind, commits_reads, commits_orReject, commits_liftM,
    commits_modify, commits_pure] at h
  obtain ⟨run₀, _, hfind, _, _, rfl, _, _, ⟨rfl, rfl⟩, period, _, ⟨hperiod, rfl⟩, _, _, hmark,
    payslips, _, ⟨-, rfl⟩, _, _, rfl, _, _, ⟨rfl, rfl⟩, _, _, rfl, rfl, rfl⟩ := h
  obtain ⟨hrun, hstatus, rfl⟩ := findRun_spec hfind
  obtain ⟨p, hp, hopen, rfl, rfl⟩ := PayrollPeriodsService.mark_spec hmark
  rw [List.mem_singleton] at hstatus
  have hid : p.id = run₀.payrollPeriodId :=
    (Table.key_of_find? hp).trans (Table.key_of_find? hperiod)
  refine ⟨run₀, p, { p with status := .Processing }, ?_⟩
  refine
    { runFound := by rwa [← Table.key_of_find? hrun] at hrun
      periodFound := by rwa [← Table.key_of_find? hp] at hp
      ofPeriod := hid.symm
      ofPeriod' := hid.symm
      change := ?_
      runs := ?_
      periods := ?_
      others := ?_ }
  · rw [hstatus, hopen]
    exact .calculate
  · rw [PayrollDb.saveRun_runs, PayrollDb.insertPayslips_runs]
    exact Table.save_save _ rfl
  · rw [PayrollDb.saveRun_periods, PayrollDb.insertPayslips_periods]
    rfl
  · exact ((((OthersKept.refl run₀.id db).saveRun _).savePeriod _).trans
      (.insertPayslips run₀.id payslips _)).saveRun _

theorem finalize_spec {finalizedAt : Instant}
    (h : Commits (finalize id companyId userId finalizedAt) db run db') :
    ∃ run₀ period period', Moved db db' run₀ run period period' := by
  simp only [finalize, commits_bind, commits_modify, commits_pure] at h
  obtain ⟨run₀, _, hfind, _, _, rfl, _, _, rfl, _, _, hmark, rfl, rfl⟩ := h
  obtain ⟨hrun, hstatus, rfl⟩ := findRun_spec hfind
  obtain ⟨p, hp, hprocessing, rfl, rfl⟩ := PayrollPeriodsService.mark_spec hmark
  rw [List.mem_singleton] at hstatus
  have hid : p.id = run₀.payrollPeriodId := Table.key_of_find? hp
  refine ⟨run₀, p, { p with status := .Finalized }, ?_⟩
  refine
    { runFound := by rwa [← Table.key_of_find? hrun] at hrun
      periodFound := by rwa [← Table.key_of_find? hp] at hp
      ofPeriod := hid.symm
      ofPeriod' := hid.symm
      change := ?_
      runs := rfl
      periods := rfl
      others := ((OthersKept.finalizePayslips run₀.id db).saveRun _).savePeriod _ }
  rw [hstatus, hprocessing]
  exact .finalize

theorem cancel_spec (h : Commits (cancel id companyId) db run db')
    (hperiodOf : ∀ r ∈ db.runs.rows, ∃ p, db.periods.find? r.payrollPeriodId = some p) :
    ∃ run₀ period period', Moved db db' run₀ run period period' := by
  simp only [cancel, commits_bind, commits_modify] at h
  obtain ⟨run₀, _, hfind, _, _, rfl, h⟩ := h
  obtain ⟨hrun, hstatus, rfl⟩ := findRun_spec hfind
  have hrunId : run₀.id = id := Table.key_of_find? hrun
  have hself : db.runs.find? run₀.id = some run₀ := by
    rw [hrunId]
    exact hrun
  by_cases hcalculated : run₀.status = .Calculated
  · rw [if_pos hcalculated] at h
    simp only [commits_bind, commits_pure] at h
    obtain ⟨_, _, hrevert, rfl, rfl⟩ := h
    obtain ⟨p, hp, hcases⟩ := PayrollPeriodsService.revertToOpen_spec hrevert
    have hid : p.id = run₀.payrollPeriodId := Table.key_of_find? hp
    have hpself : db.periods.find? p.id = some p := by
      rw [hid]
      exact hp
    rcases hcases with ⟨hstatus, rfl⟩ | ⟨hstatus, rfl⟩
    · refine ⟨run₀, p, p, hself, hpself, hid.symm, hid.symm, ?_, rfl,
        (Table.save_of_find? hpself).symm, (OthersKept.refl _ db).saveRun _⟩
      rw [hcalculated]
      exact .cancelLeft _ hstatus
    · refine ⟨run₀, p, { p with status := .Open }, hself, hpself, hid.symm, hid.symm, ?_, rfl, rfl,
        ((OthersKept.refl _ db).saveRun _).savePeriod _⟩
      rw [hcalculated, hstatus]
      exact .cancelCalculated
  · rw [if_neg hcalculated, commits_pure] at h
    obtain ⟨rfl, rfl⟩ := h
    obtain ⟨p, hp⟩ := hperiodOf run₀ (Table.mem_of_find? hrun)
    have hid : p.id = run₀.payrollPeriodId := Table.key_of_find? hp
    have hpself : db.periods.find? p.id = some p := by
      rw [hid]
      exact hp
    refine ⟨run₀, p, p, hself, hpself, hid.symm, hid.symm, ?_, rfl,
      (Table.save_of_find? hpself).symm, (OthersKept.refl _ db).saveRun _⟩
    have hdraft : run₀.status = .Draft := by simpa [hcalculated] using hstatus
    rw [hdraft]
    exact .cancelDraft _

end

end PayrollRunsService

section

variable {rounding : Rounding} {db db' : PayrollDb} {request : Request}

theorem effect_of_step (hwf : WellFormed db) (hs : (machine rounding).step db request = some db') :
    Effect db request db' := by
  rcases serial_cases hs with ⟨rfl, -⟩ | ⟨u, hcommits⟩
  · exact .rejected request
  · cases request with
    | createPeriod companyId userId dto =>
      obtain ⟨period, hperiod⟩ := (commits_void _ _ _ _).1 hcommits
      obtain ⟨hid, hopen, counters, rfl⟩ := PayrollPeriodsService.create_spec hperiod
      exact .opened companyId userId dto period counters hid hopen
    | cancelPeriod id companyId userId scan =>
      obtain ⟨period, hperiod⟩ := (commits_void _ _ _ _).1 hcommits
      obtain ⟨p, hfound, hcompany, hstatus, hseen, rfl, rfl⟩ :=
        PayrollPeriodsService.cancel_iff.1 hperiod
      exact .periodCancelled id companyId userId scan p hfound hcompany hstatus hseen
    | createRun companyId userId payrollPeriodId =>
      obtain ⟨run, hrun⟩ := (commits_void _ _ _ _).1 hcommits
      exact PayrollRunsService.create_spec hrun
    | calculateRun =>
      obtain ⟨run, hrun⟩ := (commits_void _ _ _ _).1 hcommits
      obtain ⟨run₀, period, period', hmoved⟩ := PayrollRunsService.calculate_spec hrun
      exact .moved _ _ run₀ run period period' hmoved
    | finalizeRun =>
      obtain ⟨run, hrun⟩ := (commits_void _ _ _ _).1 hcommits
      obtain ⟨run₀, period, period', hmoved⟩ := PayrollRunsService.finalize_spec hrun
      exact .moved _ _ run₀ run period period' hmoved
    | cancelRun =>
      obtain ⟨run, hrun⟩ := (commits_void _ _ _ _).1 hcommits
      obtain ⟨run₀, period, period', hmoved⟩ := PayrollRunsService.cancel_spec hrun hwf.periodOf
      exact .moved _ _ run₀ run period period' hmoved

/-! ## What holds in any case -/

theorem WellFormed.run_fresh (h : WellFormed db) : db.runs.find? db.nextId = none :=
  Table.find?_eq_none.2 fun r hr => Nat.ne_of_lt (h.runIds r hr)

theorem WellFormed.period_fresh (h : WellFormed db) : db.periods.find? db.nextId = none :=
  Table.find?_eq_none.2 fun p hp => Nat.ne_of_lt (h.periodIds p hp)

theorem find_period_save {periods : Table PayrollPeriod} {p : PayrollPeriod} {id : Uuid}
    (h : ∃ x, periods.find? id = some x) : ∃ x, (periods.save p).find? id = some x := by
  rw [Table.find?_save]
  split
  · exact ⟨p, rfl⟩
  · exact h

theorem Effect.wellFormed (h : WellFormed db) (he : Effect db request db') : WellFormed db' := by
  cases he with
  | rejected => exact h
  | opened companyId userId dto period counters hid hopen =>
    have hlt : db.nextId < db.nextId + 1 := Nat.lt_succ_self _
    refine ⟨Table.forall_save (fun p hp => Nat.lt_trans (h.periodIds p hp) hlt) ?_,
      fun r hr => Nat.lt_trans (h.runIds r hr) hlt,
      fun s hs => Nat.lt_trans (h.payslipIds s hs) hlt,
      fun r hr => find_period_save (h.periodOf r hr), h.settled⟩
    exact hid ▸ hlt
  | periodCancelled id companyId userId scan period hfound =>
    refine ⟨Table.forall_save h.periodIds ?_, h.runIds, h.payslipIds,
      fun r hr => find_period_save (h.periodOf r hr), h.settled⟩
    exact h.periodIds period (Table.mem_of_find? hfound)
  | drafted companyId userId payrollPeriodId run period counters hid hof hdraft hfound =>
    have hlt : db.nextId < db.nextId + 1 := Nat.lt_succ_self _
    refine ⟨fun p hp => Nat.lt_trans (h.periodIds p hp) hlt,
      Table.forall_save (fun r hr => Nat.lt_trans (h.runIds r hr) hlt) (hid ▸ hlt),
      fun s hs => Nat.lt_trans (h.payslipIds s hs) hlt,
      Table.forall_save h.periodOf ⟨period, hof ▸ hfound⟩,
      Table.forall_save h.settled (by rw [hdraft]; nofun)⟩
  | moved _ _ run run' period period' hmoved =>
    have hrunId : run.id = run'.id := Table.key_of_find? hmoved.runFound
    have hperiodId : period.id = period'.id := Table.key_of_find? hmoved.periodFound
    have hle := hmoved.others.nextId
    refine ⟨?_, ?_, hmoved.others.fresh h.payslipIds, ?_, ?_⟩
    · rw [hmoved.periods]
      refine Table.forall_save (fun p hp => Nat.lt_of_lt_of_le (h.periodIds p hp) hle) ?_
      exact hperiodId ▸
        Nat.lt_of_lt_of_le (h.periodIds period (Table.mem_of_find? hmoved.periodFound)) hle
    · rw [hmoved.runs]
      refine Table.forall_save (fun r hr => Nat.lt_of_lt_of_le (h.runIds r hr) hle) ?_
      exact hrunId ▸ Nat.lt_of_lt_of_le (h.runIds run (Table.mem_of_find? hmoved.runFound)) hle
    · rw [hmoved.runs, hmoved.periods]
      refine Table.forall_save (fun r hr => find_period_save (h.periodOf r hr)) ?_
      exact find_period_save ⟨period, hmoved.ofPeriod' ▸ hmoved.periodFound⟩
    · rw [hmoved.runs]
      exact Table.forall_save h.settled hmoved.change.settled

theorem Effect.finalKept (h : WellFormed db) (he : Effect db request db') : FinalKept db db' := by
  intro id run hrun hfinal
  cases he with
  | rejected => exact ⟨hrun, rfl, fun _ _ => rfl⟩
  | opened => exact ⟨hrun, rfl, fun _ _ => rfl⟩
  | periodCancelled => exact ⟨hrun, rfl, fun _ _ => rfl⟩
  | drafted companyId userId payrollPeriodId run' period counters hid =>
    refine ⟨?_, rfl, fun _ _ => rfl⟩
    show (db.runs.save run').find? id = some run
    rw [Table.find?_save_ne, hrun]
    rintro rfl
    rw [show key run' = db.nextId from hid, h.run_fresh] at hrun
    cases hrun
  | moved _ _ run₀ run' period period' hmoved =>
    have hne : id ≠ run'.id := by
      rintro rfl
      rw [hmoved.runFound] at hrun
      rw [← Option.some.inj hrun] at hfinal
      exact hmoved.change.from_live.2 hfinal
    refine ⟨?_, hmoved.others.payslips h.payslipIds id hne, fun payslip hpayslip => ?_⟩
    · rw [hmoved.runs, Table.find?_save_ne _ _ _ hne.symm, hrun]
    · exact hmoved.others.items _ (h.payslipIds payslip (List.mem_of_mem_filter hpayslip))

theorem FinalKept.refl (db : PayrollDb) : FinalKept db db :=
  fun _ _ hrun _ => ⟨hrun, rfl, fun _ _ => rfl⟩

theorem FinalKept.trans {db₁ : PayrollDb} (h : FinalKept db db₁) (h' : FinalKept db₁ db') :
    FinalKept db db' := by
  intro id run hrun hfinal
  obtain ⟨hrun₁, hpayslips, hitems⟩ := h id run hrun hfinal
  obtain ⟨hrun', hpayslips', hitems'⟩ := h' id run hrun₁ hfinal
  refine ⟨hrun', hpayslips'.trans hpayslips, fun payslip hpayslip => ?_⟩
  rw [hitems' payslip (hpayslips ▸ hpayslip), hitems payslip hpayslip]

/-! ## Periods and runs that agree -/

theorem coupled_iff {r : Option PayrollRunStatus} : Coupled p r ↔
    (p = .Processing ↔ r = some .Calculated) ∧ (p = .Finalized ↔ r = some .Finalized) ∧
      r ≠ some .Processing ∧ r ≠ some .Cancelled := by
  constructor
  · intro h
    cases h <;> simp
  · rintro ⟨hprocessing, hfinalized, hsettled, hlive⟩
    cases p <;> rcases r with _ | _ | _ | _ | _ | _ <;> simp at hprocessing hfinalized hsettled hlive
    case Open.none => exact .idle
    case Open.some.Draft => exact .drafted
    case Processing.some.Calculated => exact .processing
    case Finalized.some.Finalized => exact .finalized
    case Cancelled.none => exact .cancelled
    case Cancelled.some.Draft => exact .leftDraft

theorem Active.map_status {runs : Table PayrollRun} {periodId : Uuid} {active : Option PayrollRun}
    (h : Active runs periodId active) (status : PayrollRunStatus) (hlive : status ≠ .Cancelled) :
    active.map (·.status) = some status ↔
      ∃ r ∈ runs.rows, r.payrollPeriodId = periodId ∧ r.status = status := by
  rw [Option.map_eq_some_iff]
  constructor
  · rintro ⟨r, hr, hstatus⟩
    obtain ⟨hmem, hof, -⟩ := (h r).1 hr
    exact ⟨r, hmem, hof, hstatus⟩
  · rintro ⟨r, hmem, hof, hstatus⟩
    exact ⟨r, h.unique hmem hof (hstatus ▸ hlive), hstatus⟩

theorem consistent_of_coupling (hwf : WellFormed db) (h : Coupling db.periods db.runs) :
    Consistent db where
  oneActive r hr r' hr' hsame hlive hlive' := by
    obtain ⟨p, hp⟩ := hwf.periodOf r hr
    obtain ⟨active, hactive, -⟩ := h p (Table.mem_of_find? hp)
    have hid : r.payrollPeriodId = p.id := (Table.key_of_find? hp).symm
    have hone := hactive.unique hr hid hlive
    have hone' := hactive.unique hr' (hsame.symm.trans hid) hlive'
    exact Option.some.inj (hone.symm.trans hone')
  processing p hp := by
    obtain ⟨active, hactive, hpair⟩ := h p hp
    rw [(coupled_iff.1 hpair).1, hactive.map_status .Calculated nofun]
  finalized p hp := by
    obtain ⟨active, hactive, hpair⟩ := h p hp
    rw [(coupled_iff.1 hpair).2.1, hactive.map_status .Finalized nofun]
  cancelled p hp hcancelled r hr hof := by
    obtain ⟨active, hactive, hpair⟩ := h p hp
    obtain ⟨hprocessing, hfinalized, -⟩ := coupled_iff.1 hpair
    constructor
    · intro hstatus
      have hsome := (hactive.map_status .Calculated nofun).2 ⟨r, hr, hof, hstatus⟩
      rw [hprocessing.2 hsome] at hcancelled
      cases hcancelled
    · intro hstatus
      have hsome := (hactive.map_status .Finalized nofun).2 ⟨r, hr, hof, hstatus⟩
      rw [hfinalized.2 hsome] at hcancelled
      cases hcancelled

theorem coupling_of_consistent (hwf : WellFormed db) (h : Consistent db) :
    Coupling db.periods db.runs := by
  intro p hp
  obtain ⟨active, hactive⟩ : ∃ active, Active db.runs p.id active := by
    by_cases hsome : ∃ r ∈ db.runs.rows, r.payrollPeriodId = p.id ∧ r.status ≠ .Cancelled
    · obtain ⟨r, hr, hof, hlive⟩ := hsome
      refine ⟨some r, fun x => ⟨?_, fun ⟨hx, hxof, hxlive⟩ => ?_⟩⟩
      · rintro ⟨⟩
        exact ⟨hr, hof, hlive⟩
      · rw [h.oneActive r hr x hx (hof.trans hxof.symm) hlive hxlive]
    · exact ⟨none, fun x => ⟨nofun, fun hx => absurd ⟨x, hx⟩ hsome⟩⟩
  refine ⟨active, hactive, coupled_iff.2 ⟨?_, ?_, ?_, ?_⟩⟩
  · rw [h.processing p hp, hactive.map_status .Calculated nofun]
  · rw [h.finalized p hp, hactive.map_status .Finalized nofun]
  · rw [ne_eq, hactive.map_status .Processing nofun]
    rintro ⟨r, hr, -, hstatus⟩
    exact hwf.settled r hr hstatus
  · rw [ne_eq, Option.map_eq_some_iff]
    rintro ⟨r, hr, hstatus⟩
    exact ((hactive r).1 hr).2.2 hstatus

theorem WellFormed.active_fresh (h : WellFormed db) : Active db.runs db.nextId none := by
  refine fun r => ⟨nofun, fun ⟨hr, hof, _⟩ => ?_⟩
  obtain ⟨p, hp⟩ := h.periodOf r hr
  rw [hof, h.period_fresh] at hp
  cases hp

theorem Coupling.not_draft (h : Coupling db.periods db.runs) {period : PayrollPeriod}
    {id : Uuid} (hfound : db.periods.find? id = some period) (hprocessing : period.status = .Processing)
    {run : PayrollRun} (hrun : run ∈ db.runs.rows) (hof : run.payrollPeriodId = id) :
    run.status ≠ .Draft := by
  intro hdraft
  obtain ⟨active, hactive, hpair⟩ := h period (Table.mem_of_find? hfound)
  have hid : period.id = id := Table.key_of_find? hfound
  obtain rfl := hactive.unique hrun (hof.trans hid.symm) (by rw [hdraft]; nofun)
  rw [hprocessing, Option.map_some, hdraft] at hpair
  cases hpair

theorem Effect.coupling (hwf : WellFormed db) (h : Coupling db.periods db.runs)
    (hsees : SeesActiveRun db request) (he : Effect db request db') :
    Coupling db'.periods db'.runs := by
  cases he with
  | rejected => exact h
  | opened companyId userId dto period counters hid hopen =>
    refine Table.forall_save h ⟨none, ?_, ?_⟩
    · rw [hid]
      exact hwf.active_fresh
    · rw [hopen]
      exact .idle
  | periodCancelled id companyId userId scan period hfound hcompany hstatus hseen =>
    have hid : period.id = id := Table.key_of_find? hfound
    refine h.save_period (p := period) (by rw [← hid] at hfound; exact hfound) fun active hpair => ?_
    rcases hstatus with hopen | hprocessing
    · rw [hopen] at hpair
      cases hpair with
      | idle => exact .cancelled
      | drafted => exact .leftDraft
    · -- The guard has let a run through that is neither a draft nor cancelled.
      obtain ⟨r, hr, hof, -⟩ := ((consistent_of_coupling hwf h).processing period
        (Table.mem_of_find? hfound)).1 hprocessing
      obtain ⟨run, hrun⟩ := Option.isSome_iff_exists.1
        (PayrollDb.findOneRun_isSome scan hr (hof.trans hid))
      obtain ⟨hmem, hrunOf⟩ := PayrollDb.mem_of_findOneRun hrun
      rcases hseen run hrun with hcancelled | hdraft
      · exact absurd hcancelled (hsees period hfound hcompany hprocessing run hrun)
      · exact absurd hdraft (h.not_draft hfound hprocessing hmem hrunOf)
  | drafted companyId userId payrollPeriodId run period counters hid hof hdraft hfound hopen hnone =>
    refine h.draft (hof ▸ hfound) hopen hdraft ?_ (hof ▸ hnone)
    rw [hid]
    exact hwf.run_fresh
  | moved _ _ run run' period period' hmoved =>
    rw [hmoved.runs, hmoved.periods]
    exact h.change hmoved.runFound hmoved.periodFound hmoved.ofPeriod hmoved.ofPeriod' hmoved.change

theorem seesActiveRun_of_consistent (h : Consistent db)
    (hs : (machine rounding).step db request = some db') (h' : Consistent db') :
    SeesActiveRun db request := by
  cases request with
  | cancelPeriod id companyId userId scan =>
    intro period hfound hcompany hprocessing run hrun hcancelled
    have hcommits : Commits (Request.call rounding (.cancelPeriod id companyId userId scan)) db ()
        (db.savePeriod { period with status := .Cancelled, updatedBy := some userId }) := by
      refine (commits_void _ _ _ _).2 ⟨_, PayrollPeriodsService.cancel_iff.2
        ⟨period, hfound, hcompany, .inr hprocessing, fun r hr => ?_, rfl, rfl⟩⟩
      rw [← Option.some.inj (hrun.symm.trans hr)]
      exact .inl hcancelled
    rw [serial_commits hs hcommits] at h'
    obtain ⟨r, hr, hof, hcalculated⟩ := (h.processing period (Table.mem_of_find? hfound)).1 hprocessing
    exact (h'.cancelled _ ((Table.mem_save _ _ _).2 (.inl rfl)) rfl r hr hof).1 hcalculated
  | _ => trivial

/-- When payroll periods and their runs agree, over any requests one after the other: in
every state, exactly when no cancellation of a period in processing looks at a cancelled run
instead of the calculated one. A finalized run, its payslips and their items are the same in
every later state, whatever the requests. -/
theorem payroll_consistent_iff {ls : List Request} (hwf : WellFormed db) (h : Consistent db)
    (hrun : (machine rounding).Run db ls db') :
    ((∀ ks, ks <+: ls → ∀ db₁, (machine rounding).Run db ks db₁ → Consistent db₁) ↔
      (machine rounding).RunWith SeesActiveRun db ls db') ∧
    ∀ ks ks', ks ++ ks' <+: ls → ∀ db₁ db₂, (machine rounding).Run db ks db₁ →
      (machine rounding).Run db₁ ks' db₂ → FinalKept db₁ db₂ := by
  constructor
  · refine Machine.prefixes_iff_runWith (I := fun db => WellFormed db ∧ Consistent db)
      (fun db request db' hI hsees hs => ?_) (fun _ hI => hI.2)
      (fun _ _ _ hI hs h' => seesActiveRun_of_consistent hI.2 hs h') ⟨hwf, h⟩ hrun
    have heffect := effect_of_step hI.1 hs
    have hwf' := heffect.wellFormed hI.1
    exact ⟨hwf', consistent_of_coupling hwf'
      (heffect.coupling hI.1 (coupling_of_consistent hI.1 hI.2) hsees)⟩
  · rw [Machine.relates_iff_steps FinalKept.refl (fun _ _ _ => FinalKept.trans) hrun]
    refine (Machine.steps_iff_runWith (I := WellFormed) (C := fun _ _ => True)
      (fun db request db' hI _ hs => ?_) (fun _ _ _ _ _ _ => trivial) hwf hrun).2 hrun
    have heffect := effect_of_step hI hs
    exact ⟨heffect.wellFormed hI, heffect.finalKept hI⟩

/-! ## What is paid -/

/-- No period is paid by two runs, and one that was paid takes no other. -/
structure PaidOnce (db : PayrollDb) : Prop where
  oneActive : ∀ r ∈ db.runs.rows, ∀ r' ∈ db.runs.rows, r.payrollPeriodId = r'.payrollPeriodId →
    r.status ≠ .Cancelled → r'.status ≠ .Cancelled → r = r'
  closed : ∀ r ∈ db.runs.rows, r.status = .Finalized →
    ∀ p ∈ db.periods.rows, p.id = r.payrollPeriodId → p.status = .Finalized

theorem PaidOnce.save_run (h : PaidOnce db) {run : PayrollRun}
    (halone : ∀ r ∈ db.runs.rows, r.id ≠ run.id → r.payrollPeriodId = run.payrollPeriodId →
      r.status = .Cancelled) :
    ∀ r ∈ (db.runs.save run).rows, ∀ r' ∈ (db.runs.save run).rows,
      r.payrollPeriodId = r'.payrollPeriodId → r.status ≠ .Cancelled → r'.status ≠ .Cancelled →
        r = r' := by
  intro r hr r' hr' hsame hlive hlive'
  rcases (Table.mem_save _ _ _).1 hr with rfl | ⟨hold, hne⟩
  · rcases (Table.mem_save _ _ _).1 hr' with rfl | ⟨hold', hne'⟩
    · rfl
    · exact absurd (halone r' hold' hne' hsame.symm) hlive'
  · rcases (Table.mem_save _ _ _).1 hr' with rfl | ⟨hold', hne'⟩
    · exact absurd (halone r hold hne hsame) hlive
    · exact h.oneActive r hold r' hold' hsame hlive hlive'

theorem Effect.paidOnce (hwf : WellFormed db) (h : PaidOnce db) (he : Effect db request db') :
    PaidOnce db' := by
  cases he with
  | rejected => exact h
  | opened companyId userId dto period counters hid =>
    refine ⟨h.oneActive, fun r hr hfinal p hp hof => ?_⟩
    rcases (Table.mem_save _ _ _).1 hp with rfl | ⟨hold, -⟩
    · -- The id is new, so no run is of the period.
      obtain ⟨_, hfound⟩ := hwf.periodOf r hr
      rw [← hof, hid, hwf.period_fresh] at hfound
      cases hfound
    · exact h.closed r hr hfinal p hold hof
  | periodCancelled id companyId userId scan period hfound hcompany hstatus =>
    refine ⟨h.oneActive, fun r hr hfinal p hp hof => ?_⟩
    rcases (Table.mem_save _ _ _).1 hp with rfl | ⟨hold, -⟩
    · have hclosed := h.closed r hr hfinal period (Table.mem_of_find? hfound) hof
      rw [hclosed] at hstatus
      rcases hstatus with hopen | hprocessing
      · cases hopen
      · cases hprocessing
    · exact h.closed r hr hfinal p hold hof
  | drafted companyId userId payrollPeriodId run period counters hid hof hdraft hfound hopen hnone =>
    refine ⟨h.save_run fun r hr _ hsame => hnone r hr (hsame.trans hof), fun r hr hfinal => ?_⟩
    rcases (Table.mem_save _ _ _).1 hr with rfl | ⟨hold, -⟩
    · rw [hdraft] at hfinal
      cases hfinal
    · exact h.closed r hold hfinal
  | moved _ _ run run' period period' hmoved =>
    obtain ⟨hlive, hopen⟩ := hmoved.change.from_live
    -- The run that changes is the only one of its period.
    have halone : ∀ r ∈ db.runs.rows, r.id ≠ run'.id → r.payrollPeriodId = period'.id →
        r.status = .Cancelled := by
      intro r hr hne hof
      by_contra hother
      have hsame := h.oneActive run (Table.mem_of_find? hmoved.runFound) r hr
        (hmoved.ofPeriod.trans hof.symm) hlive hother
      exact hne (hsame ▸ Table.key_of_find? hmoved.runFound)
    refine ⟨?_, ?_⟩
    · rw [hmoved.runs]
      exact h.save_run fun r hr hne hof => halone r hr hne (hof.trans hmoved.ofPeriod')
    · rw [hmoved.runs, hmoved.periods]
      intro r hr hfinal p hp hof
      rcases (Table.mem_save _ _ _).1 hr with rfl | ⟨hold, hne⟩
      · rcases (Table.mem_save _ _ _).1 hp with rfl | ⟨-, hpne⟩
        · exact hmoved.change.closes hfinal
        · exact absurd (hof.trans hmoved.ofPeriod') hpne
      · rcases (Table.mem_save _ _ _).1 hp with rfl | ⟨holdP, -⟩
        · rw [halone r hold hne hof.symm] at hfinal
          cases hfinal
        · exact h.closed r hold hfinal p holdP hof

/-- No period is paid twice, also where the guard of `cancel` for a period is passed by: over any
requests one after the other a period has at most one run that is not cancelled, it is `FINALIZED`
for good once that run is, and every run is of a period that exists and none is in `PROCESSING`. -/
theorem runs_paidOnce {ls : List Request} (hwf : WellFormed db) (h : PaidOnce db)
    (hrun : (machine rounding).Run db ls db') :
    PaidOnce db' ∧ ∀ r ∈ db'.runs.rows,
      (∃ p, db'.periods.find? r.payrollPeriodId = some p) ∧ r.status ≠ .Processing := by
  obtain ⟨hwf', hpaid⟩ := hrun.invariant (I := fun db => WellFormed db ∧ PaidOnce db) ⟨hwf, h⟩
    fun _ _ _ hI _ hs =>
      have heffect := effect_of_step hI.1 hs
      ⟨heffect.wellFormed hI.1, heffect.paidOnce hI.1 hI.2⟩
  exact ⟨hpaid, fun r hr => ⟨hwf'.periodOf r hr, hwf'.settled r hr⟩⟩

end

/-! A company with one employee. -/

namespace PayrollDemo

def rounding : Rounding where
  percentageOf baseSalaryCents percentage := (baseSalaryCents * percentage + 500000) / 1000000
  dailyRate baseSalaryCents workingDays := (2 * baseSalaryCents + workingDays) / (2 * workingDays)

def company : PayrollDb where
  companies := .ofRows [{ id := 1, status := .Active, baseCurrency := "MMK" }]
  nextId := 100

def tables : PayrollTables where
  configurations := [{ companyId := 1 }]
  employees :=
    [{ id := 3, userId := none, companyId := 1, branchId := 2, employeeCode := "E-3"
       displayName := "Aye", status := .Active }]
  compensations :=
    [{ id := 4, companyId := 1, employeeId := 3, effectiveFrom := ⟨2026, 1, 1⟩, effectiveTo := none
       baseSalary := 50000000, currency := "MMK", payFrequency := .Monthly, createdBy := none
       updatedBy := none }]

def august : PayrollPeriodsService.CreatePayrollPeriodDto where
  name := "August 2026"
  startDate := dateText ⟨2026, 8, 1⟩
  endDate := dateText ⟨2026, 8, 31⟩
  payDate := dateText ⟨2026, 9, 5⟩

def payday : Instant := { date := ⟨2026, 9, 1⟩, millis := 0 }

def monthEnd : List Request :=
  [.createPeriod 1 9 august, .createRun 1 9 100, .calculateRun 101 1 tables payday payday,
    .finalizeRun 101 1 9 payday]

def secondTry : List Request :=
  [.createPeriod 1 9 august, .createRun 1 9 100, .cancelRun 101 1, .createRun 1 9 100,
    .calculateRun 102 1 tables payday payday, .cancelPeriod 100 1 9 0]

theorem company_wellFormed : WellFormed company where
  periodIds _ h := (List.not_mem_nil h).elim
  runIds _ h := (List.not_mem_nil h).elim
  payslipIds _ h := (List.not_mem_nil h).elim
  periodOf _ h := (List.not_mem_nil h).elim
  settled _ h := (List.not_mem_nil h).elim

theorem company_consistent : Consistent company where
  oneActive _ h := (List.not_mem_nil h).elim
  processing _ h := (List.not_mem_nil h).elim
  finalized _ h := (List.not_mem_nil h).elim
  cancelled _ h := (List.not_mem_nil h).elim

end PayrollDemo

open PayrollDemo in
theorem payroll_consistent_iff_month_end : ∃ db, (machine rounding).Run company monthEnd db ∧
    (∃ run, db.runs.find? 101 = some run ∧ run.status = .Finalized ∧ run.totalNetPay = 50000000) ∧
    ((∀ ks, ks <+: monthEnd → ∀ db₁, (machine rounding).Run company ks db₁ → Consistent db₁) ↔
      (machine rounding).RunWith SeesActiveRun company monthEnd db) ∧
    ∀ ks ks', ks ++ ks' <+: monthEnd → ∀ db₁ db₂, (machine rounding).Run company ks db₁ →
      (machine rounding).Run db₁ ks' db₂ → FinalKept db₁ db₂ := by
  obtain ⟨db, hrun, hfinal⟩ := Machine.exists_runWith (machine rounding) (fun _ _ => True) company
    monthEnd (fun db => (db.runs.find? 101).any fun run =>
      run.status = .Finalized && run.totalNetPay = 50000000) (by decide +kernel)
  obtain ⟨run, hfound, hrow⟩ := (Option.any_eq_true _ _).1 hfinal
  rw [Bool.and_eq_true, decide_eq_true_eq, decide_eq_true_eq] at hrow
  exact ⟨db, hrun, ⟨run, hfound, hrow⟩,
    payroll_consistent_iff company_wellFormed company_consistent hrun⟩

open PayrollDemo in
theorem cancelled_with_calculated_run :
    ¬ ∀ ls db, (machine rounding).Run company ls db → Consistent db := by
  intro hall
  obtain ⟨db, hrun, hend⟩ := Machine.exists_runWith (machine rounding) (fun _ _ => True) company
    secondTry (fun db => (db.periods.find? 100).any fun p => p.status = .Cancelled &&
      (db.runs.find? 102).any fun r => r.payrollPeriodId = p.id && r.status = .Calculated)
      (by decide +kernel)
  obtain ⟨p, hp, hrow⟩ := (Option.any_eq_true _ _).1 hend
  rw [Bool.and_eq_true, decide_eq_true_eq] at hrow
  obtain ⟨r, hr, hcalculated⟩ := (Option.any_eq_true _ _).1 hrow.2
  rw [Bool.and_eq_true, decide_eq_true_eq, decide_eq_true_eq] at hcalculated
  exact ((hall _ db hrun).cancelled p (Table.mem_of_find? hp) hrow.1 r (Table.mem_of_find? hr)
    hcalculated.1).1 hcalculated.2

open PayrollDemo in
theorem runs_paidOnce_second_try : ∃ db, (machine rounding).Run company secondTry db ∧
    db.runs.rows.length = 2 ∧ PaidOnce db := by
  obtain ⟨db, hrun, hdb⟩ := Machine.exists_runWith (machine rounding) (fun _ _ => True) company
    secondTry (fun db => db.runs.rows.length = 2) (by decide +kernel)
  have hstart : PaidOnce company := ⟨(nofun), (nofun)⟩
  exact ⟨db, hrun, of_decide_eq_true hdb, (runs_paidOnce company_wellFormed hstart hrun).1⟩

end FashionErp.Payroll
