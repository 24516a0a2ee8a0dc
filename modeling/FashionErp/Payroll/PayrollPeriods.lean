/-
`PayrollPeriodsService`.

`cancel` refuses a period with a calculated or finalized run, but it looks at one run of the
period only, in no order, and a period may have cancelled runs besides.
-/
import FashionErp.Payroll.PayrollDb

namespace FashionErp.Payroll

open Lib Lib.Tx Hr

/-- `randomUUID()`. -/
def drawId : PayrollTx Uuid := do
  let db ← get
  set { db with nextId := db.nextId + 1 }
  return db.nextId

def generateNumber (numberPrefix : String) (counters : PayrollDb → Table PayrollCounter)
    (put : PayrollDb → Table PayrollCounter → PayrollDb) (companyId : Uuid) (year : ℕ) :
    PayrollTx String := do
  let db ← get
  let nextSequence := (((counters db).find? (companyId, year)).map (·.lastSequence)).getD 0 + 1
  set (put db ((counters db).save { companyId, year, lastSequence := nextSequence }))
  return formatDocumentNumber numberPrefix year nextSequence

/-- `getUTCFullYear` of milliseconds since 1970: 400 years have 146097 days. -/
def fullYear (time : ℤ) : ℤ :=
  let days := time / 86400000 + 719468
  let dayOfEra := days % 146097
  let yearOfEra := (dayOfEra - dayOfEra / 1460 + dayOfEra / 36524 - dayOfEra / 146096) / 365
  let dayOfYear := dayOfEra - (365 * yearOfEra + yearOfEra / 4 - yearOfEra / 100)
  -- These years start in March.
  days / 146097 * 400 + yearOfEra + if 306 ≤ dayOfYear then 1 else 0

example : fullYear (DateOnly.daysSinceEpoch ⟨2026, 12, 31⟩ * 86400000) = 2026 ∧
    fullYear (DateOnly.daysSinceEpoch ⟨2028, 1, 1⟩ * 86400000) = 2028 := by decide

/-- The `year` a period is numbered in; there is none of an invalid date. -/
def startYear? (date : DateText) : Option ℕ :=
  date.getTime.map fun time => (fullYear time).toNat

namespace PayrollPeriodsService

structure CreatePayrollPeriodDto where
  name : String
  startDate : DateText
  endDate : DateText
  payDate : DateText

def generatePeriodNumber : Uuid → ℕ → PayrollTx String :=
  generateNumber "PP" (·.periodCounters) fun db counters => { db with periodCounters := counters }

def create (companyId userId : Uuid) (dto : CreatePayrollPeriodDto) : PayrollTx PayrollPeriod := do
  validateDateRange (some dto.startDate) (some dto.endDate)
  rejectIf (dto.endDate.isAfter dto.payDate)
    (appException .ValidationError "payDate must be on or after endDate")
  let company ← reads fun db => (db.companies.find? companyId).filter fun c =>
    c.status = .Active && !c.deleted
  let _company ← orReject company
    (appException .ValidationError "companyId does not reference an active company")
  let existing ← reads fun db => db.periods.rows.find? fun p => p.companyId = companyId &&
    p.startDate = dto.startDate.day && p.endDate = dto.endDate.day
  rejectIf existing.isSome (appException .Conflict
    "A payroll period with this exact date range already exists for this company")
  -- The database refuses `NaN` as the year of a counter.
  let year ← orReject (startYear? dto.startDate) .typeError
  let periodNumber ← generatePeriodNumber companyId year
  let id ← drawId
  let entity : PayrollPeriod :=
    { id, companyId, periodNumber
      name := dto.name
      startDate := dto.startDate.day
      endDate := dto.endDate.day
      payDate := dto.payDate.day
      status := .Open
      createdBy := userId
      updatedBy := some userId }
  modify fun db => db.savePeriod entity
  return entity

def cancel (id companyId userId : Uuid) (scan : ℕ) : PayrollTx PayrollPeriod := do
  let entity ← reads fun db => (db.periods.find? id).filter (·.companyId = companyId)
  let entity ← orReject entity (appException .NotFound "Payroll period not found")
  rejectIf (entity.status ≠ .Open ∧ entity.status ≠ .Processing)
    (appException .UnprocessableEntity
      s!"Cannot cancel a payroll period in status {entity.status.text}")
  let activeRun ← reads fun db => db.findOneRun id scan
  rejectIf (∃ run ∈ activeRun, run.status ≠ .Cancelled ∧ run.status ≠ .Draft)
    (appException .Conflict
      "Cannot cancel a payroll period with a calculated or finalized payroll run; cancel the run first")
  let entity := { entity with status := .Cancelled, updatedBy := some userId }
  modify fun db => db.savePeriod entity
  return entity

/-- A change of status that needs another one: what `markProcessing` and `markFinalized` do. -/
def mark (verb : String) (needs next : PayrollPeriodStatus) (id : Uuid) :
    PayrollTx PayrollPeriod := do
  let entity ← reads fun db => db.periods.find? id
  let entity ← orReject entity (appException .NotFound "Payroll period not found")
  rejectIf (entity.status ≠ needs) (appException .UnprocessableEntity
    s!"Cannot {verb} a payroll period in status {entity.status.text}")
  let entity := { entity with status := next }
  modify fun db => db.savePeriod entity
  return entity

def markProcessing : Uuid → PayrollTx PayrollPeriod := mark "start processing" .Open .Processing

def markFinalized : Uuid → PayrollTx PayrollPeriod := mark "finalize" .Processing .Finalized

def revertToOpen (id : Uuid) : PayrollTx PayrollPeriod := do
  let entity ← reads fun db => db.periods.find? id
  let entity ← orReject entity (appException .NotFound "Payroll period not found")
  if entity.status ≠ .Processing then return entity
  else
    let entity := { entity with status := .Open }
    modify fun db => db.savePeriod entity
    return entity

/-! ## What they do -/

section

variable {db db' : PayrollDb} {period : PayrollPeriod} {id companyId userId : Uuid}

theorem create_spec {dto : CreatePayrollPeriodDto}
    (h : Commits (create companyId userId dto) db period db') :
    period.id = db.nextId ∧ period.status = .Open ∧
      ∃ counters, db' = { db with
        periods := db.periods.save period
        periodCounters := counters
        nextId := db.nextId + 1 } := by
  simp only [create, generatePeriodNumber, generateNumber, drawId, commits_bind, commits_liftM,
    commits_rejectIf, commits_reads, commits_orReject, commits_get, commits_set, commits_modify,
    commits_pure] at h
  obtain ⟨_, _, ⟨-, rfl⟩, _, _, ⟨-, rfl⟩, _, _, ⟨-, rfl⟩, _, _, ⟨-, rfl⟩, _, _, ⟨-, rfl⟩, _, _,
    ⟨-, rfl⟩, year, _, ⟨-, rfl⟩, _, _, ⟨_, _, ⟨rfl, rfl⟩, _, _, rfl, -, rfl⟩, _, _,
    ⟨_, _, ⟨rfl, rfl⟩, _, _, rfl, rfl, rfl⟩, _, _, rfl, rfl, rfl⟩ := h
  exact ⟨rfl, rfl, _, rfl⟩

theorem cancel_iff {scan : ℕ} : Commits (cancel id companyId userId scan) db period db' ↔
    ∃ p, db.periods.find? id = some p ∧ p.companyId = companyId ∧
      (p.status = .Open ∨ p.status = .Processing) ∧
      (∀ run ∈ db.findOneRun id scan, run.status = .Cancelled ∨ run.status = .Draft) ∧
      period = { p with status := .Cancelled, updatedBy := some userId } ∧
      db' = db.savePeriod period := by
  simp only [cancel, commits_bind, commits_reads, commits_orReject, commits_rejectIf,
    commits_modify, commits_pure]
  constructor
  · rintro ⟨_, _, ⟨rfl, rfl⟩, p, _, ⟨hp, rfl⟩, _, _, ⟨hstatus, rfl⟩, _, _, ⟨rfl, rfl⟩, _, _,
      ⟨hruns, rfl⟩, _, _, rfl, rfl, rfl⟩
    rw [Option.filter_eq_some_iff] at hp
    refine ⟨p, hp.1, by simpa using hp.2, by tauto, fun run hrun => ?_, rfl, rfl⟩
    by_contra hne
    exact hruns ⟨run, hrun, not_or.1 hne⟩
  · rintro ⟨p, hp, hcompany, hstatus, hruns, rfl, rfl⟩
    refine ⟨_, db, ⟨rfl, rfl⟩, p, db, ⟨?_, rfl⟩, ⟨⟩, db, ⟨by tauto, rfl⟩, _, db, ⟨rfl, rfl⟩, ⟨⟩, db,
      ⟨?_, rfl⟩, ⟨⟩, _, rfl, rfl, rfl⟩
    · exact Option.filter_eq_some_iff.2 ⟨hp, by simpa using hcompany⟩
    · rintro ⟨run, hrun, hcancelled, hdraft⟩
      exact (hruns run hrun).elim hcancelled hdraft

theorem mark_spec {verb : String} {needs next : PayrollPeriodStatus}
    (h : Commits (mark verb needs next id) db period db') :
    ∃ p, db.periods.find? id = some p ∧ p.status = needs ∧ period = { p with status := next } ∧
      db' = db.savePeriod period := by
  simp only [mark, commits_bind, commits_reads, commits_orReject, commits_rejectIf,
    commits_modify, commits_pure] at h
  obtain ⟨_, _, ⟨rfl, rfl⟩, p, _, ⟨hp, rfl⟩, _, _, ⟨hstatus, rfl⟩, _, _, rfl, rfl, rfl⟩ := h
  exact ⟨p, hp, not_not.1 hstatus, rfl, rfl⟩

theorem revertToOpen_spec (h : Commits (revertToOpen id) db period db') :
    ∃ p, db.periods.find? id = some p ∧
      (p.status ≠ .Processing ∧ db' = db ∨
        p.status = .Processing ∧ db' = db.savePeriod { p with status := .Open }) := by
  simp only [revertToOpen, commits_bind, commits_reads, commits_orReject] at h
  obtain ⟨_, _, ⟨rfl, rfl⟩, p, _, ⟨hp, rfl⟩, h⟩ := h
  refine ⟨p, hp, ?_⟩
  by_cases hstatus : p.status = .Processing
  · rw [if_neg (not_not.2 hstatus)] at h
    simp only [commits_bind, commits_modify, commits_pure] at h
    obtain ⟨_, _, rfl, -, rfl⟩ := h
    exact .inr ⟨hstatus, rfl⟩
  · rw [if_pos hstatus, commits_pure] at h
    exact .inl ⟨hstatus, h.2.symm⟩

end

end PayrollPeriodsService

end FashionErp.Payroll
