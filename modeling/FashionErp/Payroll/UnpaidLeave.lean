/-
What unpaid leave costs: the requests `LeaveRequestsService` lets through, the days
`resolveUnpaidLeaveDays` counts of them, and the deduction `calculate` makes of the days.

Nothing keeps two requests of an employee apart, and each counts its own days: a day that two
of them cover is deducted twice.
-/
import FashionErp.Hr.LeaveRequests
import FashionErp.Lib.Serial
import FashionErp.Payroll.Payslips
import Mathlib.Algebra.BigOperators.Group.Finset.Piecewise
import Mathlib.Algebra.Order.BigOperators.Group.Finset
import Mathlib.Data.Int.Interval
import Mathlib.Tactic.Ring

namespace FashionErp.Payroll

open Lib Lib.Tx Hr

/-! ## The requests -/

/-- A leave type with what `create` looks for. -/
structure CompanyLeaveType extends LeaveType where
  companyId : Uuid
  isActive : Bool

instance : Keyed CompanyLeaveType Uuid := ⟨fun t => t.id⟩

structure LeaveStore extends LeaveDb where
  types : Table CompanyLeaveType := .empty
  nextId : Uuid := 0

structure CreateLeaveRequestDto where
  employeeId : Uuid
  leaveTypeId : Uuid
  fromDate : DateText
  toDate : DateText
  reason : Option String := none

namespace LeaveRequestsService

def save (leaveRequest : LeaveRequest) : Tx LeaveStore Failure Unit :=
  modify fun db => { db with leaveRequests := db.leaveRequests.save leaveRequest }

/-- The employee `create` finds; a `companyId` that is not given is not looked at. -/
def findEmployee (actorUserId : Uuid) (companyId : Option Uuid) (employeeId : Uuid) (ownOnly : Bool)
    (db : LeaveStore) : Option Hr.Employee :=
  (db.employees.find? employeeId).filter fun employee =>
    if ownOnly then employee.userId = some actorUserId
    else companyId.all fun id => employee.companyId = id

def create (actorUserId : Uuid) (companyId : Option Uuid) (dto : CreateLeaveRequestDto)
    (ownOnly : Bool) : Tx LeaveStore Failure LeaveRequest := do
  liftM (validateDateRange (some dto.fromDate) (some dto.toDate))
  let employee ← reads (findEmployee actorUserId companyId dto.employeeId ownOnly)
  let employee ← orReject employee (appException .ValidationError
    (if ownOnly then "employeeId does not reference your employee record"
    else "employeeId does not reference an employee in the specified company"))
  rejectIf (ownOnly ∧ employee.userId ≠ some actorUserId) (appException .Forbidden
    "Own-scoped access can only create leave requests for the current employee")
  let leaveType ← reads fun db => (db.types.find? dto.leaveTypeId).filter fun t =>
    t.companyId = employee.companyId && t.isActive
  let leaveType ← orReject leaveType (appException .ValidationError
    "leaveTypeId does not reference an active leave type in this company")
  let id ← reads (·.nextId)
  modify fun db => { db with nextId := db.nextId + 1 }
  let entity : LeaveRequest :=
    { id
      employeeId := employee.id
      companyId := employee.companyId
      branchId := employee.branchId
      leaveTypeId := leaveType.id
      fromDate := dto.fromDate.day
      toDate := dto.toDate.day
      reason := dto.reason }
  save entity
  return entity

def update (id userId companyId : Uuid) (dto : UpdateLeaveRequestDto) (ownOnly : Bool) :
    Tx LeaveStore Failure LeaveRequest := do
  let entity ← reads fun db =>
    Hr.LeaveRequestsService.findById id userId companyId ownOnly db.toLeaveDb
  let entity ← liftM entity
  let entity ← liftM (Hr.LeaveRequestsService.applyUpdate dto entity)
  save entity
  return entity

/-- `approve`, `reject` and `cancel`. -/
def decide (decision : Hr.LeaveRequestsService.Decision) (id actorUserId companyId : Uuid) :
    Tx LeaveStore Failure LeaveRequest := do
  let entity ← reads fun db => (db.leaveRequests.find? id).filter (·.companyId = companyId)
  let entity ← orReject entity (appException .NotFound "Leave request not found")
  let decided ← reads fun db => decision.apply actorUserId db.toLeaveDb entity
  let entity ← liftM decided
  save entity
  return entity

end LeaveRequestsService

inductive LeaveCall
  | create (actorUserId : Uuid) (companyId : Option Uuid) (dto : CreateLeaveRequestDto)
      (ownOnly : Bool)
  | update (id userId companyId : Uuid) (dto : UpdateLeaveRequestDto) (ownOnly : Bool)
  | decide (decision : Hr.LeaveRequestsService.Decision) (id actorUserId companyId : Uuid)

def LeaveCall.call : LeaveCall → Tx LeaveStore Failure Unit
  | create actorUserId companyId dto ownOnly =>
    void (LeaveRequestsService.create actorUserId companyId dto ownOnly)
  | update id userId companyId dto ownOnly =>
    void (LeaveRequestsService.update id userId companyId dto ownOnly)
  | decide decision id actorUserId companyId =>
    void (LeaveRequestsService.decide decision id actorUserId companyId)

def leaveService : Machine LeaveStore LeaveCall := serial LeaveCall.call

def LeaveStore.tables (db : LeaveStore) : PayrollTables where
  leaveRequests := db.leaveRequests.rows
  leaveTypes := .ofRows (db.types.rows.map (·.toLeaveType))

/-! ## The calendar -/

def isLeapYear (year : ℕ) : Prop := year % 4 = 0 ∧ (year % 100 ≠ 0 ∨ year % 400 = 0)

instance (year : ℕ) : Decidable (isLeapYear year) := inferInstanceAs (Decidable (_ ∧ _))

def daysInMonth (year month : ℕ) : ℕ :=
  if month = 2 then (if isLeapYear year then 29 else 28)
  else if month = 4 ∨ month = 6 ∨ month = 9 ∨ month = 11 then 30
  else 31

/-- A day of the calendar, as every value of a `DATE` column is. -/
structure IsDay (d : DateOnly) : Prop where
  month : 1 ≤ d.month ∧ d.month ≤ 12
  day : 1 ≤ d.day ∧ d.day ≤ daysInMonth d.year d.month

instance (d : DateOnly) : Decidable (IsDay d) :=
  decidable_of_iff ((1 ≤ d.month ∧ d.month ≤ 12) ∧ 1 ≤ d.day ∧ d.day ≤ daysInMonth d.year d.month)
    ⟨fun h => ⟨h.1, h.2⟩, fun h => ⟨h.month, h.day⟩⟩

/-- The years of `daysSinceEpoch` start in March. -/
def marchYear (d : DateOnly) : ℤ := if d.month ≤ 2 then d.year - 1 else d.year

def marchDay (d : DateOnly) : ℤ :=
  (153 * (if d.month ≤ 2 then (d.month : ℤ) + 9 else d.month - 3) + 2) / 5 + d.day

def daysBefore (year : ℤ) : ℤ := year * 365 + year / 4 - year / 100 + year / 400

def leapDay (year : ℤ) : ℤ := if year % 4 = 0 ∧ (year % 100 ≠ 0 ∨ year % 400 = 0) then 1 else 0

theorem daysSinceEpoch_eq (d : DateOnly) :
    d.daysSinceEpoch = daysBefore (marchYear d) + marchDay d - 719469 := by
  unfold DateOnly.daysSinceEpoch daysBefore marchYear marchDay
  dsimp only
  omega

theorem daysBefore_succ (year : ℤ) :
    daysBefore (year + 1) = daysBefore year + 365 + leapDay (year + 1) := by
  unfold daysBefore leapDay
  split
  · omega
  · omega

theorem daysBefore_mono {a b : ℤ} (h : a ≤ b) : daysBefore a ≤ daysBefore b := by
  unfold daysBefore
  omega

theorem leapDay_bounds (year : ℤ) : 0 ≤ leapDay year ∧ leapDay year ≤ 1 := by
  unfold leapDay
  split <;> omega

theorem IsDay.day_le {d : DateOnly} (h : IsDay d) :
    d.day ≤ 31 ∧ (d.month = 4 ∨ d.month = 6 ∨ d.month = 9 ∨ d.month = 11 → d.day ≤ 30) ∧
      (d.month = 2 → (d.day : ℤ) ≤ 28 + leapDay d.year) := by
  obtain ⟨-, -, hday⟩ := h
  unfold daysInMonth at hday
  have hbounds := leapDay_bounds d.year
  split at hday
  · rename_i hfebruary
    split at hday
    · rename_i hleap
      have hlong : leapDay d.year = 1 := by
        unfold isLeapYear at hleap
        unfold leapDay
        rw [if_pos (by omega)]
      omega
    · omega
  · split at hday <;> omega

theorem marchDay_bounds {d : DateOnly} (h : IsDay d) :
    1 ≤ marchDay d ∧ marchDay d ≤ 365 + leapDay (marchYear d + 1) := by
  have hmonth := h.month
  have hday := h.day.1
  obtain ⟨hday_le, -, hfebruary_le⟩ := h.day_le
  unfold marchDay marchYear
  by_cases hearly : d.month ≤ 2
  · rw [if_pos hearly, if_pos hearly, show (d.year : ℤ) - 1 + 1 = d.year by omega]
    have hbounds := leapDay_bounds d.year
    omega
  · rw [if_neg hearly, if_neg hearly]
    have hbounds := leapDay_bounds ((d.year : ℤ) + 1)
    omega

variable {a b : DateOnly}

theorem marchDay_lt (ha : IsDay a) (hb : IsDay b) (hyear : marchYear a = marchYear b)
    (h : ¬ b ≤ a) : marchDay a < marchDay b := by
  have hlater : ¬ (b.year < a.year ∨ (b.year = a.year ∧
    (b.month < a.month ∨ (b.month = a.month ∧ b.day ≤ a.day)))) := h
  have ham := ha.month
  have hbm := hb.month
  have hbd := hb.day.1
  have had := ha.day_le
  have hbounds := leapDay_bounds a.year
  unfold marchYear at hyear
  unfold marchDay
  by_cases ha' : a.month ≤ 2
  · by_cases hb' : b.month ≤ 2
    · rw [if_pos ha', if_pos hb'] at *
      omega
    · rw [if_pos ha', if_neg hb'] at *
      omega
  · by_cases hb' : b.month ≤ 2
    · rw [if_neg ha', if_pos hb'] at *
      omega
    · rw [if_neg ha', if_neg hb'] at *
      have hmonths : a.month = 3 ∨ a.month = 4 ∨ a.month = 5 ∨ a.month = 6 ∨ a.month = 7 ∨
          a.month = 8 ∨ a.month = 9 ∨ a.month = 10 ∨ a.month = 11 ∨ a.month = 12 := by omega
      rcases hmonths with hm | hm | hm | hm | hm | hm | hm | hm | hm | hm <;> omega

/-- Days are counted in their order. -/
theorem daysSinceEpoch_lt (ha : IsDay a) (hb : IsDay b) (h : ¬ b ≤ a) :
    a.daysSinceEpoch < b.daysSinceEpoch := by
  rw [daysSinceEpoch_eq, daysSinceEpoch_eq]
  have hyear : marchYear a ≤ marchYear b := by
    have hlater : ¬ (b.year < a.year ∨ (b.year = a.year ∧
      (b.month < a.month ∨ (b.month = a.month ∧ b.day ≤ a.day)))) := h
    unfold marchYear
    split <;> split <;> omega
  rcases Int.lt_or_eq_of_le hyear with hlt | heq
  · have hbounds := marchDay_bounds ha
    have hbounds' := marchDay_bounds hb
    have hsucc := daysBefore_succ (marchYear a)
    have hmono := daysBefore_mono (show marchYear a + 1 ≤ marchYear b by omega)
    omega
  · have hday := marchDay_lt ha hb heq h
    rw [heq]
    omega

theorem daysSinceEpoch_le_iff (ha : IsDay a) (hb : IsDay b) :
    a.daysSinceEpoch ≤ b.daysSinceEpoch ↔ a ≤ b := by
  constructor
  · intro hle
    by_contra h
    have hlt := daysSinceEpoch_lt hb ha h
    omega
  · intro hle
    by_cases hge : b ≤ a
    · have heq : a = b := by
        have h₁ : a.year < b.year ∨ (a.year = b.year ∧
          (a.month < b.month ∨ (a.month = b.month ∧ a.day ≤ b.day))) := hle
        have h₂ : b.year < a.year ∨ (b.year = a.year ∧
          (b.month < a.month ∨ (b.month = a.month ∧ b.day ≤ a.day))) := hge
        obtain ⟨ay, am, ad⟩ := a
        obtain ⟨by', bm, bd⟩ := b
        dsimp only at h₁ h₂
        have hy : ay = by' := by omega
        have hm : am = bm := by omega
        have hd : ad = bd := by omega
        rw [hy, hm, hd]
      rw [heq]
    · exact (daysSinceEpoch_lt ha hb hge).le

/-! ## Days that are counted -/

def unpaidLeaves (tables : PayrollTables) (employeeId : Uuid) : List LeaveRequest :=
  tables.leaveRequests.filter fun leave => leave.employeeId = employeeId &&
    leave.status = .Approved && (tables.leaveTypes.find? leave.leaveTypeId).any (fun t => !t.isPaid)

def periodDays (periodStart periodEnd : DateOnly) : Finset ℤ :=
  @Finset.Icc ℤ Int.instLinearOrder.toPreorder Int.instLocallyFiniteOrder
    periodStart.daysSinceEpoch periodEnd.daysSinceEpoch

def covers (day : ℤ) (leave : LeaveRequest) : Bool :=
  leave.fromDate.daysSinceEpoch ≤ day && day ≤ leave.toDate.daysSinceEpoch

def coverage (tables : PayrollTables) (employeeId : Uuid) (day : ℤ) : ℕ :=
  (unpaidLeaves tables employeeId).countP (covers day)

def coveredDays (tables : PayrollTables) (employeeId : Uuid) (periodStart periodEnd : DateOnly) :
    Finset ℤ :=
  (periodDays periodStart periodEnd).filter fun day => 0 < coverage tables employeeId day

section Counting

variable {α : Type} (days : Finset ℤ) (on : ℤ → α → Bool)

theorem sum_card_eq_sum_countP (xs : List α) :
    (xs.map fun x => (days.filter fun day => on day x).card).sum =
      ∑ day ∈ days, xs.countP (on day) := by
  induction xs with
  | nil => simp
  | cons x xs ih =>
    rw [List.map_cons, List.sum_cons, ih, Finset.card_filter, ← Finset.sum_add_distrib]
    refine Finset.sum_congr rfl fun day _ => ?_
    rw [List.countP_cons, Nat.add_comm]

theorem sum_le_card_iff (count : ℤ → ℕ) :
    ∑ day ∈ days, count day ≤ (days.filter fun day => 0 < count day).card ↔
      ∀ day ∈ days, count day ≤ 1 := by
  have hterm : ∀ day, (if 0 < count day then 1 else 0) ≤ count day := by
    intro day
    split <;> omega
  rw [Finset.card_filter]
  constructor
  · intro hle day hday
    by_contra htwice
    have hlt : ∑ day ∈ days, (if 0 < count day then 1 else 0) < ∑ day ∈ days, count day := by
      refine Finset.sum_lt_sum (fun day _ => hterm day) ⟨day, hday, ?_⟩
      rw [if_pos (by omega)]
      omega
    omega
  · intro honce
    refine Finset.sum_le_sum fun day hday => ?_
    have hday := honce day hday
    split <;> omega

theorem sum_eq_card {count : ℤ → ℕ} (h : ∀ day ∈ days, count day ≤ 1) :
    ∑ day ∈ days, count day = (days.filter fun day => 0 < count day).card := by
  rw [Finset.card_filter]
  refine Finset.sum_congr rfl fun day hday => ?_
  have hday := h day hday
  split <;> omega

theorem sum_filter_and (p q : α → Bool) (f : α → ℤ) {xs : List α}
    (h : ∀ x ∈ xs, q x = false → f x = 0) :
    ((xs.filter fun x => p x && q x).map f).sum = ((xs.filter p).map f).sum := by
  induction xs with
  | nil => rfl
  | cons x xs ih =>
    have ih := ih fun y hy => h y (List.mem_cons_of_mem x hy)
    cases hp : p x with
    | false =>
      rw [List.filter_cons_of_neg (by rw [hp]; simp), List.filter_cons_of_neg (by rw [hp]; simp), ih]
    | true =>
      rw [List.filter_cons_of_pos (p := p) hp, List.map_cons, List.sum_cons, ← ih]
      cases hq : q x with
      | false =>
        rw [List.filter_cons_of_neg (by rw [hp, hq]; simp), h x List.mem_cons_self hq, zero_add]
      | true =>
        rw [List.filter_cons_of_pos (by rw [hp, hq]; rfl), List.map_cons, List.sum_cons]

end Counting

section Leave

variable {tables : PayrollTables} {employeeId : Uuid} {periodStart periodEnd : DateOnly}

theorem overlapDays_eq (hstart : IsDay periodStart) (hend : IsDay periodEnd) {leave : LeaveRequest}
    (hfrom : IsDay leave.fromDate) (hto : IsDay leave.toDate) :
    overlapDays periodStart periodEnd leave =
      (((periodDays periodStart periodEnd).filter fun day => covers day leave).card : ℤ) := by
  have hdays : ((periodDays periodStart periodEnd).filter fun day => covers day leave) =
      Finset.Icc (max periodStart.daysSinceEpoch leave.fromDate.daysSinceEpoch)
        (min periodEnd.daysSinceEpoch leave.toDate.daysSinceEpoch) := by
    ext day
    unfold periodDays covers
    simp only [Finset.mem_filter, Finset.mem_Icc, Bool.and_eq_true, decide_eq_true_eq]
    omega
  have hfirst := daysSinceEpoch_le_iff hstart hfrom
  have hlast := daysSinceEpoch_le_iff hto hend
  have hmax : (if periodStart ≤ leave.fromDate then leave.fromDate else periodStart).daysSinceEpoch =
      max periodStart.daysSinceEpoch leave.fromDate.daysSinceEpoch := by
    by_cases hle : periodStart ≤ leave.fromDate
    · rw [if_pos hle, max_eq_right (hfirst.2 hle)]
    · rw [if_neg hle, max_eq_left (daysSinceEpoch_lt hfrom hstart hle).le]
  have hmin : (if leave.toDate ≤ periodEnd then leave.toDate else periodEnd).daysSinceEpoch =
      min periodEnd.daysSinceEpoch leave.toDate.daysSinceEpoch := by
    by_cases hle : leave.toDate ≤ periodEnd
    · rw [if_pos hle, min_eq_right (hlast.2 hle)]
    · rw [if_neg hle, min_eq_left (daysSinceEpoch_lt hend hto hle).le]
  rw [hdays, Int.card_Icc]
  unfold overlapDays
  dsimp only
  rw [hmax, hmin]
  omega

theorem overlapDays_eq_zero (hstart : IsDay periodStart) (hend : IsDay periodEnd)
    {leave : LeaveRequest} (hfrom : IsDay leave.fromDate) (hto : IsDay leave.toDate)
    (houtside : ¬ (leave.fromDate ≤ periodEnd ∧ periodStart ≤ leave.toDate)) :
    overlapDays periodStart periodEnd leave = 0 := by
  rw [← daysSinceEpoch_le_iff hfrom hend, ← daysSinceEpoch_le_iff hstart hto] at houtside
  rw [overlapDays_eq hstart hend hfrom hto, Nat.cast_eq_zero, Finset.card_eq_zero,
    Finset.filter_eq_empty_iff]
  intro day hday
  unfold periodDays at hday
  rw [Finset.mem_Icc] at hday
  unfold covers
  simp only [Bool.and_eq_true, decide_eq_true_eq]
  omega

/-- Every day counts once for each request that covers it. -/
theorem resolveUnpaidLeaveDays_eq (hstart : IsDay periodStart) (hend : IsDay periodEnd)
    (hdates : ∀ leave ∈ tables.leaveRequests, IsDay leave.fromDate ∧ IsDay leave.toDate) :
    resolveUnpaidLeaveDays tables employeeId periodStart periodEnd =
      ((∑ day ∈ periodDays periodStart periodEnd, coverage tables employeeId day : ℕ) : ℤ) := by
  have hsum : resolveUnpaidLeaveDays tables employeeId periodStart periodEnd =
      ((unpaidLeaves tables employeeId).map (overlapDays periodStart periodEnd)).sum := by
    unfold resolveUnpaidLeaveDays unpaidLeaves
    refine Eq.trans ?_ (sum_filter_and _ (fun leave => leave.fromDate ≤ periodEnd &&
      periodStart ≤ leave.toDate) _ fun leave hleave houtside => ?_)
    · simp only [Bool.and_assoc]
    · obtain ⟨hfrom, hto⟩ := hdates leave hleave
      refine overlapDays_eq_zero hstart hend hfrom hto fun hinside => ?_
      rw [decide_eq_true hinside.1, decide_eq_true hinside.2] at houtside
      cases houtside
  have hcards : (unpaidLeaves tables employeeId).map (overlapDays periodStart periodEnd) =
      ((unpaidLeaves tables employeeId).map fun leave =>
        ((periodDays periodStart periodEnd).filter fun day => covers day leave).card).map
          (fun n : ℕ => (n : ℤ)) := by
    rw [List.map_map]
    refine List.map_congr_left fun leave hleave => ?_
    obtain ⟨hfrom, hto⟩ := hdates leave (List.mem_of_mem_filter hleave)
    exact overlapDays_eq hstart hend hfrom hto
  unfold coverage
  rw [hsum, hcards, ← sum_card_eq_sum_countP]
  exact (map_list_sum (Nat.castRingHom ℤ) _).symm

/-- Unpaid leave costs at most the salary: no more days are counted than leave is taken on,
and no more is deducted than there is. -/
structure CostsAtMostSalary (rounding : Rounding) (tables : PayrollTables)
    (config : PayrollConfiguration) (employeeId : Uuid) (periodStart periodEnd : DateOnly)
    (baseSalaryCents : Cents) : Prop where
  days : resolveUnpaidLeaveDays tables employeeId periodStart periodEnd ≤
    (coveredDays tables employeeId periodStart periodEnd).card
  deduction : ∀ item ∈ unpaidLeaveItem rounding config
    (resolveUnpaidLeaveDays tables employeeId periodStart periodEnd) baseSalaryCents,
      item.amount ≤ baseSalaryCents

/-- `Math.round` of the quotient of two integers. -/
def roundQuotient (cents : Cents) (divisor : ℕ) : Cents := (2 * cents + divisor) / (2 * divisor)

theorem roundQuotient_mul_le_iff {base : Cents} {workingDays : ℕ} (hpos : 0 < workingDays) {days : ℤ}
    (hdays : 0 < days) :
    roundQuotient base workingDays * days ≤ base ↔
      2 * base < workingDays * (2 * (base / days) + 1) := by
  unfold roundQuotient
  rw [← Int.le_ediv_iff_mul_le hdays, ← Int.lt_add_one_iff,
    Int.ediv_lt_iff_lt_mul (by omega)]
  have hexpand : (base / days + 1) * (2 * (workingDays : ℤ)) =
      workingDays * (2 * (base / days) + 1) + workingDays := by ring
  rw [hexpand]
  exact add_lt_add_iff_right _

def CoveredOnce (tables : PayrollTables) (employeeId : Uuid) (periodStart periodEnd : DateOnly) :
    Prop :=
  ∀ day ∈ periodDays periodStart periodEnd, coverage tables employeeId day ≤ 1

def RateFits (base : Cents) (workingDays : ℕ) (days : ℕ) : Prop :=
  days = 0 ∨ 2 * base < workingDays * (2 * (base / days) + 1)

/-- When unpaid leave costs at most the salary: when no day is covered twice, and the rate
of a working day is not too high for the days of the calendar that are covered. -/
theorem unpaid_leave_iff {tables : PayrollTables} {periodStart periodEnd : DateOnly}
    (hstart : IsDay periodStart) (hend : IsDay periodEnd)
    (hdates : ∀ leave ∈ tables.leaveRequests, IsDay leave.fromDate ∧ IsDay leave.toDate)
    {workingDays : ℕ} (hworking : 0 < workingDays) (percentageOf : Cents → ℤ → Cents)
    (companyId employeeId : Uuid) (base : Cents) :
    CostsAtMostSalary { percentageOf, dailyRate := roundQuotient } tables
        { companyId, unpaidLeaveCalculation := .DailyRate, workingDaysPerMonth := some workingDays }
        employeeId periodStart periodEnd base ↔
      CoveredOnce tables employeeId periodStart periodEnd ∧
        RateFits base workingDays (coveredDays tables employeeId periodStart periodEnd).card := by
  have hcount : resolveUnpaidLeaveDays tables employeeId periodStart periodEnd = _ :=
    resolveUnpaidLeaveDays_eq hstart hend hdates
  have honce : resolveUnpaidLeaveDays tables employeeId periodStart periodEnd ≤
      (coveredDays tables employeeId periodStart periodEnd).card ↔
        CoveredOnce tables employeeId periodStart periodEnd := by
    rw [hcount, Nat.cast_le]
    exact sum_le_card_iff _ _
  have hdeduction : CoveredOnce tables employeeId periodStart periodEnd →
      ((∀ item ∈ unpaidLeaveItem { percentageOf, dailyRate := roundQuotient }
        { companyId, unpaidLeaveCalculation := .DailyRate, workingDaysPerMonth := some workingDays }
        (resolveUnpaidLeaveDays tables employeeId periodStart periodEnd) base, item.amount ≤ base) ↔
        RateFits base workingDays (coveredDays tables employeeId periodStart periodEnd).card) := by
    intro h
    rw [hcount, sum_eq_card _ h]
    change (∀ item ∈ unpaidLeaveItem _ _
      ((coveredDays tables employeeId periodStart periodEnd).card : ℤ) base, _) ↔ _
    unfold unpaidLeaveItem RateFits
    dsimp only
    rcases Nat.eq_zero_or_pos (coveredDays tables employeeId periodStart periodEnd).card with
      hnone | hsome
    · rw [hnone, if_neg (by omega)]
      constructor
      · intro _
        exact .inl rfl
      · intro _ item hitem
        cases hitem
    · rw [if_pos (by omega), ← roundQuotient_mul_le_iff hworking (by omega)]
      constructor
      · intro hle
        exact .inr (hle _ rfl)
      · rintro (hnone | hle) item hitem
        · omega
        · cases hitem
          exact hle
  constructor
  · intro h
    have hcovered := honce.1 h.days
    exact ⟨hcovered, (hdeduction hcovered).1 h.deduction⟩
  · rintro ⟨hcovered, hfits⟩
    exact ⟨honce.2 hcovered, (hdeduction hcovered).2 hfits⟩

end Leave

namespace LeaveDemo

def store : LeaveStore where
  employees := .ofRows
    [{ id := 3, userId := some 30, companyId := 1, branchId := 2 },
     { id := 4, userId := some 40, companyId := 1, branchId := 2 }]
  types := .ofRows [{ id := 7, isPaid := false, companyId := 1, isActive := true }]
  nextId := 100

def firstDay : DateOnly := ⟨2026, 8, 1⟩
def lastDay : DateOnly := ⟨2026, 8, 31⟩
def noon : Instant := { date := ⟨2026, 7, 30⟩, millis := 43200000 }

def request (fromDate toDate : DateOnly) : LeaveCall :=
  .create 30 none
    { employeeId := 3, leaveTypeId := 7, fromDate := dateText fromDate, toDate := dateText toDate } true

def approve (id : Uuid) : LeaveCall := .decide (.approve noon) id 40 1

def twice : List LeaveCall :=
  [request ⟨2026, 8, 3⟩ ⟨2026, 8, 12⟩, request ⟨2026, 8, 8⟩ ⟨2026, 8, 12⟩, approve 100, approve 101]

def wholeMonth : List LeaveCall := [request firstDay lastDay, approve 100]

def rounding : Rounding where
  percentageOf baseSalaryCents percentage := (baseSalaryCents * percentage + 500000) / 1000000
  dailyRate := roundQuotient

def config (workingDays : ℕ) : PayrollConfiguration where
  companyId := 1
  unpaidLeaveCalculation := .DailyRate
  workingDaysPerMonth := some workingDays

end LeaveDemo

open LeaveDemo in
theorem unpaid_leave_iff_august : ∃ db, leaveService.Run store [request ⟨2026, 8, 3⟩ ⟨2026, 8, 12⟩,
      approve 100] db ∧ resolveUnpaidLeaveDays db.tables 3 firstDay lastDay = 10 ∧
    (CostsAtMostSalary rounding db.tables (config 22) 3 firstDay lastDay 50000000 ↔
      CoveredOnce db.tables 3 firstDay lastDay ∧
        RateFits 50000000 22 (coveredDays db.tables 3 firstDay lastDay).card) := by
  obtain ⟨db, hrun, hend⟩ := Machine.exists_runWith leaveService (fun _ _ => True) store
    [request ⟨2026, 8, 3⟩ ⟨2026, 8, 12⟩, approve 100]
    (fun db => resolveUnpaidLeaveDays db.tables 3 firstDay lastDay = 10 &&
      db.tables.leaveRequests.all fun leave => IsDay leave.fromDate && IsDay leave.toDate)
    (by decide +kernel)
  rw [Bool.and_eq_true, decide_eq_true_eq, List.all_eq_true] at hend
  refine ⟨db, hrun, hend.1, unpaid_leave_iff (by decide) (by decide) (fun leave hleave => ?_)
    (by decide) _ 1 3 50000000⟩
  simpa using hend.2 leave hleave

open LeaveDemo in
theorem unpaid_leave_exceeds :
    (¬ ∀ ls db, leaveService.Run store ls db →
      CostsAtMostSalary rounding db.tables (config 31) 3 firstDay lastDay 50000000) ∧
    ¬ ∀ ls db, leaveService.Run store ls db → CoveredOnce db.tables 3 firstDay lastDay →
      CostsAtMostSalary rounding db.tables (config 22) 3 firstDay lastDay 50000000 := by
  constructor
  · intro hall
    obtain ⟨db, hrun, hend⟩ := Machine.exists_runWith leaveService (fun _ _ => True) store twice
      (fun db => (coveredDays db.tables 3 firstDay lastDay).card <
        resolveUnpaidLeaveDays db.tables 3 firstDay lastDay) (by decide +kernel)
    rw [decide_eq_true_eq] at hend
    have hdays := (hall twice db hrun).days
    omega
  · intro hall
    obtain ⟨db, hrun, hend⟩ := Machine.exists_runWith leaveService (fun _ _ => True) store wholeMonth
      (fun db => (List.range 31).all (fun i =>
          coverage db.tables 3 (firstDay.daysSinceEpoch + i) ≤ 1) &&
        (unpaidLeaveItem rounding (config 22)
          (resolveUnpaidLeaveDays db.tables 3 firstDay lastDay) 50000000).any
            fun item => 50000000 < item.amount) (by decide +kernel)
    rw [Bool.and_eq_true, List.all_eq_true] at hend
    obtain ⟨item, hitem, hamount⟩ := (Option.any_eq_true _ _).1 hend.2
    rw [decide_eq_true_eq] at hamount
    have honce : CoveredOnce db.tables 3 firstDay lastDay := by
      intro day hday
      unfold periodDays at hday
      rw [Finset.mem_Icc] at hday
      have hfirst : firstDay.daysSinceEpoch = 20666 := by decide
      have hlast : lastDay.daysSinceEpoch = 20696 := by decide
      have hcovered := hend.1 (day - firstDay.daysSinceEpoch).toNat (List.mem_range.2 (by omega))
      rw [decide_eq_true_eq, Int.toNat_of_nonneg (by omega), add_sub_cancel] at hcovered
      exact hcovered
    have hle := (hall wholeMonth db hrun honce).deduction item hitem
    exact absurd hle (not_le.2 hamount)

end FashionErp.Payroll
