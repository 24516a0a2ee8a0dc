/-
`hr/services/leave-requests.service.ts`: updates and decisions of leave requests.

`approve`, `reject` and `cancel` lock the request, check that it is PENDING and write
their decision under the lock.
-/
import FashionErp.Hr.Entities
import FashionErp.Lib.Column
import FashionErp.Lib.SaveEntity

namespace FashionErp.Hr

open Lib

structure LeaveDb where
  employees : Table Employee := .empty
  leaveRequests : Table LeaveRequest := .empty

/-- A field of an update: `undefined`, `null` or a value. -/
abbrev Patch (α : Type) := Option (Option α)

structure UpdateLeaveRequestDto where
  fromDate : Patch DateText := none
  toDate : Patch DateText := none
  reason : Patch String := none

namespace LeaveRequestsService

/-! ## The service -/

/-- `findById`, as `update` calls it: `allowedBranchIds` is not given. -/
def findById (id userId companyId : Uuid) (ownOnly : Bool) (db : LeaveDb) :
    Except Failure LeaveRequest :=
  let found := (db.leaveRequests.find? id).filter fun leaveRequest =>
    (db.employees.find? leaveRequest.employeeId).any fun employee =>
      if ownOnly then employee.userId = some userId else leaveRequest.companyId = companyId
  match found with
  | some entity => pure entity
  | none => throw (appException .NotFound "Leave request not found")

/-- `if (date !== undefined) field = date.slice(0, 10)`. -/
def sliceDate (date : Patch DateText) (field : DateOnly) : Except Failure DateOnly :=
  match date with
  | none => pure field
  | some none => throw .typeError
  | some (some date) => pure date.day

/-- `reason?.trim() || null`. -/
def trimReason (reason : Option String) : Option String :=
  (reason.map trim).filter (· ≠ "")

/-- What `update` makes of the entity it has read. -/
def applyUpdate (dto : UpdateLeaveRequestDto) (entity : LeaveRequest) :
    Except Failure LeaveRequest := do
  if entity.status ≠ .Pending then
    throw (appException .Conflict "Only pending leave requests can be updated")
  let nextFromDate := (dto.fromDate.getD none).getD (dateText entity.fromDate)
  let nextToDate := (dto.toDate.getD none).getD (dateText entity.toDate)
  validateDateRange (some nextFromDate) (some nextToDate)
  let fromDate ← sliceDate dto.fromDate entity.fromDate
  let toDate ← sliceDate dto.toDate entity.toDate
  return { entity with
    fromDate
    toDate
    reason := match dto.reason with
      | none => entity.reason
      | some reason => trimReason reason }

/-- What `approve` and `reject` make of the request they have locked. -/
def transition (actorUserId : Uuid) (status : LeaveRequestStatus) (now : Instant) (db : LeaveDb)
    (entity : LeaveRequest) : Except Failure LeaveRequest := do
  let employee := db.employees.find? entity.employeeId
  if employee.bind (·.userId) = some actorUserId then
    throw (appException .Forbidden "Employees cannot approve or reject their own leave requests")
  if entity.status ≠ .Pending then
    throw (appException .Conflict "Only pending leave requests can be approved or rejected")
  return { entity with
    status
    decisionAt := some now
    cancelledAt := none
    approvedByUserId := if status = .Approved then some actorUserId else none
    rejectedByUserId := if status = .Approved then none else some actorUserId }

def cancel (actorUserId : Uuid) (cancelledAt decisionAt : Instant) (db : LeaveDb)
    (entity : LeaveRequest) : Except Failure LeaveRequest := do
  let employee := db.employees.find? entity.employeeId
  if employee.bind (·.userId) ≠ some actorUserId then
    throw (appException .Forbidden "Only the owning employee can cancel this leave request")
  if entity.status ≠ .Pending then
    throw (appException .Conflict "Only pending leave requests can be cancelled")
  return { entity with
    status := .Cancelled
    cancelledAt := some cancelledAt
    decisionAt := some decisionAt }

/-- A decision, with the times its `new Date()`s give. -/
inductive Decision
  | approve (now : Instant)
  | reject (now : Instant)
  | cancel (cancelledAt decisionAt : Instant)

def Decision.apply (actorUserId : Uuid) (db : LeaveDb) (entity : LeaveRequest) :
    Decision → Except Failure LeaveRequest
  | approve now => transition actorUserId .Approved now db entity
  | reject now => transition actorUserId .Rejected now db entity
  | cancel cancelledAt decisionAt =>
    LeaveRequestsService.cancel actorUserId cancelledAt decisionAt db entity

/-- `save`: the row with the columns in which the entity differs from what was read. -/
def mergeLeaveRequest (entity seen row : LeaveRequest) : LeaveRequest where
  id := row.id
  employeeId := mergeCol entity.employeeId seen.employeeId row.employeeId
  companyId := mergeCol entity.companyId seen.companyId row.companyId
  branchId := mergeCol entity.branchId seen.branchId row.branchId
  leaveTypeId := mergeCol entity.leaveTypeId seen.leaveTypeId row.leaveTypeId
  fromDate := mergeCol entity.fromDate seen.fromDate row.fromDate
  toDate := mergeCol entity.toDate seen.toDate row.toDate
  reason := mergeCol entity.reason seen.reason row.reason
  status := mergeCol entity.status seen.status row.status
  approvedByUserId := mergeCol entity.approvedByUserId seen.approvedByUserId row.approvedByUserId
  rejectedByUserId := mergeCol entity.rejectedByUserId seen.rejectedByUserId row.rejectedByUserId
  decisionAt := mergeCol entity.decisionAt seen.decisionAt row.decisionAt
  cancelledAt := mergeCol entity.cancelledAt seen.cancelledAt row.cancelledAt

def leaveRow (id : Uuid) : RowAccess LeaveDb LeaveRequest where
  find db := db.leaveRequests.find? id
  put row db := { db with leaveRequests := db.leaveRequests.save row }
  merge := mergeLeaveRequest

/-! ## Requests beside each other -/

inductive Call
  | update (id userId companyId : Uuid) (dto : UpdateLeaveRequestDto) (ownOnly : Bool)
  | decide (decision : Decision) (id actorUserId companyId : Uuid)

inductive Phase
  | called
  | saving (p : SavePhase LeaveRequest)
  | locked (entity : LeaveRequest)
  /-- The decision is written and not committed yet. -/
  | decided (row : LeaveRequest)
  | returned
  | rejected (error : Failure)
  /-- The connection is lost. -/
  | aborted

inductive Label
  | read
  | save (l : SaveLabel)
  | lock
  | check
  | commit
  | abort

def protocol (call : ℕ → Call) : Protocol LeaveDb Uuid Phase Label := fun i l p db =>
  match call i, l, p with
  | .update id userId companyId dto ownOnly, .read, .called =>
    match findById id userId companyId ownOnly db >>= applyUpdate dto with
    | .ok entity => some (.goto (.saving (.changed entity)))
    | .error error => some (.leave (.rejected error))
  | .update id .., .save l, .saving p => (leaveRow id).saveMove id .saving .returned l p db
  | .decide _ id _ companyId, .lock, .called =>
    match (db.leaveRequests.find? id).filter (·.companyId = companyId) with
    | some entity => some (.acquire id (.locked entity))
    | none => some (.leave (.rejected (appException .NotFound "Leave request not found")))
  | .decide decision _ actorUserId _, .check, .locked entity =>
    match decision.apply actorUserId db entity with
    | .ok row => some (.goto (.decided row))
    | .error error => some (.leave (.rejected error))
  | .decide _ id .., .commit, .decided row => some (.commit ((leaveRow id).put row db) .returned)
  | _, .abort, .saving _ => some (.leave .aborted)
  | _, .abort, .locked _ => some (.leave .aborted)
  | _, .abort, .decided _ => some (.leave .aborted)
  | _, _, _ => none

def machine (call : ℕ → Call) : Machine (Shared LeaveDb Uuid Phase) (ℕ × Label) :=
  concurrent (protocol call)

/-! ## What is claimed -/

def IsPending (db : LeaveDb) (id : Uuid) : Prop :=
  ∃ r, db.leaveRequests.find? id = some r ∧ r.status = .Pending

instance (db : LeaveDb) (id : Uuid) : Decidable (IsPending db id) :=
  decidable_of_iff (∃ r ∈ db.leaveRequests.find? id, r.status = .Pending) Iff.rfl

def Final (db db' : LeaveDb) : Prop :=
  ∀ id r, db.leaveRequests.find? id = some r → r.status ≠ .Pending →
    ∃ r', db'.leaveRequests.find? id = some r' ∧ r'.status = r.status ∧
      r'.fromDate = r.fromDate ∧ r'.toDate = r.toDate

/-- The label commits a decision of leave request `id`. -/
def Decides (call : ℕ → Call) (id : Uuid) : ℕ × Label → Bool
  | (i, .commit) =>
    match call i with
    | .decide _ id' .. => id' = id
    | .update .. => false
  | _ => false

def decisions (call : ℕ → Call) (id : Uuid) (ls : List (ℕ × Label)) : ℕ :=
  ls.countP (Decides call id)

def undecided (db : LeaveDb) (id : Uuid) : ℕ := if IsPending db id then 1 else 0

def Untouched {α : Type} (entity seen row : α) : Prop := entity = seen ∨ entity = row

/-- A save that finds `row` leaves its decision alone. -/
def Spares (entity seen row : LeaveRequest) : Prop :=
  row.status = .Pending ∨ (Untouched entity.status seen.status row.status ∧
    Untouched entity.fromDate seen.fromDate row.fromDate ∧
      Untouched entity.toDate seen.toDate row.toDate)

instance {α : Type} [DecidableEq α] (entity seen row : α) :
    Decidable (Untouched entity seen row) :=
  inferInstanceAs (Decidable (_ ∨ _))

instance (entity seen row : LeaveRequest) : Decidable (Spares entity seen row) :=
  inferInstanceAs (Decidable (_ ∨ (_ ∧ _ ∧ _)))

/-- An update that is saved finds its request PENDING still, or writes no status and no
date. -/
def Respects (call : ℕ → Call) (s : Shared LeaveDb Uuid Phase) : ℕ × Label → Prop
  | (i, .save .commit) =>
    match call i, s.phase i with
    | .update id .., .saving (.updated entity seen _) =>
      ∀ row ∈ s.db.leaveRequests.find? id, Spares entity seen row
    | _, _ => True
  | _ => True

instance (call : ℕ → Call) (s : Shared LeaveDb Uuid Phase) (l : ℕ × Label) :
    Decidable (Respects call s l) := by
  unfold Respects
  split
  · split <;> infer_instance
  · infer_instance

/-! ## The service step by step -/

variable {entity : LeaveRequest} {s s' : Shared LeaveDb Uuid Phase} {l : ℕ × Label}
  {dto : UpdateLeaveRequestDto}

theorem applyUpdate_ok {first : LeaveRequest} (h : applyUpdate dto first = .ok entity) :
    first.status = .Pending ∧ entity.status = .Pending := by
  unfold applyUpdate at h
  by_cases hpending : first.status = .Pending
  · rw [if_neg (not_not.2 hpending)] at h
    dsimp only at h
    -- past the order of the dates and the two slices
    obtain ⟨_, -, h⟩ := except_bind_eq_ok.1 h
    obtain ⟨_, -, h⟩ := except_bind_eq_ok.1 h
    obtain ⟨_, -, h⟩ := except_bind_eq_ok.1 h
    cases h
    exact ⟨hpending, hpending⟩
  · rw [if_pos hpending] at h
    cases h

theorem findById_ok {id userId companyId : Uuid} {ownOnly : Bool} {db : LeaveDb}
    (h : findById id userId companyId ownOnly db = .ok entity) :
    db.leaveRequests.find? id = some entity := by
  unfold findById at h
  dsimp only at h
  split at h
  · rename_i hfound
    cases h
    exact (Option.filter_eq_some_iff.1 hfound).1
  · cases h

structure Decided (entity row : LeaveRequest) : Prop where
  pending : entity.status = .Pending
  id : row.id = entity.id
  status : row.status ≠ .Pending
  fromDate : row.fromDate = entity.fromDate
  toDate : row.toDate = entity.toDate

variable {actorUserId : Uuid}

theorem transition_ok {status : LeaveRequestStatus} {now : Instant}
    {db : LeaveDb} {row : LeaveRequest} (hstatus : status ≠ .Pending)
    (h : transition actorUserId status now db entity = .ok row) : Decided entity row := by
  unfold transition at h
  dsimp only at h
  split at h
  · cases h
  · by_cases hpending : entity.status = .Pending
    · rw [if_neg (not_not.2 hpending)] at h
      cases h
      exact ⟨hpending, rfl, hstatus, rfl, rfl⟩
    · rw [if_pos hpending] at h
      cases h

theorem cancel_ok {cancelledAt decisionAt : Instant} {db : LeaveDb}
    {row : LeaveRequest} (h : cancel actorUserId cancelledAt decisionAt db entity = .ok row) :
    Decided entity row := by
  unfold cancel at h
  dsimp only at h
  split at h
  · cases h
  · by_cases hpending : entity.status = .Pending
    · rw [if_neg (not_not.2 hpending)] at h
      cases h
      exact ⟨hpending, rfl, by rintro ⟨⟩, rfl, rfl⟩
    · rw [if_pos hpending] at h
      cases h

theorem Decision.apply_ok {decision : Decision} {db : LeaveDb}
    {row : LeaveRequest} (h : decision.apply actorUserId db entity = .ok row) :
    Decided entity row := by
  cases decision with
  | approve now => exact transition_ok (by decide) h
  | reject now => exact transition_ok (by decide) h
  | cancel cancelledAt decisionAt => exact cancel_ok h

/-! ## The invariant -/

def changed (dto : UpdateLeaveRequestDto) (first : LeaveRequest) : LeaveRequest :=
  { (applyUpdate dto first).toOption.getD first with status := .Pending }

theorem changed_of_ok {first : LeaveRequest}
    (h : applyUpdate dto first = .ok entity) : entity = changed dto first := by
  have hstatus := (applyUpdate_ok h).2
  rw [changed, h, Except.toOption, Option.getD_some, ← hstatus]

def PhaseOk (call : ℕ → Call) (held : Uuid → Prop) (db : LeaveDb) (i : ℕ) (p : Phase) : Prop :=
  match call i, p with
  | .update id _ _ dto _, .saving p =>
    SaveOk (leaveRow id) id (fun _ _ => True) (changed dto) held db p
  | .decide _ id .., .locked entity => held id ∧ db.leaveRequests.find? id = some entity
  | .decide _ id .., .decided row =>
    held id ∧ ∃ entity, db.leaveRequests.find? id = some entity ∧ Decided entity row
  | _, _ => True

theorem phaseOk_rejected (call : ℕ → Call) (held : Uuid → Prop) (db : LeaveDb) (i : ℕ)
    (error : Failure) : PhaseOk call held db i (.rejected error) := by
  unfold PhaseOk
  split <;> trivial

theorem phaseOk_aborted (call : ℕ → Call) (held : Uuid → Prop) (db : LeaveDb) (i : ℕ) :
    PhaseOk call held db i .aborted := by
  unfold PhaseOk
  split <;> trivial

/-! ## What a commit does -/

section

variable {call : ℕ → Call} {id : Uuid} {db : LeaveDb} {current row : LeaveRequest}

theorem find_put (hid : row.id = id) (j : Uuid) :
    ((leaveRow id).put row db).leaveRequests.find? j =
      if id = j then some row else db.leaveRequests.find? j := by
  have hkey : key row = id := hid
  show (db.leaveRequests.save row).find? j = _
  rw [Table.find?_save, hkey]

theorem merge_id (entity seen : LeaveRequest) (hfind : db.leaveRequests.find? id = some current) :
    (mergeLeaveRequest entity seen current).id = id := Table.key_of_find? hfind

/-- Writing `row` over `current` leaves a decision alone. -/
def KeepsDecision (current row : LeaveRequest) : Prop :=
  current.status ≠ .Pending →
    row.status = current.status ∧ row.fromDate = current.fromDate ∧ row.toDate = current.toDate

theorem final_put_iff (hid : row.id = id) (hfind : db.leaveRequests.find? id = some current) :
    Final db ((leaveRow id).put row db) ↔ KeepsDecision current row := by
  constructor
  · intro hfinal hdecided
    obtain ⟨r', hr', hkept⟩ := hfinal id current hfind hdecided
    rw [find_put hid, if_pos rfl] at hr'
    cases hr'
    exact hkept
  · intro hkeeps j r hr hdecided
    rw [find_put hid]
    by_cases hj : id = j
    · subst hj
      obtain rfl := Option.some.inj (hfind.symm.trans hr)
      exact ⟨row, if_pos rfl, hkeeps hdecided⟩
    · exact ⟨r, (if_neg hj).trans hr, rfl, rfl, rfl⟩

theorem mergeCol_eq_row_iff {α : Type} [DecidableEq α] {entity seen row : α} :
    mergeCol entity seen row = row ↔ Untouched entity seen row := by
  unfold mergeCol Untouched
  by_cases h : entity = seen
  · simp [h]
  · simp [h]

/-- The condition is exact for one save. -/
theorem keepsDecision_merge_iff {seen row : LeaveRequest} :
    KeepsDecision row (mergeLeaveRequest entity seen row) ↔ Spares entity seen row := by
  unfold KeepsDecision Spares
  rw [← mergeCol_eq_row_iff, ← mergeCol_eq_row_iff, ← mergeCol_eq_row_iff]
  by_cases h : row.status = .Pending
  · exact ⟨fun _ => .inl h, fun _ hdecided => absurd h hdecided⟩
  · exact ⟨fun hkeeps => .inr (hkeeps h), fun hspares _ => hspares.resolve_left h⟩

theorem merge_pending_iff {seen row : LeaveRequest} (hentity : entity.status = .Pending)
    (hspares : Spares entity seen row) :
    (mergeLeaveRequest entity seen row).status = .Pending ↔ row.status = .Pending := by
  show mergeCol entity.status seen.status row.status = .Pending ↔ _
  rcases hspares with hpending | ⟨hstatus, -⟩
  · rcases mergeCol_cases entity.status seen.status row.status with h | h
    · rw [h, hpending, hentity]
    · rw [h]
  · rw [mergeCol_eq_row_iff.2 hstatus]

theorem isPending_put_iff (hid : row.id = id) (j : Uuid) :
    IsPending ((leaveRow id).put row db) j ↔
      if id = j then row.status = .Pending else IsPending db j := by
  unfold IsPending
  rw [find_put hid]
  by_cases hj : id = j
  · rw [if_pos hj, if_pos hj]
    exact ⟨fun ⟨r, hr, h⟩ => Option.some.inj hr ▸ h, fun h => ⟨row, rfl, h⟩⟩
  · rw [if_neg hj, if_neg hj]

/-! ## Steps -/

inductive MoveCase (call : ℕ → Call) (held : Uuid → Prop) (db : LeaveDb) (i : ℕ) :
    Label → Phase → Move LeaveDb Uuid Phase → Prop
  | quiet {l p m} (hl : l ≠ .commit) (hok : Shared.MoveOk (fun _ => False) (PhaseOk call) held db i m) :
    MoveCase call held db i l p m
  | saved {id userId companyId dto ownOnly current entity seen row}
      (hcall : call i = .update id userId companyId dto ownOnly)
      (hfind : db.leaveRequests.find? id = some current) (hheld : held id)
      (hentity : entity.status = .Pending) (hrow : row = mergeLeaveRequest entity seen current) :
    MoveCase call held db i (.save .commit) (.saving (.updated entity seen row))
      (.commit ((leaveRow id).put row db) .returned)
  | decided {decision id actorUserId companyId current row}
      (hcall : call i = .decide decision id actorUserId companyId)
      (hfind : db.leaveRequests.find? id = some current) (hheld : held id)
      (hdecided : Decided current row) :
    MoveCase call held db i .commit (.decided row) (.commit ((leaveRow id).put row db) .returned)

theorem protocol_cases {held : Uuid → Prop} {i : ℕ} {l : Label} {p : Phase}
    {m : Move LeaveDb Uuid Phase} (h : PhaseOk call held db i p)
    (hm : protocol call i l p db = some m) : MoveCase call held db i l p m := by
  unfold protocol at hm
  split at hm
  case h_1 id userId companyId dto ownOnly hcall =>
    split at hm
    · rename_i entity hread
      cases hm
      obtain ⟨first, hfound, hupdate⟩ := except_bind_eq_ok.1 hread
      refine .quiet nofun ?_
      simp only [Shared.MoveOk, PhaseOk, hcall]
      exact ⟨first, first, changed_of_ok hupdate, findById_ok hfound, trivial⟩
    · cases hm
      exact .quiet nofun (phaseOk_rejected ..)
  case h_2 id userId companyId dto ownOnly l p hcall =>
    simp only [PhaseOk, hcall] at h
    rcases h.move (fun _ => trivial) hm with ⟨q, rfl, hq⟩ | ⟨q, rfl, hq⟩ |
      ⟨entity, seen, row, rfl, rfl, rfl⟩
    · refine .quiet nofun ?_
      simp only [Shared.MoveOk, PhaseOk, hcall]
      exact hq
    · refine .quiet nofun ?_
      simp only [Shared.MoveOk, PhaseOk, hcall]
      exact hq
    · obtain ⟨first, current, rfl, hfind, -, -, hheld, rfl⟩ := h
      exact .saved hcall hfind hheld rfl rfl
  case h_3 decision id actorUserId companyId hcall =>
    split at hm
    · rename_i entity hfound
      cases hm
      refine .quiet nofun ?_
      simp only [Shared.MoveOk, PhaseOk, hcall, true_or, true_and]
      exact (Option.filter_eq_some_iff.1 hfound).1
    · cases hm
      exact .quiet nofun (phaseOk_rejected ..)
  case h_4 decision id actorUserId companyId entity hcall =>
    simp only [PhaseOk, hcall] at h
    split at hm
    · rename_i row happly
      cases hm
      refine .quiet nofun ?_
      simp only [Shared.MoveOk, PhaseOk, hcall]
      exact ⟨h.1, entity, h.2, Decision.apply_ok happly⟩
    · cases hm
      exact .quiet nofun (phaseOk_rejected ..)
  case h_5 decision id actorUserId companyId row hcall =>
    simp only [PhaseOk, hcall] at h
    obtain ⟨hheld, entity, hfind, hdecided⟩ := h
    cases hm
    exact .decided hcall hfind hheld hdecided
  case h_9 => cases hm
  all_goals
    cases hm
    exact .quiet nofun (phaseOk_aborted ..)

abbrev findRow (id : Uuid) (db : LeaveDb) : Option LeaveRequest := db.leaveRequests.find? id

theorem PhaseOk.mono {held : Uuid → Prop} {db' : LeaveDb} {j : ℕ} {p : Phase}
    (h : PhaseOk call held db j p) (hkept : Kept findRow held db db') :
    PhaseOk call held db' j p := by
  unfold PhaseOk at h ⊢
  split
  case h_1 hcall =>
    simp only [hcall] at h
    refine h.mono (fun _ _ _ _ _ => trivial) fun r hr => ?_
    obtain ⟨r', hr', hsame⟩ := hkept _ r hr
    exact ⟨r', hr', trivial, hsame⟩
  case h_2 hcall =>
    simp only [hcall] at h
    obtain ⟨r', hr', hsame⟩ := hkept _ _ h.2
    exact ⟨h.1, hsame h.1 ▸ hr'⟩
  case h_3 hcall =>
    simp only [hcall] at h
    obtain ⟨hheld, entity, hfind, hdecided⟩ := h
    obtain ⟨r', hr', hsame⟩ := hkept _ _ hfind
    exact ⟨hheld, entity, hsame hheld ▸ hr', hdecided⟩
  case h_4 => trivial

theorem phaseOk_returned (call : ℕ → Call) (held : Uuid → Prop) (db : LeaveDb) (i : ℕ) :
    PhaseOk call held db i .returned := by
  unfold PhaseOk
  split <;> trivial

abbrev Inv (call : ℕ → Call) (s : Shared LeaveDb Uuid Phase) : Prop :=
  s.Inv (fun _ => True) (PhaseOk call)

/-- A step keeps the invariant, whatever it does to a decision. -/
theorem inv_step (h : Inv call s) (hs : (machine call).step s l = some s') : Inv call s' := by
  obtain ⟨i, l⟩ := l
  have hmono : ∀ held db db' j p, PhaseOk call held db j p → Kept findRow held db db' →
      PhaseOk call held db' j p := fun _ _ _ _ _ => PhaseOk.mono
  refine h.step_rows hmono hs fun m hm => ?_
  generalize hp : s.phase i = p at hm
  have hi := h.phase i
  rw [hp] at hi
  cases protocol_cases hi hm with
  | quiet _ hok =>
    cases m with
    | commit db' p => exact hok.1.elim
    | _ => exact hok
  | saved hcall hfind hheld hentity hrow =>
    subst hrow
    exact ⟨⟨trivial, .of_write hheld (find_put (merge_id _ _ hfind))⟩, phaseOk_returned ..⟩
  | decided hcall hfind hheld hdecided =>
    have hid := hdecided.id.trans (Table.key_of_find? hfind)
    exact ⟨⟨trivial, .of_write hheld (find_put hid)⟩, phaseOk_returned ..⟩

/-- What a step does to the leave requests: nothing, or it saves an update, or it
commits a decision. -/
inductive StepCase (call : ℕ → Call) (s s' : Shared LeaveDb Uuid Phase) : ℕ × Label → Prop
  | quiet {i l} (hl : l ≠ .commit) (hdb : s'.db = s.db) : StepCase call s s' (i, l)
  | saved {i id userId companyId dto ownOnly current entity seen row}
      (hcall : call i = .update id userId companyId dto ownOnly)
      (hphase : s.phase i = .saving (.updated entity seen row))
      (hfind : s.db.leaveRequests.find? id = some current)
      (hentity : entity.status = .Pending)
      (hdb : s'.db = (leaveRow id).put (mergeLeaveRequest entity seen current) s.db) :
    StepCase call s s' (i, .save .commit)
  | decided {i decision id actorUserId companyId current row}
      (hcall : call i = .decide decision id actorUserId companyId)
      (hfind : s.db.leaveRequests.find? id = some current) (hdecided : Decided current row)
      (hdb : s'.db = (leaveRow id).put row s.db) :
    StepCase call s s' (i, .commit)

theorem step_cases (h : Inv call s) (hs : (machine call).step s l = some s') :
    StepCase call s s' l := by
  obtain ⟨i, l⟩ := l
  obtain ⟨m, hm, hmove⟩ := Shared.step_move hs
  generalize hp : s.phase i = p at hm
  have hi := h.phase i
  rw [hp] at hi
  cases protocol_cases hi hm with
  | quiet hl hok => exact .quiet hl (hok.db_eq hmove)
  | saved hcall hfind hheld hentity hrow =>
    subst hrow
    cases hmove
    exact .saved hcall hp hfind hentity rfl
  | decided hcall hfind hheld hdecided =>
    cases hmove
    exact .decided hcall hfind hdecided rfl

theorem Final.refl (db : LeaveDb) : Final db db := fun _ r hr _ => ⟨r, hr, rfl, rfl, rfl⟩

theorem Final.trans {db db₁ db₂ : LeaveDb} (h : Final db db₁) (h' : Final db₁ db₂) :
    Final db db₂ := by
  intro id r hr hdecided
  obtain ⟨r₁, hr₁, hstatus, hfrom, hto⟩ := h id r hr hdecided
  obtain ⟨r₂, hr₂, hstatus', hfrom', hto'⟩ := h' id r₁ hr₁ (hstatus ▸ hdecided)
  exact ⟨r₂, hr₂, hstatus'.trans hstatus, hfrom'.trans hfrom, hto'.trans hto⟩

/-- A step leaves every decision alone if it meets the condition. -/
theorem final_of_respects (h : Inv call s) (hc : Respects call s l)
    (hs : (machine call).step s l = some s') : Final s.db s'.db := by
  cases step_cases h hs with
  | quiet _ hdb =>
    rw [hdb]
    exact .refl _
  | saved hcall hphase hfind hentity hdb =>
    simp only [Respects, hcall, hphase] at hc
    rw [hdb, final_put_iff (merge_id _ _ hfind) hfind, keepsDecision_merge_iff]
    exact hc _ hfind
  | decided hcall hfind hdecided hdb =>
    rw [hdb, final_put_iff (hdecided.id.trans (Table.key_of_find? hfind)) hfind]
    exact fun hnot => absurd hdecided.pending hnot

theorem respects_of_final (h : Inv call s) (hs : (machine call).step s l = some s')
    (hfinal : Final s.db s'.db) : Respects call s l := by
  unfold Respects
  split
  · rename_i i
    split
    · rename_i id userId companyId dto ownOnly entity seen row hcall hp
      intro current hfind
      have hi := h.phase i
      simp only [PhaseOk, hcall, hp] at hi
      obtain ⟨first, current', -, hfind', -, -, -, rfl⟩ := hi
      obtain rfl := Option.some.inj (hfind.symm.trans hfind')
      obtain ⟨m, hm, hmove⟩ := Option.bind_eq_some_iff.1 hs
      simp only [protocol, hcall, hp, RowAccess.saveMove, Option.some.injEq] at hm
      subst hm
      cases hmove
      exact keepsDecision_merge_iff.1
        ((final_put_iff (merge_id _ _ hfind) hfind).1 hfinal)
    · trivial
  · trivial

/-- Of what is left to decide a step takes what it decides. -/
theorem undecided_step (h : Inv call s) (hc : Respects call s l)
    (hs : (machine call).step s l = some s') (id : Uuid) :
    undecided s.db id = decisions call id [l] + undecided s'.db id := by
  cases step_cases h hs with
  | @quiet i l hl hdb =>
    have hnot : Decides call id (i, l) = false := by
      cases l with
      | commit => exact absurd rfl hl
      | _ => rfl
    rw [hdb, decisions, List.countP_singleton, hnot]
    simp
  | @saved i j userId companyId dto ownOnly current entity seen row hcall hphase hfind hentity hdb =>
    simp only [Respects, hcall, hphase] at hc
    have hpending : IsPending s'.db id ↔ IsPending s.db id := by
      rw [hdb, isPending_put_iff (merge_id _ _ hfind)]
      split
      · rename_i hj
        subst hj
        rw [merge_pending_iff hentity (hc _ hfind)]
        constructor
        · intro hstatus
          exact ⟨current, hfind, hstatus⟩
        · rintro ⟨r, hr, hstatus⟩
          obtain rfl := Option.some.inj (hfind.symm.trans hr)
          exact hstatus
      · rfl
    simp only [undecided, hpending, decisions, List.countP_singleton, Decides]
    simp
  | @decided i decision j actorUserId companyId current row hcall hfind hdecided hdb =>
    have hkey : row.id = j := hdecided.id.trans (Table.key_of_find? hfind)
    simp only [undecided, decisions, List.countP_singleton, Decides, hcall, hdb,
      isPending_put_iff hkey, decide_eq_true_eq]
    by_cases hj : j = id
    · subst hj
      have hbefore : IsPending s.db j := ⟨current, hfind, hdecided.pending⟩
      simp [hbefore, hdecided.status]
    · simp [hj]

/-- Over a run that meets the condition, what was left to decide is what the decisions
took and what is left. -/
theorem undecided_run {ls : List (ℕ × Label)} (h : Inv call s)
    (hrun : (machine call).RunWith (Respects call) s ls s') (id : Uuid) :
    undecided s.db id = decisions call id ls + undecided s'.db id := by
  induction hrun with
  | done s => simp [decisions]
  | @step s s₁ s' l ls hc hs _ ih =>
    have hstep := undecided_step h hc hs id
    have hrest := ih (inv_step h hs)
    have hcons : decisions call id (l :: ls) = decisions call id [l] + decisions call id ls := by
      unfold decisions
      rw [← List.countP_append, List.singleton_append]
    omega

theorem inv_start (call : ℕ → Call) (db : LeaveDb) : Inv call (.start db .called) := by
  refine Shared.inv_start trivial fun i held => ?_
  unfold PhaseOk
  split <;> trivial

/-- What is claimed of a run from `s`: whatever is decided at some time keeps its status
and its dates from then on, and a request is decided at most once, which is when it stops
being PENDING. -/
def DecidedOnce (call : ℕ → Call) (s : Shared LeaveDb Uuid Phase) (ls : List (ℕ × Label))
    (s' : Shared LeaveDb Uuid Phase) : Prop :=
  (∀ ks ks', ks ++ ks' <+: ls → ∀ s₁ s₂, (machine call).Run s ks s₁ →
    (machine call).Run s₁ ks' s₂ → Final s₁.db s₂.db) ∧
  ∀ id, decisions call id ls ≤ 1 ∧
    (decisions call id ls = 1 ↔ IsPending s.db id ∧ ¬ IsPending s'.db id)

/-- A decided leave request is final, in a run of any updates and decisions of any leave
requests, exactly when each update that is saved finds its request PENDING still, or
writes neither its status nor its dates. -/
theorem decided_final_iff (call : ℕ → Call) {db : LeaveDb} {ls : List (ℕ × Label)}
    {s : Shared LeaveDb Uuid Phase} (hrun : (machine call).Run (.start db .called) ls s) :
    DecidedOnce call (.start db .called) ls s ↔
      (machine call).RunWith (Respects call) (.start db .called) ls s := by
  have hrelates := Machine.relates_iff_steps (Q := fun s s' => Final s.db s'.db)
    (fun s => .refl s.db) (fun _ _ _ => .trans) hrun
  have hsteps := Machine.steps_iff_runWith (C := Respects call) (I := Inv call)
    (Q := fun s s' => Final s.db s'.db)
    (fun s l s' h hc hs => ⟨inv_step h hs, final_of_respects h hc hs⟩)
    (fun s l s' h hs hfinal => respects_of_final h hs hfinal) (inv_start call db) hrun
  constructor
  · intro h
    exact hsteps.1 (hrelates.1 h.1)
  · intro h
    refine ⟨hrelates.2 (hsteps.2 h), fun id => ?_⟩
    have hcount := undecided_run (inv_start call db) h id
    have hdb : (Shared.start db .called : Shared LeaveDb Uuid Phase).db = db := rfl
    rw [hdb] at hcount ⊢
    unfold undecided at hcount
    by_cases hbefore : IsPending db id
    · by_cases hafter : IsPending s.db id
      · rw [if_pos hbefore, if_pos hafter] at hcount
        have hnone : decisions call id ls = 0 := by omega
        simp [hnone, hafter]
      · rw [if_pos hbefore, if_neg hafter] at hcount
        have hone : decisions call id ls = 1 := by omega
        simp [hone, hbefore, hafter]
    · rw [if_neg hbefore] at hcount
      have hnone : decisions call id ls = 0 := by omega
      simp [hnone, hbefore]

end

/-! A request for leave over two days: its employee makes it ten, while it is
approved. -/

namespace LeaveDemo

def leave : LeaveRequest :=
  { id := 5, employeeId := 1, companyId := 10, branchId := 20, leaveTypeId := 30
    fromDate := ⟨2026, 3, 2⟩, toDate := ⟨2026, 3, 3⟩ }

def db : LeaveDb :=
  { employees := .ofRows [{ id := 1, userId := some 7, companyId := 10, branchId := 20 }]
    leaveRequests := .ofRows [leave] }

def now : Instant := { date := ⟨2026, 3, 1⟩, millis := 0 }

def longer : UpdateLeaveRequestDto := { toDate := some (some (dateText ⟨2026, 3, 11⟩)) }

def calls : ℕ → Call
  | 0 => .update 5 7 10 longer true
  | 1 => .decide (.approve now) 5 8 10
  | _ => .decide (.cancel now now) 5 7 10

def save : List (ℕ × Label) := [(0, .save .reread), (0, .save .update), (0, .save .commit)]

def approve : List (ℕ × Label) := [(1, .lock), (1, .check), (1, .commit)]

def cancel : List (ℕ × Label) := [(2, .lock), (2, .check), (2, .commit)]

def inTurn : List (ℕ × Label) := [(0, .read)] ++ save ++ approve ++ [(2, .lock), (2, .check)]

def overtaken : List (ℕ × Label) := [(0, .read)] ++ approve ++ save ++ cancel

def seen (s : Shared LeaveDb Uuid Phase) : Option (LeaveRequestStatus × DateOnly) :=
  (s.db.leaveRequests.find? 5).map fun r => (r.status, r.toDate)

end LeaveDemo

open LeaveDemo in
/-- The request is updated and then approved; cancelling it is refused. -/
theorem decided_final_iff_in_turn :
    ∃ s, (machine calls).Run (.start db .called) inTurn s ∧
      seen s = some (.Approved, ⟨2026, 3, 11⟩) ∧
      DecidedOnce calls (.start db .called) inTurn s := by
  obtain ⟨s, hrun, hs⟩ := Machine.exists_runWith (machine calls) (Respects calls)
    (.start db .called) inTurn (fun s => seen s = some (.Approved, ⟨2026, 3, 11⟩))
    (by decide +kernel)
  exact ⟨s, hrun.run, of_decide_eq_true hs, (decided_final_iff calls hrun.run).2 hrun⟩

open LeaveDemo in
/-- The update checks the request, it is approved, and the save makes it PENDING with ten
days: it is then cancelled, the second decision. -/
theorem approved_leave_is_cancelled :
    ∃ s, (machine calls).Run (.start db .called) overtaken s ∧
      seen s = some (.Cancelled, ⟨2026, 3, 11⟩) ∧
      ¬ DecidedOnce calls (.start db .called) overtaken s := by
  obtain ⟨s, hrun, hs⟩ := Machine.exists_runWith (machine calls) (fun _ _ => True)
    (.start db .called) overtaken (fun s => seen s = some (.Cancelled, ⟨2026, 3, 11⟩))
    (by decide +kernel)
  refine ⟨s, hrun, of_decide_eq_true hs, fun h => ?_⟩
  have htwo : decisions calls 5 overtaken = 2 := by decide
  have hone := (h.2 5).1
  omega

end LeaveRequestsService

end FashionErp.Hr
