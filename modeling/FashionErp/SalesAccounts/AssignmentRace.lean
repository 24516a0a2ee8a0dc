/-
`SalesAccountAssignmentService`: `assign` and `unassign` beside each other.

`assign` looks for an active assignment in the snapshot of its transaction, and no index keeps
another one out between that and the insert.
-/
import FashionErp.Core.Entities
import FashionErp.Lib.Column
import FashionErp.Lib.Concurrent

namespace FashionErp.AssignmentRace

open Lib

structure SalesAccountRow where
  id : Uuid
  companyId : Uuid
  branchId : Uuid
  status : SalesAccountStatus
  deleted : Bool := false

structure EmployeeRow where
  id : Uuid
  companyId : Uuid
  branchId : Uuid
  userId : Option Uuid
  deleted : Bool := false

instance : Keyed SalesAccountRow Uuid := ⟨SalesAccountRow.id⟩
instance : Keyed EmployeeRow Uuid := ⟨EmployeeRow.id⟩

/-- A row of `sales_account_assignments`. -/
structure Assignment where
  id : Uuid
  userId : Uuid
  employeeId : Uuid
  salesAccountId : Uuid
  status : SalesAccountAssignmentStatus
  isPrimary : Bool
  assignedAt : Instant
  unassignedAt : Option Instant
  deriving DecidableEq

instance : Keyed Assignment Uuid := ⟨Assignment.id⟩

structure AssignmentDb where
  accounts : Table SalesAccountRow := .empty
  employees : Table EmployeeRow := .empty
  assignments : Table Assignment := .empty

/-! ## The service -/

/-- The checks of `assign`, on the snapshot of its transaction. -/
def checkAssign (salesAccountId userId employeeId : Uuid) (db : AssignmentDb) :
    Except Failure Unit := do
  let account ←
    match (db.accounts.find? salesAccountId).filter fun a => a.status = .Active && !a.deleted with
    | some account => .ok account
    | none => .error (appException .ValidationError
        "salesAccountId does not reference an active sales account")
  let employee ←
    match (db.employees.find? employeeId).filter fun e => !e.deleted with
    | some employee => .ok employee
    | none => .error (appException .ValidationError
        "employeeId does not reference an existing employee")
  if employee.companyId ≠ account.companyId then
    .error (appException .ValidationError "employee does not belong to the sales account's company")
  else if employee.branchId ≠ account.branchId then
    .error (appException .ValidationError "employee does not belong to the sales account's branch")
  else if employee.userId ≠ some userId then
    .error (appException .ValidationError
      "userId does not match the specified employee's linked user")
  else if ∃ r ∈ db.assignments.rows, r.userId = userId ∧ r.salesAccountId = salesAccountId ∧
      r.status = .Active then
    .error (appException .Conflict "User already has an active assignment to this sales account")
  else
    .ok ()

/-- The assignment that `assign` inserts. -/
def newAssignment (id salesAccountId userId employeeId : Uuid) (now : Instant) : Assignment where
  id := id
  userId := userId
  employeeId := employeeId
  salesAccountId := salesAccountId
  status := .Active
  isPrimary := false
  assignedAt := now
  unassignedAt := none

/-- What `unassign` makes of the assignment it has read. -/
def endAssignment (now : Instant) (assignment : Assignment) : Assignment :=
  { assignment with status := .Inactive, unassignedAt := some now }

/-- The row with the columns in which the entity differs from what `save` has read. -/
def mergeAssignment (entity seen row : Assignment) : Assignment where
  id := row.id
  userId := mergeCol entity.userId seen.userId row.userId
  employeeId := mergeCol entity.employeeId seen.employeeId row.employeeId
  salesAccountId := mergeCol entity.salesAccountId seen.salesAccountId row.salesAccountId
  status := mergeCol entity.status seen.status row.status
  isPrimary := mergeCol entity.isPrimary seen.isPrimary row.isPrimary
  assignedAt := mergeCol entity.assignedAt seen.assignedAt row.assignedAt
  unassignedAt := mergeCol entity.unassignedAt seen.unassignedAt row.unassignedAt

/-! ## Requests beside each other -/

inductive Call
  | assign (salesAccountId userId employeeId : Uuid)
  | unassign (assignmentId : Uuid)
  | elsewhere (write : AssignmentDb → AssignmentDb)

inductive Phase
  | called
  | begun (snapshot : AssignmentDb)
  /-- `assign` is at its insert. -/
  | checked
  | changed (entity : Assignment)
  /-- The `save` of `unassign` has read the row again. -/
  | saving (entity seen : Assignment)
  | returned
  | failed (error : Failure)

inductive Label
  | read
  | check
  /-- `save` of a new entity, under an id that no row has. -/
  | insert (id : Uuid) (now : Instant)
  | mark (now : Instant)
  | reread
  | write

/-- The moves of `assign`. -/
def assignMove (salesAccountId userId employeeId : Uuid) :
    Label → Phase → AssignmentDb → Option (Move AssignmentDb Unit Phase)
  | .read, .called, db => some (.goto (.begun db))
  | .check, .begun snapshot, _ =>
    match checkAssign salesAccountId userId employeeId snapshot with
    | .ok _ => some (.goto .checked)
    | .error error => some (.leave (.failed error))
  | .insert id now, .checked, db =>
    if (db.assignments.find? id).isNone then
      some (.commit
        { db with assignments :=
            db.assignments.save (newAssignment id salesAccountId userId employeeId now) } .returned)
    else
      none
  | _, _, _ => none

/-- The moves of `unassign`. -/
def unassignMove (assignmentId : Uuid) :
    Label → Phase → AssignmentDb → Option (Move AssignmentDb Unit Phase)
  | .mark now, .called, db =>
    match db.assignments.find? assignmentId with
    | none => some (.leave (.failed (appException .NotFound "Assignment not found")))
    | some assignment => some (.goto (.changed (endAssignment now assignment)))
  | .reread, .changed entity, db =>
    (db.assignments.find? entity.id).map fun seen => .goto (.saving entity seen)
  | .write, .saving entity seen, db =>
    (db.assignments.find? entity.id).map fun row =>
      .commit { db with assignments := db.assignments.save (mergeAssignment entity seen row) }
        .returned
  | _, _, _ => none

def protocol (call : ℕ → Call) : Protocol AssignmentDb Unit Phase Label := fun i l p db =>
  match call i with
  | .assign salesAccountId userId employeeId => assignMove salesAccountId userId employeeId l p db
  | .unassign assignmentId => unassignMove assignmentId l p db
  | .elsewhere write =>
    match l, p with
    | .write, .called => some (.commit { write db with assignments := db.assignments } .returned)
    | _, _ => none

def machine (call : ℕ → Call) : Machine (Shared AssignmentDb Unit Phase) (ℕ × Label) :=
  concurrent (protocol call)

/-! ## The claim and the condition -/

def OneActive (db : AssignmentDb) : Prop :=
  ∀ r ∈ db.assignments.rows, ∀ o ∈ db.assignments.rows, r.status = .Active → o.status = .Active →
    r.userId = o.userId → r.salesAccountId = o.salesAccountId → r = o

def ActiveOpen (db : AssignmentDb) : Prop :=
  ∀ r ∈ db.assignments.rows, r.status = .Active → r.unassignedAt = none

def KeepsEnds (db db' : AssignmentDb) : Prop :=
  ∀ id r, db.assignments.find? id = some r → r.status = .Inactive →
    ∃ r', db'.assignments.find? id = some r' ∧ r'.status = .Inactive ∧
      r'.unassignedAt = r.unassignedAt

def Lawful (s s' : Shared AssignmentDb Unit Phase) : Prop :=
  OneActive s'.db ∧ ActiveOpen s'.db ∧ KeepsEnds s.db s'.db

/-- The condition on a step. An assignment that is inserted finds no active one of its user and
account, and a time that is written over that of an ended assignment is the same. -/
def Respects (call : ℕ → Call) (s : Shared AssignmentDb Unit Phase) : ℕ × Label → Prop
  | (i, .insert ..) =>
    match call i with
    | .assign salesAccountId userId _ =>
      ∀ r ∈ s.db.assignments.rows, r.userId = userId → r.salesAccountId = salesAccountId →
        r.status ≠ .Active
    | _ => True
  | (i, .write) =>
    match s.phase i with
    | .saving entity seen =>
      ∀ row ∈ s.db.assignments.find? entity.id, row.status = .Inactive →
        entity.unassignedAt ≠ seen.unassignedAt → entity.unassignedAt = row.unassignedAt
    | _ => True
  | _ => True

instance (call : ℕ → Call) (s : Shared AssignmentDb Unit Phase) (l : ℕ × Label) :
    Decidable (Respects call s l) := by
  unfold Respects
  split
  · split <;> infer_instance
  · split <;> infer_instance
  · infer_instance

section

variable {call : ℕ → Call} {s s' : Shared AssignmentDb Unit Phase} {i : ℕ} {l : Label}
  {db db' : AssignmentDb}

/-- What a request relies on: the entity of `unassign` has ended, and so has the row if `save` has
read that it has. -/
def PhaseOk (_ : Unit → Prop) (db : AssignmentDb) (_ : ℕ) : Phase → Prop
  | .changed entity => entity.status = .Inactive
  | .saving entity seen => entity.status = .Inactive ∧
      ∃ row, db.assignments.find? entity.id = some row ∧
        (seen.status = .Inactive → row.status = .Inactive)
  | _ => True

def Stands (db db' : AssignmentDb) : Prop :=
  ∀ id r, db.assignments.find? id = some r →
    ∃ r', db'.assignments.find? id = some r' ∧ (r.status = .Inactive → r'.status = .Inactive)

theorem phaseOk_stands {held : Unit → Prop} {j : ℕ} {p : Phase} (h : PhaseOk held db j p)
    (hs : Stands db db') : PhaseOk held db' j p := by
  cases p with
  | changed entity => exact h
  | saving entity seen =>
    obtain ⟨hended, row, hrow, hseen⟩ := h
    obtain ⟨row', hrow', hinactive⟩ := hs entity.id row hrow
    exact ⟨hended, row', hrow', fun h => hinactive (hseen h)⟩
  | _ => exact trivial

inductive StepDoes (call : ℕ → Call) (s s' : Shared AssignmentDb Unit Phase) (i : ℕ) :
    Label → Prop
  | nothing {l : Label} (hdb : s'.db.assignments = s.db.assignments)
      (hrespects : Respects call s (i, l)) : StepDoes call s s' i l
  | inserts {id : Uuid} {now : Instant} {salesAccountId userId employeeId : Uuid}
      (hcall : call i = .assign salesAccountId userId employeeId)
      (hnew : s.db.assignments.find? id = none)
      (hdb : s'.db.assignments =
        s.db.assignments.save (newAssignment id salesAccountId userId employeeId now)) :
      StepDoes call s s' i (.insert id now)
  | ends {entity seen row : Assignment} (hphase : s.phase i = .saving entity seen)
      (hrow : s.db.assignments.find? entity.id = some row)
      (hdb : s'.db.assignments = s.db.assignments.save (mergeAssignment entity seen row)) :
      StepDoes call s s' i .write

theorem step_does (hs : (machine call).step s (i, l) = some s') : StepDoes call s s' i l := by
  obtain ⟨m, hm, hmove⟩ := Option.bind_eq_some_iff.1 hs
  have hm' : protocol call i l (s.phase i) s.db = some m := hm
  generalize hp : s.phase i = p at hm'
  unfold protocol at hm'
  split at hm'
  case h_1 salesAccountId userId employeeId hcall =>
    unfold assignMove at hm'
    split at hm'
    case h_1 =>
      cases hm'
      cases hmove
      exact .nothing rfl trivial
    case h_2 =>
      split at hm'
      all_goals
        cases hm'
        cases hmove
        exact .nothing rfl trivial
    case h_3 id now =>
      obtain ⟨hnew, hm'⟩ := Option.ite_none_right_eq_some.1 hm'
      cases hm'
      cases hmove
      exact .inserts hcall (Option.isNone_iff_eq_none.1 hnew) rfl
    case h_4 => cases hm'
  case h_2 assignmentId hcall =>
    unfold unassignMove at hm'
    split at hm'
    case h_1 =>
      split at hm'
      all_goals
        cases hm'
        cases hmove
        exact .nothing rfl trivial
    case h_2 =>
      obtain ⟨seen, -, rfl⟩ := Option.map_eq_some_iff.1 hm'
      cases hmove
      exact .nothing rfl trivial
    case h_3 entity seen =>
      obtain ⟨row, hrow, rfl⟩ := Option.map_eq_some_iff.1 hm'
      cases hmove
      exact .ends hp hrow rfl
    case h_4 => cases hm'
  case h_3 write hcall =>
    split at hm'
    · cases hm'
      cases hmove
      refine .nothing rfl ?_
      simp only [Respects, hp]
    · cases hm'

abbrev Inv (s : Shared AssignmentDb Unit Phase) : Prop :=
  s.Inv (fun db => OneActive db ∧ ActiveOpen db) PhaseOk

theorem merge_inactive {entity seen row : Assignment} (hentity : entity.status = .Inactive)
    (hseen : seen.status = .Inactive → row.status = .Inactive) :
    (mergeAssignment entity seen row).status = .Inactive := by
  by_cases hsame : entity.status = seen.status
  · exact (mergeCol_of_eq hsame _).trans (hseen (hsame ▸ hentity))
  · exact (mergeCol_of_ne hsame _).trans hentity

theorem stands_save {r' : Assignment}
    (hdb : db'.assignments = db.assignments.save r') (hended : r'.status = .Inactive) :
    Stands db db' := by
  intro id o ho
  rw [hdb, Table.find?_save]
  split
  · exact ⟨r', rfl, fun _ => hended⟩
  · exact ⟨o, ho, fun hinactive => hinactive⟩

theorem stands_insert {r : Assignment} (h : db.assignments.find? r.id = none)
    (hdb : db'.assignments = db.assignments.save r) : Stands db db' := by
  intro id o ho
  refine ⟨o, ?_, fun hended => hended⟩
  rw [hdb, Table.find?_save_ne _ _ _ fun hid => ?_, ho]
  rw [← hid] at ho
  rw [show db.assignments.find? (key r) = none from h] at ho
  cases ho

theorem lawful_insert {salesAccountId userId employeeId id : Uuid} {now : Instant}
    (hone : OneActive s.db) (hopen : ActiveOpen s.db) (hnew : s.db.assignments.find? id = none)
    (hdb : s'.db.assignments =
      s.db.assignments.save (newAssignment id salesAccountId userId employeeId now)) :
    Lawful s s' ↔ ∀ r ∈ s.db.assignments.rows, r.userId = userId →
      r.salesAccountId = salesAccountId → r.status ≠ .Active := by
  have hne : ∀ r ∈ s.db.assignments.rows, key r ≠ id := Table.find?_eq_none.1 hnew
  have hmem : ∀ x, x ∈ s'.db.assignments.rows ↔
      x = newAssignment id salesAccountId userId employeeId now ∨ x ∈ s.db.assignments.rows := by
    intro x
    rw [hdb, Table.mem_save]
    exact or_congr_right ⟨fun h => h.1, fun h => ⟨h, hne x h⟩⟩
  constructor
  · intro ⟨hone', _, _⟩ r hr huser haccount hactive
    have hsame := hone' r ((hmem r).2 (.inr hr)) _ ((hmem _).2 (.inl rfl)) hactive rfl huser haccount
    exact hne r hr (congrArg key hsame)
  · intro hfree
    refine ⟨?_, ?_, ?_⟩
    · intro r hr o ho hactive hactive' huser haccount
      rcases (hmem r).1 hr with rfl | hr
      · rcases (hmem o).1 ho with rfl | ho
        · rfl
        · exact absurd hactive' (hfree o ho huser.symm haccount.symm)
      · rcases (hmem o).1 ho with rfl | ho
        · exact absurd hactive (hfree r hr huser haccount)
        · exact hone r hr o ho hactive hactive' huser haccount
    · intro r hr hactive
      rcases (hmem r).1 hr with rfl | hr
      · rfl
      · exact hopen r hr hactive
    · intro id' r hr hended
      refine ⟨r, ?_, hended, rfl⟩
      rw [hdb, Table.find?_save_ne _ _ _ fun hid => ?_, hr]
      exact hne r (Table.mem_of_find? hr) ((Table.key_of_find? hr).trans hid.symm)

theorem lawful_end {row row' : Assignment} (hone : OneActive s.db) (hopen : ActiveOpen s.db)
    (hrow : s.db.assignments.find? row'.id = some row) (hended : row'.status = .Inactive)
    (hdb : s'.db.assignments = s.db.assignments.save row') :
    Lawful s s' ↔ (row.status = .Inactive → row'.unassignedAt = row.unassignedAt) := by
  have hself : s'.db.assignments.find? row'.id = some row' := by
    rw [hdb]
    exact Table.find?_save_self _ _
  have hold : ∀ x ∈ s'.db.assignments.rows, x.status = .Active → x ∈ s.db.assignments.rows := by
    intro x hx hactive
    rw [hdb, Table.mem_save] at hx
    rcases hx with rfl | ⟨hx, -⟩
    · rw [hended] at hactive
      cases hactive
    · exact hx
  constructor
  · intro ⟨_, _, hkeeps⟩ hinactive
    obtain ⟨r', hr', -, hend⟩ := hkeeps row'.id row hrow hinactive
    obtain rfl := Option.some.inj (hself.symm.trans hr')
    exact hend
  · intro hsame
    refine ⟨fun r hr o ho hactive hactive' => ?_, fun r hr hactive => ?_, fun id r hr hinactive => ?_⟩
    · exact hone r (hold r hr hactive) o (hold o ho hactive') hactive hactive'
    · exact hopen r (hold r hr hactive) hactive
    · by_cases hid : row'.id = id
      · subst hid
        obtain rfl := Option.some.inj (hrow.symm.trans hr)
        exact ⟨row', hself, hended, hsame hinactive⟩
      · refine ⟨r, ?_, hinactive, rfl⟩
        rw [hdb, Table.find?_save_ne _ _ _ hid, hr]

/-- A step is lawful exactly if it meets the condition. -/
theorem lawful_iff (hinv : Inv s) (hs : (machine call).step s (i, l) = some s') :
    Lawful s s' ↔ Respects call s (i, l) := by
  obtain ⟨hone, hopen⟩ := hinv.db
  cases step_does hs with
  | nothing hdb hrespects =>
    refine iff_of_true ⟨?_, ?_, ?_⟩ hrespects
    · simpa only [OneActive, hdb] using hone
    · simpa only [ActiveOpen, hdb] using hopen
    · intro id r hr hinactive
      exact ⟨r, hdb ▸ hr, hinactive, rfl⟩
  | inserts hcall hnew hdb =>
    rw [lawful_insert hone hopen hnew hdb]
    simp only [Respects, hcall]
  | @ends entity seen row hphase hrow hdb =>
    have hok := hinv.phase i
    rw [hphase] at hok
    obtain ⟨hentity, row₁, hrow₁, hseen⟩ := hok
    obtain rfl := Option.some.inj (hrow.symm.trans hrow₁)
    have hkey : row.id = entity.id := Table.key_of_find? hrow
    rw [lawful_end hone hopen (by rw [← hrow]; exact congrArg _ hkey)
      (merge_inactive hentity hseen) hdb]
    simp only [Respects, hphase, hrow, Option.mem_def, Option.some.injEq, forall_eq']
    refine imp_congr_right fun _ => ?_
    by_cases hwritten : entity.unassignedAt = seen.unassignedAt
    · exact iff_of_true (mergeCol_of_eq hwritten _) fun h => absurd hwritten h
    · have hmerged : (mergeAssignment entity seen row).unassignedAt = entity.unassignedAt :=
        mergeCol_of_ne hwritten _
      rw [hmerged]
      exact ⟨fun h _ => h, fun h => h hwritten⟩

theorem dest_ok {held held' : Unit → Prop} {p : Phase} {m : Move AssignmentDb Unit Phase}
    (hok : PhaseOk held db i p) (hm : protocol call i l p db = some m) :
    PhaseOk held' db i m.dest := by
  unfold protocol at hm
  split at hm
  case h_1 =>
    unfold assignMove at hm
    split at hm
    case h_2 =>
      split at hm
      all_goals
        cases hm
        exact trivial
    case h_3 =>
      obtain ⟨-, hm⟩ := Option.ite_none_right_eq_some.1 hm
      cases hm
      exact trivial
    case h_4 => cases hm
    case h_1 =>
      cases hm
      exact trivial
  case h_2 =>
    unfold unassignMove at hm
    split at hm
    case h_1 =>
      split at hm
      all_goals obtain rfl := Option.some.inj hm
      · exact trivial
      · exact rfl
    case h_2 =>
      obtain ⟨seen, hseen, rfl⟩ := Option.map_eq_some_iff.1 hm
      exact ⟨hok, seen, hseen, fun hended => hended⟩
    case h_3 =>
      obtain ⟨row, -, rfl⟩ := Option.map_eq_some_iff.1 hm
      exact trivial
    case h_4 => cases hm
  case h_3 =>
    split at hm
    · cases hm
      exact trivial
    · cases hm

theorem step_stands (hinv : Inv s) (hs : (machine call).step s (i, l) = some s') :
    Stands s.db s'.db := by
  cases step_does hs with
  | nothing hdb _ =>
    intro id r hr
    exact ⟨r, hdb ▸ hr, fun hinactive => hinactive⟩
  | inserts _ hnew hdb => exact stands_insert hnew hdb
  | @ends entity seen row hphase hrow hdb =>
    have hok := hinv.phase i
    rw [hphase] at hok
    obtain ⟨hentity, row₁, hrow₁, hseen⟩ := hok
    obtain rfl := Option.some.inj (hrow.symm.trans hrow₁)
    exact stands_save hdb (merge_inactive hentity hseen)

/-- A step that meets the condition keeps the invariant. -/
theorem inv_step (hinv : Inv s) (hrespects : Respects call s (i, l))
    (hs : (machine call).step s (i, l) = some s') : Inv s' := by
  have hlawful := (lawful_iff hinv hs).2 hrespects
  have hstands := step_stands hinv hs
  obtain ⟨m, hm, hphase⟩ := Shared.step_phase hs
  refine ⟨⟨hlawful.1, hlawful.2.1⟩, fun j => ?_⟩
  rw [hphase]
  by_cases hj : j = i
  · subst hj
    rw [Function.update_self]
    exact phaseOk_stands (dest_ok (hinv.phase j) hm) hstands
  · rw [Function.update_of_ne hj]
    exact phaseOk_stands (hinv.phase j) hstands

end

namespace AssignmentDemo

def time (millis : ℕ) : Instant := { date := ⟨2026, 3, 1⟩, millis := millis }

def database : AssignmentDb where
  accounts := .ofRows [⟨1, 10, 20, .Active, false⟩]
  employees := .ofRows [⟨2, 10, 20, some 3, false⟩]

def calls (i : ℕ) : Call :=
  if i < 2 then .assign 1 3 2 else .unassign 100

def start : Shared AssignmentDb Unit Phase := .start database .called

def ended : List (ℕ × Label) :=
  [(0, .read), (0, .check), (0, .insert 100 (time 0)), (2, .mark (time 1)), (2, .reread), (2, .write)]

end AssignmentDemo

end FashionErp.AssignmentRace
