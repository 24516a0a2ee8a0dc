/-
The services that can take the last Super Admin away.

`SuperAdminInvariantService` counts the active Super Admins after a change, in the same
transaction, and rolls back at zero.
-/
import FashionErp.Access.Entities
import FashionErp.Lib.Serial

namespace FashionErp

open Lib Lib.Tx

structure AccessDb where
  users : Table User := .empty
  employees : Table Employee := .empty
  roles : Table Role := .empty
  userRoles : Table UserRole := .empty
  organization : OrganizationDb := {}

abbrev AccessTx := Tx AccessDb Failure

/-- `findOne(User, { id })`. -/
def AccessDb.findUser (db : AccessDb) (id : Uuid) : Option User :=
  (db.users.find? id).filter fun user => ¬ user.deleted

/-- `findOne(Role, { id })`. -/
def AccessDb.findRole (db : AccessDb) (id : Uuid) : Option Role :=
  (db.roles.find? id).filter fun role => ¬ role.deleted

/-! ## `SuperAdminInvariantService` -/

def SystemRoleCode.SuperAdmin : String := "SUPER_ADMIN"

def AccessDb.SuperAdminRole (db : AccessDb) (roleId : Uuid) : Prop :=
  ∃ role ∈ db.findRole roleId, role.code = SystemRoleCode.SuperAdmin ∧ role.status = .Active

instance (db : AccessDb) (roleId : Uuid) : Decidable (db.SuperAdminRole roleId) :=
  inferInstanceAs (Decidable (∃ role ∈ db.findRole roleId, _))

def AccessDb.ActiveUser (db : AccessDb) (userId : Uuid) : Prop :=
  ∃ user ∈ db.findUser userId, user.status = .Active

instance (db : AccessDb) (userId : Uuid) : Decidable (db.ActiveUser userId) :=
  inferInstanceAs (Decidable (∃ user ∈ db.findUser userId, _))

def AccessDb.Counts (db : AccessDb) (userRole : UserRole) : Prop :=
  db.SuperAdminRole userRole.roleId ∧ db.ActiveUser userRole.userId ∧ userRole.deleted = false

instance (db : AccessDb) (userRole : UserRole) : Decidable (db.Counts userRole) :=
  inferInstanceAs (Decidable (_ ∧ _ ∧ _))

def countActiveSuperAdmins (db : AccessDb) : ℕ :=
  (db.userRoles.rows.filter fun userRole => db.Counts userRole).length

def assertAtLeastOneActiveSuperAdminRemains : AccessTx Unit := do
  let count ← reads countActiveSuperAdmins
  rejectIf (count = 0)
    (appException .Conflict "This action would leave the system with no active Super Admin.")

def AccessDb.HasSuperAdmin (db : AccessDb) : Prop := ∃ userRole ∈ db.userRoles.rows, db.Counts userRole

instance (db : AccessDb) : Decidable db.HasSuperAdmin :=
  inferInstanceAs (Decidable (∃ userRole ∈ db.userRoles.rows, _))

theorem count_ne_zero (db : AccessDb) : countActiveSuperAdmins db ≠ 0 ↔ db.HasSuperAdmin := by
  unfold countActiveSuperAdmins AccessDb.HasSuperAdmin
  rw [ne_eq, List.length_eq_zero_iff, List.filter_eq_nil_iff]
  push Not
  simp only [decide_eq_true_eq]

/-- The guard passes exactly when a Super Admin is left, and writes nothing. -/
@[simp] theorem commits_guard (db db' : AccessDb) (u : Unit) :
    Commits assertAtLeastOneActiveSuperAdminRemains db u db' ↔ db.HasSuperAdmin ∧ db = db' := by
  rw [← count_ne_zero]
  simp only [assertAtLeastOneActiveSuperAdminRemains, commits_bind, commits_reads, commits_rejectIf]
  constructor
  · rintro ⟨_, _, ⟨rfl, rfl⟩, hcount, rfl⟩
    exact ⟨hcount, rfl⟩
  · rintro ⟨hcount, rfl⟩
    exact ⟨_, db, ⟨rfl, rfl⟩, hcount, rfl⟩

/-! ## `UserRolesService` and `RolesService` -/

/-- `manager.delete(UserRole, { userId })` and the `INSERT`s of the new rows. -/
def AccessDb.replaceUserRoles (db : AccessDb) (userId : Uuid) (roleIds : List Uuid) : AccessDb :=
  { db with
    userRoles := (db.userRoles.deleteWhere fun row => row.userId = userId).saveAll
      (roleIds.map fun roleId => { userId, roleId }) }

/-- The checks `replaceForUser` starts with. -/
def assertUserAndRoles (userId : Uuid) (roleIds : List Uuid) : AccessTx Unit := do
  let user ← reads fun db => db.findUser userId
  let _user ← orReject user (appException .NotFound "User not found")
  let foundRoles ← reads fun db => db.roles.rows.filter fun role => role.id ∈ roleIds ∧ ¬ role.deleted
  rejectIf (roleIds.length > 0 ∧ foundRoles.length ≠ roleIds.length)
    (appException .ValidationError "One or more role ids do not exist")

def UserRolesService.replaceForUser (userId : Uuid) (roleIds : List Uuid) : AccessTx Unit := do
  assertUserAndRoles userId roleIds
  modify fun db => db.replaceUserRoles userId roleIds
  assertAtLeastOneActiveSuperAdminRemains

def AccessDb.saveRole (db : AccessDb) (role : Role) : AccessDb :=
  { db with roles := db.roles.save role }

/-- The checks of `deactivate` and `remove` on the role. -/
def findOpenRole (id : Uuid) (systemRole : String) : AccessTx Role := do
  let role ← reads fun db => db.findRole id
  let role ← orReject role (appException .NotFound "Role not found")
  rejectIf (role.isSystemRole = true) (appException .Forbidden systemRole)
  return role

def RolesService.deactivate (id : Uuid) : AccessTx Unit := do
  let role ← findOpenRole id "System roles cannot be deactivated"
  modify fun db => db.saveRole { role with status := .Inactive }
  assertAtLeastOneActiveSuperAdminRemains

/-- `manager.count(UserRole, { roleId })`. -/
def AccessDb.assignmentCount (db : AccessDb) (roleId : Uuid) : ℕ :=
  (db.userRoles.rows.filter fun row => row.roleId = roleId ∧ ¬ row.deleted).length

/-- The check of `remove` on the assignments. -/
def assertUnassigned (roleId : Uuid) : AccessTx Unit := do
  let assignmentCount ← reads fun db => db.assignmentCount roleId
  rejectIf (assignmentCount > 0)
    (appException .Conflict "Role has active user assignments and cannot be deleted")

def RolesService.remove (id : Uuid) : AccessTx Unit := do
  let role ← findOpenRole id "System roles cannot be deleted"
  assertUnassigned id
  modify fun db => db.saveRole { role with deleted := true }

@[simp] theorem commits_findOpenRole (id : Uuid) (systemRole : String) (db db' : AccessDb)
    (role : Role) : Commits (findOpenRole id systemRole) db role db' ↔
      (db.findRole id = some role ∧ role.isSystemRole = false) ∧ db = db' := by
  simp only [findOpenRole, commits_bind, commits_reads, commits_orReject, commits_rejectIf,
    commits_pure]
  constructor
  · rintro ⟨_, _, ⟨rfl, rfl⟩, role', _, ⟨hfound, rfl⟩, _, _, ⟨hopen, rfl⟩, rfl, rfl⟩
    exact ⟨⟨hfound, by simpa using hopen⟩, rfl⟩
  · rintro ⟨⟨hfound, hopen⟩, rfl⟩
    exact ⟨_, db, ⟨rfl, rfl⟩, role, db, ⟨hfound, rfl⟩, (), db, ⟨by simp [hopen], rfl⟩, rfl, rfl⟩

@[simp] theorem commits_assertUnassigned (roleId : Uuid) (db db' : AccessDb) (u : Unit) :
    Commits (assertUnassigned roleId) db u db' ↔ db.assignmentCount roleId = 0 ∧ db = db' := by
  simp only [assertUnassigned, commits_bind, commits_reads, commits_rejectIf]
  constructor
  · rintro ⟨_, _, ⟨rfl, rfl⟩, hnone, rfl⟩
    exact ⟨by omega, rfl⟩
  · rintro ⟨hnone, rfl⟩
    exact ⟨_, db, ⟨rfl, rfl⟩, by omega, rfl⟩

theorem ne_of_unassigned {db : AccessDb} {roleId : Uuid} (h : db.assignmentCount roleId = 0)
    {userRole : UserRole} (hmem : userRole ∈ db.userRoles.rows) (hlive : userRole.deleted = false) :
    userRole.roleId ≠ roleId := by
  rintro rfl
  have hcounted : userRole ∈ db.userRoles.rows.filter fun row =>
      row.roleId = userRole.roleId ∧ ¬ row.deleted := by simp [hmem, hlive]
  have hpos := List.length_pos_of_mem hcounted
  unfold AccessDb.assignmentCount at h
  omega

/-! ## `UsersService` and `EmployeesService` -/

def UsersService.isVisible (db : AccessDb) (userId : Uuid) : Option (List Uuid) → Bool
  | none => true
  | some allowedCompanyIds => (db.organization.activeMemberships .company userId).any
    fun membership => membership.targetId ∈ allowedCompanyIds

def UsersService.findById (id : Uuid) (allowedCompanyIds : Option (List Uuid)) : AccessTx User := do
  let user ← reads fun db => (db.findUser id).filter fun _ =>
    UsersService.isVisible db id allowedCompanyIds
  orReject user (appException .NotFound "User not found")

/-- How `deactivate`, `lock` and `remove` change the user. -/
inductive UserChange
  | deactivate
  | lock
  | remove

def UserChange.apply : UserChange → User → User
  | deactivate, user => { user with status := .Inactive }
  | lock, user => { user with status := .Locked }
  | remove, user => { user with deleted := true }

def AccessDb.saveUser (db : AccessDb) (user : User) : AccessDb :=
  { db with users := db.users.save user }

def UsersService.change (change : UserChange) (id : Uuid) (allowedCompanyIds : Option (List Uuid)) :
    AccessTx Unit := do
  let user ← findById id allowedCompanyIds
  modify fun db => db.saveUser (change.apply user)

def UsersService.deactivate : Uuid → Option (List Uuid) → AccessTx Unit := change .deactivate

def UsersService.lock : Uuid → Option (List Uuid) → AccessTx Unit := change .lock

def UsersService.remove : Uuid → Option (List Uuid) → AccessTx Unit := change .remove

/-- The second half of `terminate`: an ACTIVE linked user is deactivated. -/
def AccessDb.deactivateLinked (db : AccessDb) (employee : Employee) : AccessDb :=
  match employee.userId with
  | none => db
  | some userId => match db.findUser userId with
    | none => db
    | some user => if user.status = .Active then db.saveUser { user with status := .Inactive } else db

def AccessDb.saveEmployee (db : AccessDb) (employee : Employee) : AccessDb :=
  { db with employees := db.employees.save employee }

def EmployeesService.terminate (id : Uuid) (now : Instant) : AccessTx Unit := do
  let employee ← reads fun db => (db.employees.find? id).filter fun employee => ¬ employee.deleted
  let employee ← orReject employee (appException .NotFound "Employee not found")
  let employee := { employee with status := .Terminated, terminatedAt := some now }
  modify fun db => db.saveEmployee employee
  modify fun db => db.deactivateLinked employee

/-! ## Runs -/

namespace SuperAdmin

inductive Request
  | replaceForUser (userId : Uuid) (roleIds : List Uuid)
  | deactivateRole (id : Uuid)
  | removeRole (id : Uuid)
  | changeUser (change : UserChange) (id : Uuid) (allowedCompanyIds : Option (List Uuid))
  | terminate (id : Uuid) (now : Instant)

def Request.call : Request → AccessTx Unit
  | replaceForUser userId roleIds => UserRolesService.replaceForUser userId roleIds
  | deactivateRole id => RolesService.deactivate id
  | removeRole id => RolesService.remove id
  | changeUser .deactivate id allowedCompanyIds => UsersService.deactivate id allowedCompanyIds
  | changeUser .lock id allowedCompanyIds => UsersService.lock id allowedCompanyIds
  | changeUser .remove id allowedCompanyIds => UsersService.remove id allowedCompanyIds
  | terminate id now => EmployeesService.terminate id now

def machine : Machine AccessDb Request := serial Request.call

def Another (db : AccessDb) (userId : Uuid) : Prop :=
  ∃ userRole ∈ db.userRoles.rows, db.Counts userRole ∧ userRole.userId ≠ userId

instance (db : AccessDb) (userId : Uuid) : Decidable (Another db userId) :=
  inferInstanceAs (Decidable (∃ userRole ∈ db.userRoles.rows, _))

def LeavesAnother (db : AccessDb) : Request → Prop
  | .changeUser _ id allowedCompanyIds =>
    (db.findUser id).isSome → UsersService.isVisible db id allowedCompanyIds = true → Another db id
  | .terminate id _ => ∀ employee ∈ (db.employees.find? id).filter fun employee => ¬ employee.deleted,
    ∀ userId ∈ employee.userId, db.ActiveUser userId → Another db userId
  | _ => True

/-! ### What the requests do to the Super Admins -/

theorem find_saveUser (db : AccessDb) (user : User) (id : Uuid) :
    (db.saveUser user).findUser id =
      if user.id = id then if user.deleted then none else some user else db.findUser id := by
  unfold AccessDb.findUser AccessDb.saveUser
  rw [Table.find?_save]
  by_cases hid : user.id = id
  · have hkey : Keyed.key user = id := hid
    rw [if_pos hid, if_pos hkey]
    cases hdeleted : user.deleted <;> simp [Option.filter, hdeleted]
  · have hkey : ¬ Keyed.key user = id := hid
    rw [if_neg hid, if_neg hkey]

theorem counts_saveUser {db : AccessDb} {user : User} (h : user.status = .Active → user.deleted = true)
    (userRole : UserRole) : (db.saveUser user).Counts userRole ↔
      db.Counts userRole ∧ userRole.userId ≠ user.id := by
  unfold AccessDb.Counts AccessDb.ActiveUser
  rw [find_saveUser]
  by_cases hid : user.id = userRole.userId
  · rw [if_pos hid]
    refine iff_of_false (fun hcounts => ?_) fun hcounts => hcounts.2 hid.symm
    obtain ⟨-, ⟨found, hfound, hactive⟩, -⟩ := hcounts
    split at hfound
    · cases hfound
    · rename_i hlive
      cases hfound
      exact hlive (h hactive)
  · rw [if_neg hid]
    exact ⟨fun hcounts => ⟨hcounts, fun heq => hid heq.symm⟩, fun hcounts => hcounts.1⟩

theorem hasSuperAdmin_saveUser {db : AccessDb} {user : User}
    (h : user.status = .Active → user.deleted = true) :
    (db.saveUser user).HasSuperAdmin ↔ Another db user.id := by
  refine exists_congr fun userRole => and_congr Iff.rfl ?_
  exact counts_saveUser h userRole

variable {id : Uuid}

theorem id_of_find {db : AccessDb} {user : User} (h : db.findUser id = some user) : user.id = id :=
  Table.key_of_find? (Option.filter_eq_some_iff.1 h).1

theorem change_apply (change : UserChange) (user : User) :
    (change.apply user).id = user.id ∧
      ((change.apply user).status = .Active → (change.apply user).deleted = true) := by
  cases change <;> simp [UserChange.apply]

variable {db' : AccessDb}

theorem change_commits {change : UserChange} {allowedCompanyIds : Option (List Uuid)}
    {db : AccessDb} {u : Unit} :
    Commits (Request.changeUser change id allowedCompanyIds).call db u db' ↔
      ∃ user, db.findUser id = some user ∧
        UsersService.isVisible db id allowedCompanyIds = true ∧
        db' = db.saveUser (change.apply user) := by
  have hbody : Commits (UsersService.change change id allowedCompanyIds) db u db' ↔
      ∃ user, db.findUser id = some user ∧
        UsersService.isVisible db id allowedCompanyIds = true ∧
        db' = db.saveUser (change.apply user) := by
    simp only [UsersService.change, UsersService.findById, commits_bind, commits_reads,
      commits_orReject, commits_modify]
    constructor
    · rintro ⟨user, _, ⟨_, _, ⟨rfl, rfl⟩, hfound, rfl⟩, rfl⟩
      rw [Option.filter_eq_some_iff] at hfound
      exact ⟨user, hfound.1, hfound.2, rfl⟩
    · rintro ⟨user, hfound, hvisible, rfl⟩
      exact ⟨user, db, ⟨_, db, ⟨rfl, rfl⟩, Option.filter_eq_some_iff.2 ⟨hfound, hvisible⟩, rfl⟩, rfl⟩
  cases change <;> exact hbody

theorem hasSuperAdmin_deactivateLinked {db : AccessDb} (h : db.HasSuperAdmin) (employee : Employee) :
    (db.deactivateLinked employee).HasSuperAdmin ↔
      ∀ userId ∈ employee.userId, db.ActiveUser userId → Another db userId := by
  unfold AccessDb.deactivateLinked
  cases hlinked : employee.userId with
  | none => simp [h]
  | some userId =>
    simp only [Option.mem_def, Option.some.injEq, forall_eq']
    cases hfound : db.findUser userId with
    | none => simp [h, AccessDb.ActiveUser, hfound]
    | some user =>
      dsimp only
      by_cases hactive : user.status = .Active
      · rw [if_pos hactive, hasSuperAdmin_saveUser (by simp), id_of_find hfound]
        simp [AccessDb.ActiveUser, hfound, hactive]
      · rw [if_neg hactive]
        simp [h, AccessDb.ActiveUser, hfound, hactive]

theorem hasSuperAdmin_terminate {db : AccessDb} (h : db.HasSuperAdmin) (employee : Employee) :
    ((db.saveEmployee employee).deactivateLinked employee).HasSuperAdmin ↔
      ∀ userId ∈ employee.userId, db.ActiveUser userId → Another db userId :=
  have hsaved : (db.saveEmployee employee).HasSuperAdmin := h
  hasSuperAdmin_deactivateLinked hsaved employee

theorem terminate_commits {now : Instant} {db : AccessDb} {u : Unit} :
    Commits (EmployeesService.terminate id now) db u db' ↔
      ∃ employee, (db.employees.find? id).filter (fun employee => ¬ employee.deleted) = some employee ∧
        db' = (db.saveEmployee { employee with status := .Terminated, terminatedAt := some now
          }).deactivateLinked { employee with status := .Terminated, terminatedAt := some now } := by
  simp only [EmployeesService.terminate, commits_bind, commits_reads, commits_orReject,
    commits_modify]
  constructor
  · rintro ⟨_, _, ⟨rfl, rfl⟩, employee, _, ⟨hfound, rfl⟩, _, _, rfl, rfl⟩
    exact ⟨employee, hfound, rfl⟩
  · rintro ⟨employee, hfound, rfl⟩
    exact ⟨_, db, ⟨rfl, rfl⟩, employee, db, ⟨hfound, rfl⟩, (), _, rfl, rfl⟩

theorem removeRole_keeps {db : AccessDb} {u : Unit} (h : db.HasSuperAdmin)
    (hcommits : Commits (RolesService.remove id) db u db') : db'.HasSuperAdmin := by
  simp only [RolesService.remove, commits_bind, commits_findOpenRole, commits_assertUnassigned,
    commits_modify] at hcommits
  obtain ⟨role, _, ⟨⟨hfound, -⟩, rfl⟩, _, _, ⟨hnone, rfl⟩, rfl⟩ := hcommits
  obtain ⟨userRole, hmem, ⟨found, hrole, hcode⟩, hactive, hlive⟩ := h
  refine ⟨userRole, hmem, ⟨found, ?_, hcode⟩, hactive, hlive⟩
  have hother : role.id ≠ userRole.roleId := by
    rw [show role.id = id from Table.key_of_find? (Option.filter_eq_some_iff.1 hfound).1]
    exact (ne_of_unassigned hnone hmem hlive).symm
  unfold AccessDb.findRole AccessDb.saveRole at *
  rw [Table.find?_save_ne _ _ _ hother]
  exact hrole

/-! ### What keeps a Super Admin -/

theorem step_keeps {db : AccessDb} {request : Request} (h : db.HasSuperAdmin)
    (hother : LeavesAnother db request) (hs : machine.step db request = some db') :
    db'.HasSuperAdmin := by
  rcases serial_cases hs with ⟨rfl, -⟩ | ⟨u, hcommits⟩
  · exact h
  cases request with
  | replaceForUser userId roleIds =>
    simp only [Request.call, UserRolesService.replaceForUser, commits_bind, commits_guard] at hcommits
    obtain ⟨_, _, -, _, _, -, hguard, rfl⟩ := hcommits
    exact hguard
  | deactivateRole id =>
    simp only [Request.call, RolesService.deactivate, commits_bind, commits_guard] at hcommits
    obtain ⟨_, _, -, _, _, -, hguard, rfl⟩ := hcommits
    exact hguard
  | removeRole id => exact removeRole_keeps h hcommits
  | changeUser change id allowedCompanyIds =>
    obtain ⟨user, hfound, hvisible, rfl⟩ := change_commits.1 hcommits
    obtain ⟨hid, hgone⟩ := change_apply change user
    rw [hasSuperAdmin_saveUser hgone, hid, id_of_find hfound]
    exact hother (by rw [hfound]; rfl) hvisible
  | terminate id now =>
    obtain ⟨employee, hfound, rfl⟩ := terminate_commits.1 hcommits
    exact (hasSuperAdmin_terminate h _).2 (hother employee hfound)

theorem leavesAnother_of_has {db : AccessDb} {request : Request} (h : db.HasSuperAdmin)
    (hs : machine.step db request = some db') (h' : db'.HasSuperAdmin) :
    LeavesAnother db request := by
  cases request with
  | replaceForUser | deactivateRole | removeRole => trivial
  | changeUser change id allowedCompanyIds =>
    intro hsome hvisible
    obtain ⟨user, hfound⟩ := Option.isSome_iff_exists.1 hsome
    obtain rfl := serial_commits hs ((change_commits (u := ())).2 ⟨user, hfound, hvisible, rfl⟩)
    obtain ⟨hid, hgone⟩ := change_apply change user
    rwa [hasSuperAdmin_saveUser hgone, hid, id_of_find hfound] at h'
  | terminate id now =>
    intro employee hfound
    obtain rfl := serial_commits hs ((terminate_commits (u := ())).2 ⟨employee, hfound, rfl⟩)
    have hleft := (hasSuperAdmin_terminate h _).1 h'
    exact hleft

/-- When there is always a Super Admin, over any requests one after the other: in
every state exactly when no user is deactivated, locked or removed, and no employee with an
ACTIVE user terminated, unless somebody else is an active Super Admin. -/
theorem active_super_admin_remains_iff {db db' : AccessDb} {ls : List Request}
    (h : db.HasSuperAdmin) (hrun : machine.Run db ls db') :
    (∀ ks, ks <+: ls → ∀ db₁, machine.Run db ks db₁ → db₁.HasSuperAdmin) ↔
      machine.RunWith LeavesAnother db ls db' :=
  Machine.prefixes_iff_runWith (fun _ _ _ h hother hs => step_keeps h hother hs) (fun _ h => h)
    (fun _ _ _ h hs h' => leavesAnother_of_has h hs h') h hrun

/-! One Super Admin, `1`, and one other user. -/

namespace AdminDemo

def db : AccessDb where
  users := .ofRows [{ id := 1 }, { id := 2 }]
  roles := .ofRows [{ id := 50, code := SystemRoleCode.SuperAdmin, isSystemRole := true },
    { id := 51, code := "CASHIER" }]
  userRoles := .ofRows [{ userId := 1, roleId := 50 }, { userId := 2, roleId := 51 }]

def handover : List Request :=
  [.replaceForUser 2 [50, 51], .replaceForUser 1 [51], .changeUser .lock 1 none]

end AdminDemo

open AdminDemo in
theorem active_super_admin_remains_iff_handover :
    db.HasSuperAdmin ∧ ∃ db', machine.Run db handover db' ∧
      ((∀ ks, ks <+: handover → ∀ db₁, machine.Run db ks db₁ → db₁.HasSuperAdmin) ↔
        machine.RunWith LeavesAnother db handover db') := by
  have h : db.HasSuperAdmin := by decide +kernel
  obtain ⟨db', hrun, -⟩ := Machine.exists_runWith machine (fun _ _ => True) db handover
    (fun _ => true) (by decide +kernel)
  exact ⟨h, db', hrun, active_super_admin_remains_iff h hrun⟩

open AdminDemo in
theorem last_super_admin_locked : db.HasSuperAdmin ∧
    ∃ db', machine.Run db [.changeUser .lock 1 none] db' ∧ ¬ db'.HasSuperAdmin := by
  refine ⟨by decide +kernel, ?_⟩
  obtain ⟨db', hrun, hdb'⟩ := Machine.exists_runWith machine (fun _ _ => True) db
    [.changeUser .lock 1 none] (fun db' => !db'.HasSuperAdmin) (by decide +kernel)
  exact ⟨db', hrun, by simpa using hdb'⟩

end SuperAdmin

end FashionErp
