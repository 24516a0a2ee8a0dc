/-
The rows that say who may do what, and where: users, roles, memberships.

Only the columns the modelled services read or write are kept.
-/
import FashionErp.Core.Db

namespace FashionErp

open Lib

/-! ## Users and employees -/

inductive UserStatus
  | Active
  | Inactive
  | Suspended
  | Locked
  deriving DecidableEq

structure User where
  id : Uuid
  email : String := ""
  passwordHash : String := ""
  status : UserStatus := .Active
  lastLoginAt : Option Instant := none
  passwordChangedAt : Option Instant := none
  deleted : Bool := false
  deriving DecidableEq

instance : Keyed User Uuid := ⟨User.id⟩

inductive EmployeeStatus
  | Active
  | Inactive
  | Terminated

structure Employee where
  id : Uuid
  userId : Option Uuid
  status : EmployeeStatus
  terminatedAt : Option Instant := none
  deleted : Bool := false

instance : Keyed Employee Uuid := ⟨Employee.id⟩

/-! ## Roles -/

inductive DataScope
  | Own
  | Account
  | Team
  | Branch
  | Warehouse
  | Company
  | Organization
  | All
  deriving DecidableEq

structure RoleResourceScope where
  resource : String
  scope : DataScope
  scopeValue : Option String := none
  deriving DecidableEq

abbrev RoleStatus := ActiveStatus

structure Role where
  id : Uuid
  code : String
  status : RoleStatus := .Active
  isSystemRole : Bool := false
  resourceScopes : List RoleResourceScope := []
  deleted : Bool := false

instance : Keyed Role Uuid := ⟨Role.id⟩

structure UserRole where
  userId : Uuid
  roleId : Uuid
  deleted : Bool := false

instance : Keyed UserRole (Uuid × Uuid) := ⟨fun row => (row.userId, row.roleId)⟩

/-! ## Memberships -/

abbrev MembershipStatus := ActiveStatus

/-- A row of `user_companies`, `user_branches` or `user_warehouses`; `targetId` is the
company, the branch or the warehouse. The unique index is on the user and the target. -/
structure Membership where
  userId : Uuid
  targetId : Uuid
  status : MembershipStatus := .Active
  isPrimary : Bool := false
  deleted : Bool := false

instance : Keyed Membership (Uuid × Uuid) := ⟨fun row => (row.userId, row.targetId)⟩

inductive Level
  | company
  | branch
  | warehouse
  deriving DecidableEq

structure OrganizationDb where
  master : MasterData := {}
  memberships : Level → Table Membership := fun _ => .empty

namespace OrganizationDb

variable (db : OrganizationDb)

/-- `findOne({ userId, targetId })`. -/
def findMembership (level : Level) (userId targetId : Uuid) : Option Membership :=
  ((db.memberships level).find? (userId, targetId)).filter fun row => ¬ row.deleted

/-- `findOne({ userId, targetId, status: ACTIVE })`. -/
def findActiveMembership (level : Level) (userId targetId : Uuid) : Option Membership :=
  (db.findMembership level userId targetId).filter fun row => row.status = .Active

/-- `find({ userId, status: ACTIVE })`. -/
def activeMemberships (level : Level) (userId : Uuid) : List Membership :=
  (db.memberships level).rows.filter fun row =>
    row.userId = userId ∧ row.status = .Active ∧ ¬ row.deleted

def saveMembership (level : Level) (row : Membership) : OrganizationDb :=
  { db with
    memberships := Function.update db.memberships level ((db.memberships level).save row) }

def Member (level : Level) (userId targetId : Uuid) : Prop :=
  (db.findActiveMembership level userId targetId).isSome

instance (level : Level) (userId targetId : Uuid) : Decidable (db.Member level userId targetId) :=
  inferInstanceAs (Decidable (Option.isSome _ = true))

def Removed (level : Level) (userId targetId : Uuid) : Prop :=
  ∃ row ∈ (db.memberships level).find? (userId, targetId), row.deleted = true

instance (level : Level) (userId targetId : Uuid) : Decidable (db.Removed level userId targetId) :=
  inferInstanceAs (Decidable (∃ row ∈ (db.memberships level).find? (userId, targetId), _))

variable {db}

theorem member_iff {level : Level} {userId targetId : Uuid} : db.Member level userId targetId ↔
    ∃ row, (db.memberships level).find? (userId, targetId) = some row ∧ row.deleted = false ∧
      row.status = .Active := by
  unfold Member findActiveMembership findMembership
  rw [Option.isSome_iff_exists]
  simp only [Option.filter_eq_some_iff, decide_eq_true_eq, Bool.not_eq_true, and_assoc]

theorem find_saveMembership (level level' : Level) (row : Membership) (key : Uuid × Uuid) :
    ((db.saveMembership level row).memberships level').find? key =
      if level = level' ∧ (row.userId, row.targetId) = key then some row
      else (db.memberships level').find? key := by
  unfold saveMembership
  by_cases hlevel : level = level'
  · subst hlevel
    simp only [Function.update_self, Table.find?_save, true_and]
    rfl
  · simp only [Function.update_of_ne (Ne.symm hlevel), hlevel, false_and, if_false]

end OrganizationDb

end FashionErp
