/-
Role changes at the same time, and the last Super Admin.

Each call is one transaction.
-/
import FashionErp.Access.SuperAdmin
import FashionErp.Lib.Concurrent

namespace FashionErp.AdminRace

open Lib Lib.Tx SuperAdmin

inductive Call
  | replaceForUser (userId : Uuid) (roleIds : List Uuid)
  | deactivateRole (id : Uuid)
  | removeRole (id : Uuid)

def Call.checks : Call → AccessTx Unit
  | replaceForUser userId roleIds => assertUserAndRoles userId roleIds
  | deactivateRole id => void (findOpenRole id "System roles cannot be deactivated")
  | removeRole id => do
    let _role ← findOpenRole id "System roles cannot be deleted"
    assertUnassigned id

/-- An `UPDATE` of the row of a role. -/
def updateRole (db : AccessDb) (id : Uuid) (set : Role → Role) : AccessDb :=
  match db.roles.find? id with
  | some role => db.saveRole (set role)
  | none => db

/-- What the call writes over `db`, from what it has read in its snapshot: `save` of a role
that was read INACTIVE has no column to update. -/
def Call.write (snapshot db : AccessDb) : Call → AccessDb
  | replaceForUser userId roleIds => db.replaceUserRoles userId roleIds
  | deactivateRole id =>
    match snapshot.findRole id with
    | some role =>
      if role.status = .Active then updateRole db id fun role => { role with status := .Inactive }
      else db
    | none => db
  | removeRole id => updateRole db id fun role => { role with deleted := true }

/-- `remove` of a role makes no count. -/
def Call.guarded : Call → Bool
  | replaceForUser .. | deactivateRole _ => true
  | removeRole _ => false

inductive Phase
  | called
  | checked (snapshot : AccessDb)
  /-- The writes are made and their rows locked. -/
  | written (snapshot : AccessDb)
  | counted (snapshot : AccessDb)
  | returned
  | rejected

inductive Label
  | read
  | write
  | count
  | commit
  deriving DecidableEq

inductive Lock
  /-- The assignments of a user, deleted under a range lock. -/
  | userRoles (userId : Uuid)
  | role (id : Uuid)
  deriving DecidableEq

def Call.lock : Call → Lock
  | replaceForUser userId _ => .userRoles userId
  | deactivateRole id | removeRole id => .role id

def Call.move (c : Call) : Label → Phase → AccessDb → Option (Move AccessDb Lock Phase)
  | .read, .called, db => some <|
    match c.checks db with
    | .ok _ => .goto (.checked db)
    | .error _ => .leave .rejected
  | .write, .checked snapshot, _ => some (.acquire c.lock (.written snapshot))
  | .count, .written snapshot, _ => some <|
    if c.guarded → countActiveSuperAdmins (c.write snapshot snapshot) ≠ 0 then
      .goto (.counted snapshot)
    else .leave .rejected
  | .commit, .counted snapshot, db => some (.commit (c.write snapshot db) .returned)
  | _, _, _ => none

def machine (call : ℕ → Call) : Machine (Shared AccessDb Lock Phase) (ℕ × Label) :=
  concurrent fun i => (call i).move

/-! ## Who is a Super Admin after a write -/

/-- After a replacement somebody else is left, or the user has the role now. -/
theorem hasSuperAdmin_replaceUserRoles (db : AccessDb) (userId : Uuid) (roleIds : List Uuid) :
    (db.replaceUserRoles userId roleIds).HasSuperAdmin ↔
      Another db userId ∨ (db.ActiveUser userId ∧ ∃ roleId ∈ roleIds, db.SuperAdminRole roleId) := by
  have hkeys : ∀ x ∈ roleIds.map fun roleId => ({ userId, roleId } : UserRole),
      ∀ y ∈ roleIds.map fun roleId => ({ userId, roleId } : UserRole),
        Keyed.key x = Keyed.key y → x = y := by
    intro x hx y hy hkey
    obtain ⟨roleId, -, rfl⟩ := List.mem_map.1 hx
    obtain ⟨roleId', -, rfl⟩ := List.mem_map.1 hy
    obtain rfl : roleId = roleId' := (Prod.mk.inj hkey).2
    rfl
  constructor
  · rintro ⟨userRole, hmem, hcounts⟩
    rcases (Table.mem_saveAll _ hkeys _).1 hmem with hnew | ⟨hold, -⟩
    · obtain ⟨roleId, hroleId, rfl⟩ := List.mem_map.1 hnew
      exact .inr ⟨hcounts.2.1, roleId, hroleId, hcounts.1⟩
    · obtain ⟨hbefore, hother⟩ := (Table.mem_deleteWhere _ _ _).1 hold
      exact .inl ⟨userRole, hbefore, hcounts, by simpa using hother⟩
  · rintro (⟨userRole, hmem, hcounts, hother⟩ | ⟨hactive, roleId, hroleId, hrole⟩)
    · refine ⟨userRole, (Table.mem_saveAll _ hkeys _).2 (.inr ⟨?_, fun x hx hkey => ?_⟩), hcounts⟩
      · exact (Table.mem_deleteWhere _ _ _).2 ⟨hmem, by simpa using hother⟩
      · obtain ⟨roleId, -, rfl⟩ := List.mem_map.1 hx
        exact hother (Prod.mk.inj hkey).1
    · refine ⟨{ userId, roleId }, (Table.mem_saveAll _ hkeys _).2 (.inl ?_), hrole, hactive, rfl⟩
      exact List.mem_map.2 ⟨roleId, hroleId, rfl⟩

def codes (db : AccessDb) (id : Uuid) : Option String := (db.roles.find? id).map Role.code

def UniqueCodes (codes : Uuid → Option String) : Prop :=
  ∀ id id' code, codes id = some code → codes id' = some code → id = id'

def KeepsCode (set : Role → Role) : Prop := ∀ role, (set role).id = role.id ∧ (set role).code = role.code

variable {set : Role → Role}

theorem find_updateRole (hset : KeepsCode set) (db : AccessDb) (id id' : Uuid) :
    (updateRole db id set).roles.find? id' =
      if id = id' then (db.roles.find? id').map set else db.roles.find? id' := by
  unfold updateRole
  cases hrole : db.roles.find? id with
  | none =>
    by_cases hid : id = id'
    · subst hid
      simp [hrole]
    · rw [if_neg hid]
  | some role =>
    have hkey : Keyed.key (set role) = id := (hset role).1.trans (Table.key_of_find? hrole)
    dsimp only [AccessDb.saveRole]
    rw [Table.find?_save, hkey]
    by_cases hid : id = id'
    · subst hid
      simp [hrole]
    · rw [if_neg hid, if_neg hid]

theorem codes_updateRole (hset : KeepsCode set) (db : AccessDb) (id : Uuid) :
    codes (updateRole db id set) = codes db := by
  funext id'
  unfold codes
  rw [find_updateRole hset]
  split
  · rw [Option.map_map]
    exact congrArg (fun f => (db.roles.find? id').map f) (funext fun role => (hset role).2)
  · rfl

variable {id : Uuid}

theorem superAdminRole_code {db : AccessDb} (h : db.SuperAdminRole id) :
    codes db id = some SystemRoleCode.SuperAdmin := by
  obtain ⟨role, hrole, hcode, -⟩ := h
  unfold codes
  rw [(Option.filter_eq_some_iff.1 hrole).1, Option.map_some, hcode]

theorem hasSuperAdmin_updateRole (hset : KeepsCode set) {db : AccessDb} (hother : codes db id ≠ some SystemRoleCode.SuperAdmin) (h : db.HasSuperAdmin) :
    (updateRole db id set).HasSuperAdmin := by
  obtain ⟨userRole, hmem, hrole, hactive, hlive⟩ := h
  have hid : id ≠ userRole.roleId := by
    rintro rfl
    exact hother (superAdminRole_code hrole)
  have hsame : ∀ db' : AccessDb, db'.userRoles = db.userRoles → db'.users = db.users →
      db'.roles.find? userRole.roleId = db.roles.find? userRole.roleId → db'.HasSuperAdmin := by
    intro db' huserRoles husers hfind
    refine ⟨userRole, by rwa [huserRoles], ?_, ?_, hlive⟩
    · unfold AccessDb.SuperAdminRole AccessDb.findRole at hrole ⊢
      rwa [hfind]
    · unfold AccessDb.ActiveUser AccessDb.findUser at hactive ⊢
      rwa [husers]
  refine hsame _ ?_ ?_ ?_
  · unfold updateRole
    split <;> rfl
  · unfold updateRole
    split <;> rfl
  · rw [find_updateRole hset, if_neg hid]

theorem keepsCode_inactive : KeepsCode fun role => { role with status := .Inactive } :=
  fun _ => ⟨rfl, rfl⟩

theorem keepsCode_deleted : KeepsCode fun role => { role with deleted := true } :=
  fun _ => ⟨rfl, rfl⟩

theorem codes_write (c : Call) (snapshot db : AccessDb) : codes (c.write snapshot db) = codes db := by
  cases c with
  | replaceForUser => rfl
  | deactivateRole id =>
    unfold Call.write
    dsimp only
    split
    · split
      · exact codes_updateRole keepsCode_inactive db id
      · rfl
    · rfl
  | removeRole id => exact codes_updateRole keepsCode_deleted db id

/-! ## The invariant -/

structure SnapshotOk (c : Call) (codes₀ : Uuid → Option String) (snapshot : AccessDb) : Prop where
  admin : snapshot.HasSuperAdmin
  codes : codes snapshot = codes₀
  checks : ∃ u db, Commits c.checks snapshot u db

def PhaseOk (codes₀ : Uuid → Option String) (c : Call) : Phase → Prop
  | .checked snapshot | .written snapshot => SnapshotOk c codes₀ snapshot
  | .counted snapshot => SnapshotOk c codes₀ snapshot ∧
      (c.guarded → (c.write snapshot snapshot).HasSuperAdmin)
  | .called | .returned | .rejected => True

section

variable {codes₀ : Uuid → Option String} {c : Call} {snapshot db : AccessDb}

theorem deactivated_other {role : Role} (hunique : UniqueCodes codes₀)
    (hcodes : codes snapshot = codes₀) (hfound : snapshot.findRole id = some role)
    (hguard : (updateRole snapshot id fun role => { role with status := .Inactive }).HasSuperAdmin) :
    codes₀ id ≠ some SystemRoleCode.SuperAdmin := by
  intro hcode
  obtain ⟨userRole, -, hrole, -⟩ := hguard
  have hheld := superAdminRole_code hrole
  rw [codes_updateRole keepsCode_inactive, hcodes] at hheld
  obtain rfl := hunique _ _ _ hcode hheld
  obtain ⟨held, hfind, -, hactive⟩ := hrole
  have hrow := (Option.filter_eq_some_iff.1 hfind).1
  rw [find_updateRole keepsCode_inactive, if_pos rfl,
    (Option.filter_eq_some_iff.1 hfound).1] at hrow
  cases hrow
  cases hactive

theorem removed_other (hunique : UniqueCodes codes₀)
    (h : SnapshotOk (.removeRole id) codes₀ snapshot) :
    codes₀ id ≠ some SystemRoleCode.SuperAdmin := by
  intro hcode
  obtain ⟨u, _, hchecks⟩ := h.checks
  simp only [Call.checks, commits_bind, commits_findOpenRole, commits_assertUnassigned] at hchecks
  obtain ⟨role, _, ⟨-, rfl⟩, hnone, -⟩ := hchecks
  obtain ⟨userRole, hmem, hrole, -, hlive⟩ := h.admin
  have hheld := superAdminRole_code hrole
  rw [h.codes] at hheld
  exact ne_of_unassigned hnone hmem hlive (hunique _ _ _ hheld hcode)

def Call.Leaves (db : AccessDb) : Call → Prop
  | replaceForUser userId roleIds => Another db userId ∨
      (db.ActiveUser userId ∧ ∃ roleId ∈ roleIds, db.SuperAdminRole roleId)
  | deactivateRole _ | removeRole _ => True

instance (db : AccessDb) : (c : Call) → Decidable (c.Leaves db)
  | .replaceForUser userId roleIds => inferInstanceAs (Decidable
      (Another db userId ∨ (db.ActiveUser userId ∧ ∃ roleId ∈ roleIds, db.SuperAdminRole roleId)))
  | .deactivateRole _ | .removeRole _ => inferInstanceAs (Decidable True)

theorem hasSuperAdmin_write (hunique : UniqueCodes codes₀) (hcodes : codes db = codes₀)
    (h : db.HasSuperAdmin) (hok : PhaseOk codes₀ c (.counted snapshot)) :
    (c.write snapshot db).HasSuperAdmin ↔ c.Leaves db := by
  obtain ⟨hsnapshot, hguard⟩ := hok
  cases c with
  | replaceForUser userId roleIds => exact hasSuperAdmin_replaceUserRoles db userId roleIds
  | deactivateRole id =>
    refine iff_of_true ?_ trivial
    have hguard := hguard rfl
    cases hfound : snapshot.findRole id with
    | none =>
      simp only [Call.write, hfound]
      exact h
    | some role =>
      simp only [Call.write, hfound] at hguard ⊢
      by_cases hactive : role.status = .Active
      · rw [if_pos hactive] at hguard ⊢
        have hother := deactivated_other hunique hsnapshot.codes hfound hguard
        exact hasSuperAdmin_updateRole keepsCode_inactive (by rwa [hcodes]) h
      · rw [if_neg hactive]
        exact h
  | removeRole id =>
    refine iff_of_true ?_ trivial
    have hother := removed_other hunique hsnapshot
    exact hasSuperAdmin_updateRole keepsCode_deleted (by rwa [hcodes]) h

def LeavesAdmin (call : ℕ → Call) (s : Shared AccessDb Lock Phase) (l : ℕ × Label) : Prop :=
  l.2 = .commit → (call l.1).Leaves s.db

instance (call : ℕ → Call) (s : Shared AccessDb Lock Phase) (l : ℕ × Label) :
    Decidable (LeavesAdmin call s l) := inferInstanceAs (Decidable (_ → _))

/-- The invariant of a run: the roles keep their codes, there is a Super Admin, and
every process stands where its phase says. -/
def Inv (call : ℕ → Call) (codes₀ : Uuid → Option String) : Shared AccessDb Lock Phase → Prop :=
  Shared.Inv (fun db => codes db = codes₀ ∧ db.HasSuperAdmin)
    fun _ _ i p => PhaseOk codes₀ (call i) p

theorem move_ok (hunique : UniqueCodes codes₀) (hcodes : codes db = codes₀) (h : db.HasSuperAdmin)
    {l : Label} {p : Phase} (hok : PhaseOk codes₀ c p) (hleaves : l = .commit → c.Leaves db)
    {m : Move AccessDb Lock Phase} (hm : c.move l p db = some m) (held : Lock → Prop) :
    Shared.MoveOk (fun db => codes db = codes₀ ∧ db.HasSuperAdmin)
      (fun _ _ (_ : ℕ) p => PhaseOk codes₀ c p) held db 0 m := by
  unfold Call.move at hm
  split at hm
  · -- the first read and the checks on it
    cases hm
    split
    · rename_i outcome hchecks
      exact ⟨h, hcodes, outcome.1, outcome.2, hchecks⟩
    · trivial
  · cases hm
    exact hok
  · cases hm
    split
    · rename_i hcount
      exact ⟨hok, fun hguarded => (count_ne_zero _).1 (hcount hguarded)⟩
    · trivial
  · cases hm
    refine ⟨⟨by rw [codes_write, hcodes], ?_⟩, trivial⟩
    exact (hasSuperAdmin_write hunique hcodes h hok).2 (hleaves rfl)
  · cases hm

variable {s s' : Shared AccessDb Lock Phase}

theorem inv_step {call : ℕ → Call} (hunique : UniqueCodes codes₀) {l : ℕ × Label} (h : Inv call codes₀ s)
    (hleaves : LeavesAdmin call s l) (hs : (machine call).step s l = some s') :
    Inv call codes₀ s' := by
  refine Shared.Inv.step h hs (fun m hm => ?_) fun _ _ _ _ _ _ _ hok => hok
  have hmove := move_ok hunique h.db.1 h.db.2 (h.phase l.1) hleaves hm (s.Holds l.1)
  cases m <;> exact hmove

theorem leavesAdmin_of_has {call : ℕ → Call} (hunique : UniqueCodes codes₀) {l : ℕ × Label} (h : Inv call codes₀ s)
    (hs : (machine call).step s l = some s') (h' : s'.db.HasSuperAdmin) : LeavesAdmin call s l := by
  obtain ⟨i, l⟩ := l
  rintro rfl
  obtain ⟨m, hm, hmove⟩ := Option.bind_eq_some_iff.1 hs
  have hok := h.phase i
  dsimp only at hm hmove hok ⊢
  cases hp : s.phase i with
  | counted snapshot =>
    rw [hp] at hm hok
    cases hm
    cases hmove
    exact (hasSuperAdmin_write hunique h.db.1 h.db.2 hok).1 h'
  | _ =>
    rw [hp] at hm
    cases hm

end

/-! Two Super Admins, each of whom loses the role. -/

namespace SkewDemo

def db : AccessDb where
  users := .ofRows [{ id := 1 }, { id := 2 }]
  roles := .ofRows [{ id := 50, code := SystemRoleCode.SuperAdmin, isSystemRole := true }]
  userRoles := .ofRows [{ userId := 1, roleId := 50 }, { userId := 2, roleId := 50 }]

def calls (i : ℕ) : Call := .replaceForUser (i + 1) []

/-- The steps of process `i` before its commit. -/
def upToCommit (i : ℕ) : List (ℕ × Label) := [(i, .read), (i, .write), (i, .count)]

def inTurn : List (ℕ × Label) := upToCommit 0 ++ [(0, .commit)] ++ upToCommit 1

def together : List (ℕ × Label) := upToCommit 0 ++ upToCommit 1 ++ [(0, .commit), (1, .commit)]

theorem uniqueCodes : UniqueCodes (codes db) := by
  intro id id' code hid hid'
  obtain ⟨role, hrole, -⟩ := Option.map_eq_some_iff.1 hid
  obtain ⟨role', hrole', -⟩ := Option.map_eq_some_iff.1 hid'
  have honly : ∀ role ∈ db.roles.rows, role.id = 50 := by decide
  have h := honly role (Table.mem_of_find? hrole)
  have h' := honly role' (Table.mem_of_find? hrole')
  rw [← Table.key_of_find? hrole, ← Table.key_of_find? hrole']
  exact h.trans h'.symm

end SkewDemo

end FashionErp.AdminRace
