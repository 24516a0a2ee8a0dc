/-
`UserOrganizationService`: assigning and removing memberships.

A branch membership needs an active membership in the branch's company, a warehouse one an
active membership in its branch; both are checked when the membership is assigned.
-/
import FashionErp.Access.Entities
import FashionErp.Lib.Serial

namespace FashionErp

open Lib Lib.Tx

abbrev OrganizationTx := Tx OrganizationDb Failure

namespace UserOrganizationService

/-! ## The service -/

def uniqueIndex : Level → String
  | .company => "IDX_ucomp_user_company"
  | .branch => "IDX_ubr_user_branch"
  | .warehouse => "IDX_uwh_user_warehouse"

/-- `save` of a new membership: an `INSERT`. -/
def insertMembership (level : Level) (row : Membership) : OrganizationTx Membership := do
  let db ← get
  rejectIf ((db.memberships level).find? (row.userId, row.targetId)).isSome
    (.duplicateEntry (uniqueIndex level))
  set (db.saveMembership level row)
  return row

def createMembership (level : Level) (alreadyMember : String) (userId targetId : Uuid) :
    OrganizationTx Membership := do
  let existing ← reads fun db => db.findMembership level userId targetId
  rejectIf existing.isSome (appException .Conflict alreadyMember)
  insertMembership level { userId, targetId, status := .Active, isPrimary := false }

def assignCompany (userId companyId : Uuid) : OrganizationTx Membership := do
  let company ← reads fun db => (db.master.companies.find? companyId).filter fun c =>
    c.status = .Active && !c.deleted
  let _company ← orReject company
    (appException .ValidationError "companyId does not reference an active company")
  createMembership .company "User is already a member of this company" userId companyId

def assignBranch (userId branchId : Uuid) : OrganizationTx Membership := do
  let branch ← reads fun db => (db.master.branches.find? branchId).filter fun b =>
    b.status = .Active && !b.deleted
  let branch ← orReject branch
    (appException .ValidationError "branchId does not reference an active branch")
  let companyMembership ← reads fun db => db.findActiveMembership .company userId branch.companyId
  rejectIf companyMembership.isNone (appException .ValidationError
    "User must have an active membership in the branch's company before being assigned to the branch")
  createMembership .branch "User is already a member of this branch" userId branchId

def assignWarehouse (userId warehouseId : Uuid) : OrganizationTx Membership := do
  let warehouse ← reads fun db => (db.master.warehouses.find? warehouseId).filter fun w => !w.deleted
  let warehouse ← orReject warehouse (appException .NotFound "Warehouse not found")
  let branchMembership ← reads fun db => db.findActiveMembership .branch userId warehouse.branchId
  rejectIf branchMembership.isNone (appException .ValidationError
    "User must have an active membership in the warehouse's branch before being assigned to the warehouse")
  createMembership .warehouse "User is already a member of this warehouse" userId warehouseId

def removeMembership (level : Level) (userId targetId : Uuid) : OrganizationTx Unit := do
  let membership ← reads fun db => db.findMembership level userId targetId
  let membership ← orReject membership (appException .NotFound "Membership not found")
  modify fun db => db.saveMembership level { membership with deleted := true }

def removeCompanyMembership (userId companyId : Uuid) : OrganizationTx Unit :=
  removeMembership .company userId companyId

def removeBranchMembership (userId branchId : Uuid) : OrganizationTx Unit :=
  removeMembership .branch userId branchId

def removeWarehouseMembership (userId warehouseId : Uuid) : OrganizationTx Unit :=
  removeMembership .warehouse userId warehouseId

/-! ## Runs -/

inductive Request
  | assign (level : Level) (userId targetId : Uuid)
  | remove (level : Level) (userId targetId : Uuid)

def assign : Level → Uuid → Uuid → OrganizationTx Membership
  | .company => assignCompany
  | .branch => assignBranch
  | .warehouse => assignWarehouse

def remove : Level → Uuid → Uuid → OrganizationTx Unit
  | .company => removeCompanyMembership
  | .branch => removeBranchMembership
  | .warehouse => removeWarehouseMembership

def Request.call : Request → OrganizationTx Unit
  | assign level userId targetId => void (UserOrganizationService.assign level userId targetId)
  | remove level userId targetId => UserOrganizationService.remove level userId targetId

def machine : Machine OrganizationDb Request := serial Request.call

/-! ## The hierarchy -/

def parent? (master : MasterData) : Level → Uuid → Option (Level × Uuid)
  | .company, _ => none
  | .branch, branchId => (master.branches.find? branchId).map fun b => (.company, b.companyId)
  | .warehouse, warehouseId =>
    (master.warehouses.find? warehouseId).map fun w => (.branch, w.branchId)

def ParentActive (db : OrganizationDb) (level : Level) (userId targetId : Uuid) : Prop :=
  level = .company ∨ ∃ above ∈ parent? db.master level targetId, db.Member above.1 userId above.2

def Hierarchy (db : OrganizationDb) : Prop :=
  ∀ level userId targetId, db.Member level userId targetId → ParentActive db level userId targetId

def Reassignable (db : OrganizationDb) : Prop :=
  ∀ level userId targetId, db.Removed level userId targetId →
    ParentActive db level userId targetId →
    ∃ row db', Commits (assign level userId targetId) db row db'

def NoneBelow (db : OrganizationDb) (level : Level) (userId targetId : Uuid) : Prop :=
  ∀ below belowId, parent? db.master below belowId = some (level, targetId) →
    ¬ db.Member below userId belowId

def NoneRemovedBelow (db : OrganizationDb) (level : Level) (userId targetId : Uuid) : Prop :=
  ∀ below belowId, parent? db.master below belowId = some (level, targetId) →
    ¬ db.Removed below userId belowId

/-! ## What the methods do -/

/-- What an assignment that commits has checked, and its one row. -/
structure Assigned (level : Level) (userId targetId : Uuid) (db : OrganizationDb)
    (row : Membership) (db' : OrganizationDb) : Prop where
  parent : ParentActive db level userId targetId
  fresh : (db.memberships level).find? (userId, targetId) = none
  created : row = { userId, targetId, status := .Active, isPrimary := false }
  saved : db' = db.saveMembership level row

/-- What a removal that commits has found, and its one row. -/
structure Removal (level : Level) (userId targetId : Uuid) (db db' : OrganizationDb) : Prop where
  found : ∃ row, (db.memberships level).find? (userId, targetId) = some row ∧
    row.deleted = false ∧ db' = db.saveMembership level { row with deleted := true }

theorem createMembership_spec {level : Level} {alreadyMember : String} {userId targetId : Uuid}
    {db db' : OrganizationDb} {row : Membership}
    (h : Commits (createMembership level alreadyMember userId targetId) db row db') :
    (db.memberships level).find? (userId, targetId) = none ∧
      row = { userId, targetId, status := .Active, isPrimary := false } ∧
      db' = db.saveMembership level row := by
  simp only [createMembership, insertMembership, commits_bind, commits_reads, commits_rejectIf,
    commits_get, commits_set, commits_pure] at h
  obtain ⟨_, _, ⟨-, rfl⟩, _, _, ⟨-, rfl⟩, _, _, ⟨rfl, rfl⟩, _, _, ⟨hfresh, rfl⟩, _, _, rfl, rfl,
    rfl⟩ := h
  exact ⟨Option.not_isSome_iff_eq_none.1 hfresh, rfl, rfl⟩

theorem assign_spec {level : Level} {userId targetId : Uuid} {db db' : OrganizationDb}
    {row : Membership} (h : Commits (assign level userId targetId) db row db') :
    Assigned level userId targetId db row db' := by
  cases level with
  | company =>
    simp only [assign, assignCompany, commits_bind, commits_reads, commits_orReject] at h
    obtain ⟨_, _, ⟨-, rfl⟩, _, _, ⟨-, rfl⟩, h⟩ := h
    obtain ⟨hfresh, hrow, hsaved⟩ := createMembership_spec h
    exact ⟨.inl rfl, hfresh, hrow, hsaved⟩
  | branch =>
    simp only [assign, assignBranch, commits_bind, commits_reads, commits_orReject,
      commits_rejectIf] at h
    obtain ⟨_, _, ⟨rfl, rfl⟩, branch, _, ⟨hbranch, rfl⟩, _, _, ⟨rfl, rfl⟩, _, _, ⟨hmember, rfl⟩, h⟩ := h
    obtain ⟨hfresh, hrow, hsaved⟩ := createMembership_spec h
    have hfound := (Option.filter_eq_some_iff.1 hbranch).1
    refine ⟨.inr ⟨(.company, branch.companyId), ?_, ?_⟩, hfresh, hrow, hsaved⟩
    · simp [parent?, hfound]
    · simpa [OrganizationDb.Member, Option.isSome_iff_ne_none] using hmember
  | warehouse =>
    simp only [assign, assignWarehouse, commits_bind, commits_reads, commits_orReject,
      commits_rejectIf] at h
    obtain ⟨_, _, ⟨rfl, rfl⟩, warehouse, _, ⟨hwarehouse, rfl⟩, _, _, ⟨rfl, rfl⟩, _, _,
      ⟨hmember, rfl⟩, h⟩ := h
    obtain ⟨hfresh, hrow, hsaved⟩ := createMembership_spec h
    have hfound := (Option.filter_eq_some_iff.1 hwarehouse).1
    refine ⟨.inr ⟨(.branch, warehouse.branchId), ?_, ?_⟩, hfresh, hrow, hsaved⟩
    · simp [parent?, hfound]
    · simpa [OrganizationDb.Member, Option.isSome_iff_ne_none] using hmember

theorem remove_spec {level : Level} {userId targetId : Uuid} {db db' : OrganizationDb} {u : Unit}
    (h : Commits (remove level userId targetId) db u db') : Removal level userId targetId db db' := by
  have h' : Commits (removeMembership level userId targetId) db u db' := by
    cases level <;> exact h
  simp only [removeMembership, commits_bind, commits_reads, commits_orReject, commits_modify] at h'
  obtain ⟨_, _, ⟨rfl, rfl⟩, row, _, ⟨hfound, rfl⟩, rfl⟩ := h'
  rw [OrganizationDb.findMembership, Option.filter_eq_some_iff] at hfound
  exact ⟨row, hfound.1, by simpa using hfound.2, rfl⟩

variable {request : Request} {level' : Level} {targetId' userId' : Uuid}

theorem step_cases {db db' : OrganizationDb} (h : machine.step db request = some db') :
    (db' = db ∧ ∀ u db₁, ¬ Commits request.call db u db₁) ∨
    (∃ level userId targetId row, request = .assign level userId targetId ∧
      Commits (assign level userId targetId) db row db' ∧
      Assigned level userId targetId db row db') ∨
    ∃ level userId targetId, request = .remove level userId targetId ∧
      Removal level userId targetId db db' := by
  rcases serial_cases h with hnone | ⟨u, hcommits⟩
  · exact .inl hnone
  · cases request with
    | assign level userId targetId =>
      obtain ⟨row, hrow⟩ := (commits_void _ _ _ _).1 hcommits
      exact .inr (.inl ⟨level, userId, targetId, row, rfl, hrow, assign_spec hrow⟩)
    | remove level userId targetId =>
      exact .inr (.inr ⟨level, userId, targetId, rfl, remove_spec hcommits⟩)

theorem remove_commits {level : Level} {userId targetId : Uuid} {db : OrganizationDb}
    (h : (db.findMembership level userId targetId).isSome) :
    ∃ u db', Commits (Request.remove level userId targetId).call db u db' := by
  obtain ⟨row, hrow⟩ := Option.isSome_iff_exists.1 h
  refine ⟨(), db.saveMembership level { row with deleted := true }, ?_⟩
  have hbody : Commits (removeMembership level userId targetId) db ()
      (db.saveMembership level { row with deleted := true }) := by
    simp only [removeMembership, commits_bind, commits_reads, commits_orReject, commits_modify]
    exact ⟨_, db, ⟨rfl, rfl⟩, row, db, ⟨hrow, rfl⟩, rfl⟩
  cases level <;> exact hbody

/-! ## Who is a member after a request -/

section Effects

variable {level : Level} {userId targetId : Uuid} {db db' : OrganizationDb} {row : Membership}

theorem Assigned.master (h : Assigned level userId targetId db row db') :
    db'.master = db.master := by rw [h.saved]; rfl

theorem Removal.master (h : Removal level userId targetId db db') : db'.master = db.master := by
  obtain ⟨row, -, -, rfl⟩ := h.found
  rfl

theorem Assigned.member (h : Assigned level userId targetId db row db') :
    db'.Member level' userId' targetId' ↔
      (level = level' ∧ userId = userId' ∧ targetId = targetId') ∨
        db.Member level' userId' targetId' := by
  obtain ⟨-, hfresh, rfl, rfl⟩ := h
  rw [OrganizationDb.member_iff, OrganizationDb.member_iff, OrganizationDb.find_saveMembership]
  by_cases hkey : level = level' ∧ (userId, targetId) = (userId', targetId')
  · have hsame : level = level' ∧ userId = userId' ∧ targetId = targetId' := by simpa using hkey
    simp [hsame]
  · rw [if_neg hkey, or_iff_right (by simpa using hkey)]

theorem Assigned.removed (h : Assigned level userId targetId db row db') :
    db'.Removed level' userId' targetId' ↔ db.Removed level' userId' targetId' := by
  obtain ⟨-, hfresh, rfl, rfl⟩ := h
  unfold OrganizationDb.Removed
  rw [OrganizationDb.find_saveMembership]
  by_cases hkey : level = level' ∧ (userId, targetId) = (userId', targetId')
  · obtain ⟨rfl, hkey⟩ := hkey
    obtain ⟨rfl, rfl⟩ := Prod.mk.inj hkey
    simp [hfresh]
  · rw [if_neg hkey]

theorem Removal.member (h : Removal level userId targetId db db') :
    db'.Member level' userId' targetId' ↔
      ¬ (level = level' ∧ userId = userId' ∧ targetId = targetId') ∧
        db.Member level' userId' targetId' := by
  obtain ⟨row, hrow, -, rfl⟩ := h.found
  have hkey₀ : (row.userId, row.targetId) = (userId, targetId) := Table.key_of_find? hrow
  rw [OrganizationDb.member_iff, OrganizationDb.member_iff, OrganizationDb.find_saveMembership]
  simp only [hkey₀]
  by_cases hkey : level = level' ∧ (userId, targetId) = (userId', targetId')
  · simp only [if_pos hkey]
    simp_all
  · rw [if_neg hkey]
    have hne : ¬ (level = level' ∧ userId = userId' ∧ targetId = targetId') := by simpa using hkey
    simp [hne]

theorem Removal.removed (h : Removal level userId targetId db db') :
    db'.Removed level' userId' targetId' ↔
      (level = level' ∧ userId = userId' ∧ targetId = targetId') ∨
        db.Removed level' userId' targetId' := by
  obtain ⟨row, hrow, -, rfl⟩ := h.found
  have hkey₀ : (row.userId, row.targetId) = (userId, targetId) := Table.key_of_find? hrow
  unfold OrganizationDb.Removed
  rw [OrganizationDb.find_saveMembership]
  simp only [hkey₀]
  by_cases hkey : level = level' ∧ (userId, targetId) = (userId', targetId')
  · have hsame : level = level' ∧ userId = userId' ∧ targetId = targetId' := by simpa using hkey
    simp [hsame]
  · rw [if_neg hkey, or_iff_right (by simpa using hkey)]

theorem Assigned.parentActive (h : Assigned level userId targetId db row db') :
    ParentActive db' level' userId' targetId' ↔
      ParentActive db level' userId' targetId' ∨
        parent? db.master level' targetId' = some (level, targetId) ∧ userId = userId' := by
  unfold ParentActive
  rw [h.master, or_assoc]
  refine or_congr Iff.rfl ⟨?_, ?_⟩
  · rintro ⟨above, habove, hmember⟩
    rcases h.member.1 hmember with ⟨hlevel, huser, htarget⟩ | hmember
    · exact .inr ⟨by rw [hlevel, htarget]; exact habove, huser⟩
    · exact .inl ⟨above, habove, hmember⟩
  · rintro (⟨above, habove, hmember⟩ | ⟨habove, huser⟩)
    · exact ⟨above, habove, h.member.2 (.inr hmember)⟩
    · exact ⟨(level, targetId), habove, h.member.2 (.inl ⟨rfl, huser, rfl⟩)⟩

theorem Removal.parentActive (h : Removal level userId targetId db db')
    (hactive : ParentActive db' level' userId' targetId') :
    ParentActive db level' userId' targetId' := by
  rcases hactive with hcompany | ⟨above, habove, hmember⟩
  · exact .inl hcompany
  · exact .inr ⟨above, by rwa [h.master] at habove, (h.member.1 hmember).2⟩

end Effects

/-! ## What keeps the hierarchy -/

theorem parent?_ne {master : MasterData} {level : Level} {targetId : Uuid} {above : Level × Uuid}
    (h : parent? master level targetId = some above) : level ≠ above.1 := by
  rintro rfl
  cases hlevel : above.1 with
  | company =>
    rw [hlevel] at h
    cases h
  | branch =>
    rw [hlevel] at h
    obtain ⟨branch, -, rfl⟩ := Option.map_eq_some_iff.1 h
    cases hlevel
  | warehouse =>
    rw [hlevel] at h
    obtain ⟨warehouse, -, rfl⟩ := Option.map_eq_some_iff.1 h
    cases hlevel

/-- A removal takes no active membership away from above another one. -/
def RemovesLeaf (db : OrganizationDb) : Request → Prop
  | .assign .. => True
  | .remove level userId targetId =>
    db.Member level userId targetId → NoneBelow db level userId targetId

def LeavesNoneToReassign (db : OrganizationDb) : Request → Prop
  | .assign level userId targetId =>
    (∃ row db', Commits (assign level userId targetId) db row db') →
      NoneRemovedBelow db level userId targetId
  | .remove level userId targetId =>
    (db.findMembership level userId targetId).isSome → ¬ ParentActive db level userId targetId

theorem reassignable_iff {db : OrganizationDb} : Reassignable db ↔
    ∀ level userId targetId, db.Removed level userId targetId →
      ¬ ParentActive db level userId targetId := by
  refine forall_congr' fun level => forall_congr' fun userId => forall_congr' fun targetId =>
    forall_congr' fun hremoved => ⟨fun hagain hactive => ?_, fun hno hactive => absurd hactive hno⟩
  obtain ⟨row, db', hcommits⟩ := hagain hactive
  obtain ⟨held, hheld, -⟩ := hremoved
  rw [(assign_spec hcommits).fresh] at hheld
  cases hheld

theorem find_of_member {db : OrganizationDb} {level : Level} {userId targetId : Uuid}
    (h : db.Member level userId targetId) : (db.findMembership level userId targetId).isSome := by
  obtain ⟨row, hrow⟩ := Option.isSome_iff_exists.1 h
  exact Option.isSome_iff_exists.2 ⟨row, (Option.filter_eq_some_iff.1 hrow).1⟩

theorem removal_of_found {db db' : OrganizationDb} {level : Level} {userId targetId : Uuid}
    (hs : machine.step db (.remove level userId targetId) = some db')
    (h : (db.findMembership level userId targetId).isSome) :
    Removal level userId targetId db db' := by
  rcases step_cases hs with ⟨-, hnone⟩ | ⟨_, _, _, _, heq, -⟩ | ⟨_, _, _, heq, hremoval⟩
  · obtain ⟨u, db₁, hcommits⟩ := remove_commits h
    exact absurd hcommits (hnone u db₁)
  · cases heq
  · cases heq
    exact hremoval

theorem hierarchy_step {db db' : OrganizationDb} (h : Hierarchy db) (hleaf : RemovesLeaf db request)
    (hs : machine.step db request = some db') : Hierarchy db' := by
  rcases step_cases hs with ⟨rfl, -⟩ | ⟨level, userId, targetId, row, rfl, -, hassigned⟩ |
    ⟨level, userId, targetId, rfl, hremoval⟩
  · exact h
  · intro level' userId' targetId' hmember
    refine hassigned.parentActive.2 (.inl ?_)
    rcases hassigned.member.1 hmember with ⟨rfl, rfl, rfl⟩ | hmember
    · exact hassigned.parent
    · exact h _ _ _ hmember
  · intro level' userId' targetId' hmember
    have hbefore := (hremoval.member.1 hmember).2
    rcases h _ _ _ hbefore with hcompany | ⟨above, habove, hactive⟩
    · exact .inl hcompany
    · refine .inr ⟨above, by rwa [hremoval.master], hremoval.member.2 ⟨?_, hactive⟩⟩
      rintro ⟨rfl, rfl, rfl⟩
      exact hleaf hactive level' targetId' habove hbefore

theorem removesLeaf_of_hierarchy {db db' : OrganizationDb} (hs : machine.step db request = some db')
    (h' : Hierarchy db') : RemovesLeaf db request := by
  cases request with
  | assign => trivial
  | remove level userId targetId =>
    intro hmember below belowId habove hbelow
    have hremoval := removal_of_found hs (find_of_member hmember)
    have hstill : db'.Member below userId belowId :=
      hremoval.member.2 ⟨fun ⟨hlevel, _⟩ => parent?_ne habove hlevel.symm, hbelow⟩
    rcases h' _ _ _ hstill with rfl | ⟨above, habove', hactive⟩
    · cases habove
    · rw [hremoval.master, habove] at habove'
      cases habove'
      exact (hremoval.member.1 hactive).1 ⟨rfl, rfl, rfl⟩

theorem LeavesNoneToReassign.removesLeaf {db : OrganizationDb} (h : Hierarchy db)
    (hleaves : LeavesNoneToReassign db request) : RemovesLeaf db request := by
  cases request with
  | assign => trivial
  | remove level userId targetId =>
    exact fun hmember => absurd (h _ _ _ hmember) (hleaves (find_of_member hmember))

theorem reassignable_step {db db' : OrganizationDb} (h : Reassignable db)
    (hleaves : LeavesNoneToReassign db request) (hs : machine.step db request = some db') :
    Reassignable db' := by
  rcases step_cases hs with ⟨rfl, -⟩ | ⟨level, userId, targetId, row, rfl, hcommits, hassigned⟩ |
    ⟨level, userId, targetId, rfl, hremoval⟩
  · exact h
  · rw [reassignable_iff] at h ⊢
    intro level' userId' targetId' hremoved hactive
    rw [hassigned.removed] at hremoved
    rcases hassigned.parentActive.1 hactive with hactive | ⟨habove, rfl⟩
    · exact h _ _ _ hremoved hactive
    · exact hleaves ⟨row, db', hcommits⟩ level' targetId' habove hremoved
  · rw [reassignable_iff] at h ⊢
    intro level' userId' targetId' hremoved hactive
    have hbefore := hremoval.parentActive hactive
    rcases hremoval.removed.1 hremoved with ⟨rfl, rfl, rfl⟩ | hremoved
    · obtain ⟨row, hrow, hlive, -⟩ := hremoval.found
      refine hleaves ?_ hbefore
      rw [OrganizationDb.findMembership, hrow]
      simp [hlive]
    · exact h _ _ _ hremoved hbefore

theorem leavesNone_of_reassignable {db db' : OrganizationDb}
    (hs : machine.step db request = some db') (h' : Reassignable db') :
    LeavesNoneToReassign db request := by
  rw [reassignable_iff] at h'
  cases request with
  | assign level userId targetId =>
    rintro ⟨row, db₁, hcommits⟩ below belowId habove hremoved
    rcases step_cases hs with ⟨-, hnone⟩ | ⟨_, _, _, _, heq, -, hassigned⟩ | ⟨_, _, _, heq, -⟩
    · exact hnone () db₁ ((commits_void _ _ _ _).2 ⟨row, hcommits⟩)
    · cases heq
      exact h' below userId belowId (hassigned.removed.2 hremoved)
        (hassigned.parentActive.2 (.inr ⟨habove, rfl⟩))
    · cases heq
  | remove level userId targetId =>
    intro hfound hactive
    have hremoval := removal_of_found hs hfound
    refine h' level userId targetId (hremoval.removed.2 (.inl ⟨rfl, rfl, rfl⟩)) ?_
    rcases hactive with hcompany | ⟨above, habove, hmember⟩
    · exact .inl hcompany
    · refine .inr ⟨above, by rwa [hremoval.master], hremoval.member.2 ⟨?_, hmember⟩⟩
      exact fun ⟨hlevel, _⟩ => parent?_ne habove hlevel

/-- When memberships respect the hierarchy, over any requests one after the other.
Each active membership has an active one above it, in every state, exactly when no
removal takes an active membership away from above another. And removed memberships can
be assigned again besides, in every state, exactly when a removal never finds a
membership under an active parent and no assignment gives a removed one its parent back. -/
theorem hierarchy_iff {db db' : OrganizationDb} {ls : List Request} (h : Hierarchy db)
    (hagain : Reassignable db) (hrun : machine.Run db ls db') :
    ((∀ ks, ks <+: ls → ∀ db₁, machine.Run db ks db₁ → Hierarchy db₁) ↔
      machine.RunWith RemovesLeaf db ls db') ∧
    ((∀ ks, ks <+: ls → ∀ db₁, machine.Run db ks db₁ → Hierarchy db₁ ∧ Reassignable db₁) ↔
      machine.RunWith LeavesNoneToReassign db ls db') := by
  constructor
  · exact Machine.prefixes_iff_runWith (fun _ _ _ h hleaf hs => hierarchy_step h hleaf hs)
      (fun _ h => h) (fun _ _ _ _ hs h' => removesLeaf_of_hierarchy hs h') h hrun
  · refine Machine.prefixes_iff_runWith (fun _ _ _ h hleaves hs => ⟨?_, ?_⟩) (fun _ h => h)
      (fun _ _ _ _ hs h' => leavesNone_of_reassignable hs h'.2) ⟨h, hagain⟩ hrun
    · exact hierarchy_step h.1 (hleaves.removesLeaf h.1) hs
    · exact reassignable_step h.2 hleaves hs

/-! A user of one company with one branch. -/

namespace MembershipDemo

def shop : OrganizationDb where
  master :=
    { companies := .ofRows [{ id := 10, status := .Active, baseCurrency := "MMK" }]
      branches := .ofRows [{ id := 20, companyId := 10, status := .Active }] }

def joins : List Request := [.assign .company 7 10, .assign .branch 7 20]

def leaves : List Request := joins ++ [.remove .company 7 10]

theorem nobody {level : Level} {userId targetId : Uuid} : ¬ shop.Member level userId targetId := by
  rw [OrganizationDb.member_iff]
  rintro ⟨row, hrow, -⟩
  cases hrow

theorem shop_hierarchy : Hierarchy shop := fun _ _ _ h => absurd h nobody

theorem shop_reassignable : Reassignable shop := by
  rintro level userId targetId ⟨row, hrow, -⟩
  cases hrow

end MembershipDemo

open MembershipDemo in
theorem hierarchy_iff_joins : ∃ db, machine.Run shop joins db ∧ db.Member .branch 7 20 ∧
    ((∀ ks, ks <+: joins → ∀ db₁, machine.Run shop ks db₁ → Hierarchy db₁ ∧ Reassignable db₁) ↔
      machine.RunWith LeavesNoneToReassign shop joins db) := by
  obtain ⟨db, hrun, hdb⟩ := Machine.exists_runWith machine (fun _ _ => True) shop joins
    (fun db => db.Member .branch 7 20) (by decide +kernel)
  exact ⟨db, hrun, by simpa using hdb, (hierarchy_iff shop_hierarchy shop_reassignable hrun).2⟩

open MembershipDemo in
theorem branch_outlives_company : Hierarchy shop ∧ Reassignable shop ∧
    ∃ db, machine.Run shop leaves db ∧ ¬ Hierarchy db ∧ ¬ Reassignable db := by
  refine ⟨shop_hierarchy, shop_reassignable, ?_⟩
  obtain ⟨db, hrun, hdb⟩ := Machine.exists_runWith machine (fun _ _ => True) shop leaves
    (fun db => db.Member .branch 7 20 && !db.Member .company 7 10 && db.Removed .company 7 10 &&
      decide (parent? db.master .branch 20 = some (.company, 10))) (by decide +kernel)
  simp only [Bool.and_eq_true, decide_eq_true_eq, Bool.not_eq_true', decide_eq_false_iff_not]
    at hdb
  obtain ⟨⟨⟨hbranch, hcompany⟩, hremoved⟩, hparent⟩ := hdb
  refine ⟨db, hrun, fun h => ?_, fun h => ?_⟩
  · rcases h _ _ _ hbranch with hlevel | ⟨above, habove, hmember⟩
    · cases hlevel
    · rw [hparent] at habove
      cases habove
      exact hcompany hmember
  · exact reassignable_iff.1 h _ _ _ hremoved (.inl rfl)

end UserOrganizationService

end FashionErp
