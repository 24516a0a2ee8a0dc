/-
`DataScopeService`: which records a user's roles let them see.

The scopes all active roles grant for a resource are first collapsed to the broadest one,
by the list `SCOPE_BREADTH`; that one is then resolved against the memberships.
-/
import FashionErp.Access.Entities

namespace FashionErp

open Lib

def SCOPE_BREADTH : List DataScope :=
  [.Own, .Account, .Team, .Branch, .Warehouse, .Company, .Organization, .All]

structure ResolvedScope where
  scope : DataScope
  scopeValue : Option String
  deriving DecidableEq

namespace DataScopeService

/-! ## The broadest scope -/

/-- The two variables of the loops of `resolveScope`. -/
structure Best where
  best : Option ResolvedScope := none
  bestBreadthIndex : ℤ := -1

def consider (resource : String) (found : Best) (roleScope : RoleResourceScope) : Best :=
  if roleScope.resource ≠ resource then found
  else
    let breadthIndex : ℤ := SCOPE_BREADTH.idxOf roleScope.scope
    if breadthIndex > found.bestBreadthIndex then
      { best := some { scope := roleScope.scope, scopeValue := roleScope.scopeValue }
        bestBreadthIndex := breadthIndex }
    else found

def resolveScope (userRoles : List Role) (resource : String) : Option ResolvedScope :=
  (userRoles.foldl (fun found (role : Role) =>
    role.resourceScopes.foldl (consider resource) found) {}).best

def roleScopes (userRoles : List Role) : List RoleResourceScope :=
  userRoles.flatMap Role.resourceScopes

def Grants (userRoles : List Role) (resource : String) (scope : DataScope) : Prop :=
  ∃ roleScope ∈ roleScopes userRoles, roleScope.resource = resource ∧ roleScope.scope = scope

structure Broadest (userRoles : List Role) (resource : String) (scope : DataScope) : Prop where
  granted : Grants userRoles resource scope
  broadest : ∀ other, Grants userRoles resource other →
    SCOPE_BREADTH.idxOf other ≤ SCOPE_BREADTH.idxOf scope

variable {s t : DataScope}

theorem breadth_injective (h : SCOPE_BREADTH.idxOf s = SCOPE_BREADTH.idxOf t) : s = t := by
  revert h
  cases s <;> cases t <;> decide

variable {userRoles : List Role} {resource : String} {scope : DataScope}

theorem Broadest.unique (hs : Broadest userRoles resource s)
    (ht : Broadest userRoles resource t) : s = t :=
  breadth_injective (le_antisymm (ht.broadest s hs.granted) (hs.broadest t ht.granted))

/-- What the loops know after the role scopes `seen`. -/
structure Best.Ok (resource : String) (seen : List RoleResourceScope) (found : Best) : Prop where
  unset : found.best = none → found.bestBreadthIndex = -1 ∧
    ∀ roleScope ∈ seen, roleScope.resource ≠ resource
  set : ∀ resolved, found.best = some resolved →
    found.bestBreadthIndex = SCOPE_BREADTH.idxOf resolved.scope ∧
    (∃ roleScope ∈ seen, roleScope.resource = resource ∧ roleScope.scope = resolved.scope) ∧
    ∀ roleScope ∈ seen, roleScope.resource = resource →
      SCOPE_BREADTH.idxOf roleScope.scope ≤ SCOPE_BREADTH.idxOf resolved.scope

theorem Best.Ok.consider {seen : List RoleResourceScope} {found : Best} (h : found.Ok resource seen)
    (roleScope : RoleResourceScope) :
    (consider resource found roleScope).Ok resource (seen ++ [roleScope]) := by
  unfold DataScopeService.consider
  by_cases hresource : roleScope.resource = resource
  · rw [if_neg (not_not.2 hresource)]
    dsimp only
    by_cases hbroader : (SCOPE_BREADTH.idxOf roleScope.scope : ℤ) > found.bestBreadthIndex
    · -- the new scope is broader than all before it
      rw [if_pos hbroader]
      refine ⟨fun hbest => (by cases hbest), fun resolved hresolved => ?_⟩
      cases hresolved
      refine ⟨rfl, ⟨roleScope, by simp, hresource, rfl⟩, fun other hother hfor => ?_⟩
      rcases List.mem_append.1 hother with hother | hother
      · cases hbest : found.best with
        | none => exact absurd hfor ((h.unset hbest).2 other hother)
        | some before =>
          obtain ⟨hindex, -, hall⟩ := h.set before hbest
          have hle := hall other hother hfor
          change SCOPE_BREADTH.idxOf other.scope ≤ SCOPE_BREADTH.idxOf roleScope.scope
          omega
      · rw [List.mem_singleton.1 hother]
    · rw [if_neg hbroader]
      refine ⟨fun hbest => ?_, fun resolved hresolved => ?_⟩
      · -- an index is never negative, so the first scope for the resource is taken
        have hindex := (h.unset hbest).1
        omega
      · obtain ⟨hindex, ⟨held, hheld, hfor⟩, hall⟩ := h.set resolved hresolved
        refine ⟨hindex, ⟨held, List.mem_append_left _ hheld, hfor⟩, fun other hother hother' => ?_⟩
        rcases List.mem_append.1 hother with hother | hother
        · exact hall other hother hother'
        · rw [List.mem_singleton.1 hother]
          omega
  · rw [if_pos hresource]
    refine ⟨fun hbest => ?_, fun resolved hresolved => ?_⟩
    · obtain ⟨hindex, hnone⟩ := h.unset hbest
      refine ⟨hindex, fun other hother => ?_⟩
      rcases List.mem_append.1 hother with hother | hother
      · exact hnone other hother
      · rwa [List.mem_singleton.1 hother]
    · obtain ⟨hindex, ⟨held, hheld, hfor⟩, hall⟩ := h.set resolved hresolved
      refine ⟨hindex, ⟨held, List.mem_append_left _ hheld, hfor⟩, fun other hother hother' => ?_⟩
      rcases List.mem_append.1 hother with hother | hother
      · exact hall other hother hother'
      · rw [List.mem_singleton.1 hother] at hother'
        exact absurd hother' hresource

theorem Best.Ok.foldl (rest : List RoleResourceScope) :
    ∀ {seen : List RoleResourceScope} {found : Best}, found.Ok resource seen →
      (rest.foldl (DataScopeService.consider resource) found).Ok resource (seen ++ rest) := by
  induction rest with
  | nil => intro seen found h; simpa using h
  | cons roleScope rest ih =>
    intro seen found h
    rw [List.foldl_cons, List.append_cons]
    exact ih (h.consider roleScope)

theorem found_ok (userRoles : List Role) (resource : String) :
    (userRoles.foldl (fun found (role : Role) =>
      role.resourceScopes.foldl (consider resource) found) {}).Ok resource
        (roleScopes userRoles) := by
  have hstart : Best.Ok resource [] {} :=
    ⟨fun _ => ⟨rfl, fun _ h => absurd h (List.not_mem_nil)⟩, fun _ h => by cases h⟩
  have h := hstart.foldl (roleScopes userRoles)
  rwa [List.nil_append, roleScopes, List.foldl_flatMap] at h

theorem resolveScope_none (h : resolveScope userRoles resource = none) (scope : DataScope) :
    ¬ Grants userRoles resource scope := fun ⟨roleScope, hmem, hfor, _⟩ =>
  ((found_ok userRoles resource).unset h).2 roleScope hmem hfor

theorem resolveScope_some {resolved : ResolvedScope}
    (h : resolveScope userRoles resource = some resolved) :
    Broadest userRoles resource resolved.scope := by
  obtain ⟨-, hgranted, hall⟩ := (found_ok userRoles resource).set resolved h
  refine ⟨hgranted, ?_⟩
  rintro _ ⟨other, hother, hfor, rfl⟩
  exact hall other hother hfor

theorem Broadest.resolved (h : Broadest userRoles resource scope) :
    ∃ resolved, resolveScope userRoles resource = some resolved ∧ resolved.scope = scope := by
  cases hresolved : resolveScope userRoles resource with
  | none => exact absurd h.granted (resolveScope_none hresolved scope)
  | some resolved => exact ⟨resolved, rfl, (resolveScope_some hresolved).unique h⟩

theorem Grants.exists_broadest (h : Grants userRoles resource scope) :
    ∃ broadest, Broadest userRoles resource broadest := by
  cases hresolved : resolveScope userRoles resource with
  | none => exact absurd h (resolveScope_none hresolved scope)
  | some resolved => exact ⟨resolved.scope, resolveScope_some hresolved⟩

/-! ## What a scope resolves to

`none` is no restriction, a list the ids that are allowed. A membership of a branch or a
warehouse that is gone has no relation to read the company from: a `TypeError`. -/

abbrev AllowedIds := Except Failure (Option (List Uuid))

def membershipIds (db : OrganizationDb) (level : Level) (userId : Uuid) : List Uuid :=
  (db.activeMemberships level userId).map Membership.targetId

def resolveAllowedOrganizationIds (db : OrganizationDb) (userId : Uuid)
    (resolved : ResolvedScope) : AllowedIds :=
  if resolved.scope = .All then .ok none
  else if resolved.scope = .Company then .ok (some (membershipIds db .company userId))
  else if resolved.scope = .Branch then .ok (some (membershipIds db .branch userId))
  else if resolved.scope = .Warehouse then .ok (some (membershipIds db .warehouse userId))
  else .ok (some [])

/-- `membership.branch.companyId` or `membership.warehouse.companyId`. -/
def relationCompanyId (db : OrganizationDb) : Level → Membership → Except Failure Uuid
  | .company, row => .ok row.targetId
  | .branch, row => match (db.master.branches.find? row.targetId).filter (! ·.deleted) with
    | some branch => .ok branch.companyId
    | none => .error .typeError
  | .warehouse, row => match (db.master.warehouses.find? row.targetId).filter (! ·.deleted) with
    | some warehouse => .ok warehouse.companyId
    | none => .error .typeError

/-- `Array.from(new Set(memberships.map(..)))` of the companies of the relation. -/
def relationCompanyIds (db : OrganizationDb) (level : Level) (userId : Uuid) :
    Except Failure (List Uuid) := do
  let companyIds ← (db.activeMemberships level userId).mapM (relationCompanyId db level)
  return companyIds.eraseDups

def resolveAllowedCompanyIds (db : OrganizationDb) (userId : Uuid) (resolved : ResolvedScope) :
    AllowedIds := do
  if resolved.scope = .All then return none
  else if resolved.scope = .Company then return some (membershipIds db .company userId)
  else if resolved.scope = .Branch then return some (← relationCompanyIds db .branch userId)
  else if resolved.scope = .Warehouse then return some (← relationCompanyIds db .warehouse userId)
  else return some []

def resolveAllowedBranchIds (db : OrganizationDb) (userId : Uuid) (resolved : ResolvedScope) :
    AllowedIds :=
  if resolved.scope = .All ∨ resolved.scope = .Company then .ok none
  else if resolved.scope = .Branch then .ok (some (membershipIds db .branch userId))
  else .ok (some [])

def Lets (allowed : AllowedIds) (id : Uuid) : Prop :=
  ∃ ids, allowed = .ok ids ∧ ∀ list ∈ ids, id ∈ list

def Allows (resolver : OrganizationDb → Uuid → ResolvedScope → AllowedIds) (db : OrganizationDb)
    (userId : Uuid) (userRoles : List Role) (resource : String) (id : Uuid) : Prop :=
  ∃ resolved, resolveScope userRoles resource = some resolved ∧ Lets (resolver db userId resolved) id

@[simp] theorem lets_ok (ids : Option (List Uuid)) (id : Uuid) :
    Lets (.ok ids) id ↔ ∀ list ∈ ids, id ∈ list := by
  unfold Lets
  constructor
  · rintro ⟨_, heq, h⟩
    rwa [Except.ok.inj heq]
  · exact fun h => ⟨ids, rfl, h⟩

@[simp] theorem not_lets_error (failure : Failure) (id : Uuid) : ¬ Lets (.error failure) id :=
  fun ⟨_, heq, _⟩ => by cases heq

/-! Each resolver, scope by scope. -/

section Resolvers

variable (db : OrganizationDb) (userId : Uuid)

def Related (level : Level) : Prop :=
  ∀ row ∈ db.activeMemberships level userId, ∃ companyId, relationCompanyId db level row = .ok companyId

def BelongsTo (level : Level) (companyId : Uuid) : Prop :=
  ∃ row ∈ db.activeMemberships level userId, relationCompanyId db level row = .ok companyId

/-- The ids `resolveAllowedOrganizationIds` allows under a scope. -/
def OrganizationReach : DataScope → Uuid → Prop
  | .All, _ => True
  | .Company, id => id ∈ membershipIds db .company userId
  | .Branch, id => id ∈ membershipIds db .branch userId
  | .Warehouse, id => id ∈ membershipIds db .warehouse userId
  | _, _ => False

/-- The ids `resolveAllowedCompanyIds` allows under a scope. -/
def CompanyReach : DataScope → Uuid → Prop
  | .All, _ => True
  | .Company, id => id ∈ membershipIds db .company userId
  | .Branch, id => Related db userId .branch ∧ BelongsTo db userId .branch id
  | .Warehouse, id => Related db userId .warehouse ∧ BelongsTo db userId .warehouse id
  | _, _ => False

/-- The ids `resolveAllowedBranchIds` allows under a scope. -/
def BranchReach : DataScope → Uuid → Prop
  | .All, _ | .Company, _ => True
  | .Branch, id => id ∈ membershipIds db .branch userId
  | _, _ => False

theorem lets_organizationIds (resolved : ResolvedScope) (id : Uuid) :
    Lets (resolveAllowedOrganizationIds db userId resolved) id ↔
      OrganizationReach db userId resolved.scope id := by
  obtain ⟨scope, scopeValue⟩ := resolved
  cases scope <;> simp [resolveAllowedOrganizationIds, OrganizationReach]

theorem lets_branchIds (resolved : ResolvedScope) (id : Uuid) :
    Lets (resolveAllowedBranchIds db userId resolved) id ↔
      BranchReach db userId resolved.scope id := by
  obtain ⟨scope, scopeValue⟩ := resolved
  cases scope <;> simp [resolveAllowedBranchIds, BranchReach]

variable {db userId}

theorem lets_relationCompanyIds (level : Level) (id : Uuid) :
    Lets (relationCompanyIds db level userId >>= fun ids => pure (some ids)) id ↔
      Related db userId level ∧ BelongsTo db userId level id := by
  unfold relationCompanyIds Related BelongsTo
  rw [← mapM_ok_iff]
  cases hmap : (db.activeMemberships level userId).mapM (relationCompanyId db level) with
  | error failure => simp [bind, Except.bind]
  | ok companyIds =>
    simp [bind, Except.bind, pure, Except.pure, List.mem_eraseDups, mem_mapM_ok hmap]

theorem lets_companyIds (resolved : ResolvedScope) (id : Uuid) :
    Lets (resolveAllowedCompanyIds db userId resolved) id ↔
      CompanyReach db userId resolved.scope id := by
  obtain ⟨scope, scopeValue⟩ := resolved
  cases scope
  case Branch => simpa [resolveAllowedCompanyIds, CompanyReach] using lets_relationCompanyIds .branch id
  case Warehouse =>
    simpa [resolveAllowedCompanyIds, CompanyReach] using lets_relationCompanyIds .warehouse id
  all_goals simp [resolveAllowedCompanyIds, CompanyReach, pure, Except.pure]

/-! ## What a further role must not do -/

variable (db userId) in
/-- When a broader scope keeps what a narrower one allows. A scope no resolver knows
allows nothing, so nothing is lost. A branch or warehouse scope may become that of the
company only if the leaf memberships and the companies they belong to are among the
user's company memberships, and anything else but ALL only if it allowed nothing. -/
def KeepsAccess : DataScope → DataScope → Prop
  | _, .All | .Company, .Company | .Branch, .Branch | .Warehouse, .Warehouse => True
  | .Branch, .Company => Covered .branch
  | .Warehouse, .Company => Covered .warehouse
  | .Branch, _ => db.activeMemberships .branch userId = []
  | .Warehouse, _ => db.activeMemberships .warehouse userId = []
  | .Company, _ | .All, _ => False
  | _, _ => True
where
  Covered (level : Level) : Prop :=
    (∀ id ∈ membershipIds db level userId, id ∈ membershipIds db .company userId) ∧
    (Related db userId level → ∀ companyId, BelongsTo db userId level companyId →
      companyId ∈ membershipIds db .company userId)

theorem no_membershipIds (level : Level) :
    (∀ id, id ∉ membershipIds db level userId) ↔ db.activeMemberships level userId = [] := by
  rw [← List.eq_nil_iff_forall_not_mem, membershipIds, List.map_eq_nil_iff]

theorem not_belongsTo {level : Level} (h : db.activeMemberships level userId = [])
    (companyId : Uuid) : ¬ BelongsTo db userId level companyId := by
  rintro ⟨row, hrow, -⟩
  rw [h] at hrow
  exact absurd hrow List.not_mem_nil

theorem keepsAccess_iff (h : SCOPE_BREADTH.idxOf s ≤ SCOPE_BREADTH.idxOf t) :
    KeepsAccess db userId s t ↔
      (∀ id, OrganizationReach db userId s id → OrganizationReach db userId t id) ∧
      (∀ id, CompanyReach db userId s id → CompanyReach db userId t id) ∧
      ∀ id, BranchReach db userId s id → BranchReach db userId t id := by
  -- the pairs against the order of the list do not occur
  revert h
  cases s with
  | Own | Account | Team | Organization =>
    cases t <;> simp [KeepsAccess, OrganizationReach, CompanyReach, BranchReach]
  | All => cases t <;> simp [KeepsAccess, OrganizationReach, CompanyReach, BranchReach, SCOPE_BREADTH]
  | Company =>
    cases t <;> simp [KeepsAccess, OrganizationReach, CompanyReach, BranchReach, SCOPE_BREADTH]
  | Branch =>
    intro h
    cases t with
    | All | Branch => simp [KeepsAccess, OrganizationReach, CompanyReach, BranchReach]
    | Company =>
      simp [KeepsAccess, KeepsAccess.Covered, OrganizationReach, CompanyReach, BranchReach]
      tauto
    | _ =>
      constructor
      · intro hnone
        refine ⟨fun id hid => ?_, fun id hid => absurd hid.2 (not_belongsTo hnone id), fun id hid => ?_⟩ <;>
        exact absurd hid ((no_membershipIds .branch).2 hnone id)
      · rintro ⟨-, -, hids⟩
        exact (no_membershipIds .branch).1 hids
  | Warehouse =>
    cases t with
    | All | Warehouse => simp [KeepsAccess, OrganizationReach, CompanyReach, BranchReach]
    | Company =>
      simp [KeepsAccess, KeepsAccess.Covered, OrganizationReach, CompanyReach, BranchReach]
      tauto
    | Branch => exact fun h => absurd h (by decide)
    | _ =>
      intro _
      constructor
      · intro hnone
        exact ⟨fun id hid => absurd hid ((no_membershipIds .warehouse).2 hnone id),
          fun id hid => absurd hid.2 (not_belongsTo hnone id), fun id hid => hid⟩
      · rintro ⟨hids, -, -⟩
        exact (no_membershipIds .warehouse).1 hids

end Resolvers

/-- Each of the three resolvers allows under `T` all it allows under `S`. -/
def NothingLost (db : OrganizationDb) (userId : Uuid) (resource : String) (S T : List Role) : Prop :=
  ∀ resolver ∈ [resolveAllowedOrganizationIds, resolveAllowedCompanyIds, resolveAllowedBranchIds],
    ∀ id, Allows resolver db userId S resource id → Allows resolver db userId T resource id

variable {resolver : OrganizationDb → Uuid → ResolvedScope → AllowedIds}

theorem allows_iff
    {db : OrganizationDb} {userId : Uuid} {id : Uuid} {reach : DataScope → Uuid → Prop}
    (hreach : ∀ resolved id, Lets (resolver db userId resolved) id ↔ reach resolved.scope id)
    (hscope : Broadest userRoles resource scope) :
    Allows resolver db userId userRoles resource id ↔ reach scope id := by
  obtain ⟨resolved, hresolved, rfl⟩ := hscope.resolved
  unfold Allows
  simp only [hresolved, Option.some.injEq, exists_eq_left', hreach]

theorem Allows.exists_broadest {db : OrganizationDb} {userId : Uuid} {id : Uuid}
    (h : Allows resolver db userId userRoles resource id) :
    ∃ scope, Broadest userRoles resource scope := by
  obtain ⟨resolved, hresolved, -⟩ := h
  exact ⟨resolved.scope, resolveScope_some hresolved⟩

theorem Grants.mono {S T : List Role} (h : roleScopes S ⊆ roleScopes T) :
    Grants S resource scope → Grants T resource scope :=
  fun ⟨roleScope, hmem, hfor⟩ => ⟨roleScope, h hmem, hfor⟩

/-- When further roles take no access away. Let `T` grant every scope `S` grants.
Then the three resolvers allow under `T` all they allow under `S` exactly when the
broadest scope of `T` keeps the access of the broadest of `S`, or `S` has none. -/
theorem granting_keeps_access_iff (db : OrganizationDb) (userId : Uuid) (resource : String)
    (S T : List Role) (h : roleScopes S ⊆ roleScopes T) :
    NothingLost db userId resource S T ↔
      ∀ s t, Broadest S resource s → Broadest T resource t → KeepsAccess db userId s t := by
  have hpair : ∀ {s t}, Broadest S resource s → Broadest T resource t →
      (NothingLost db userId resource S T ↔ KeepsAccess db userId s t) := by
    intro s t hs ht
    rw [keepsAccess_iff (ht.broadest s (hs.granted.mono h))]
    simp only [NothingLost, List.forall_mem_cons, allows_iff (lets_organizationIds db userId) hs,
      allows_iff (lets_organizationIds db userId) ht, allows_iff lets_companyIds hs,
      allows_iff lets_companyIds ht, allows_iff (lets_branchIds db userId) hs,
      allows_iff (lets_branchIds db userId) ht]
    simp
  constructor
  · exact fun hall s t hs ht => (hpair hs ht).1 hall
  · intro hkeeps resolver hresolver id hallows
    obtain ⟨s, hs⟩ := hallows.exists_broadest
    obtain ⟨t, ht⟩ := (hs.granted.mono h).exists_broadest
    exact (hpair hs ht).2 (hkeeps s t hs ht) resolver hresolver id hallows

/-! A user with a company, first under a role of company scope and then also under one
of organization scope. -/

namespace ScopeDemo

def companyRole : Role :=
  { id := 1, code := "CASHIER", resourceScopes := [{ resource := "reports", scope := .Company }] }

def organizationRole : Role :=
  { id := 2, code := "ANALYST", resourceScopes := [{ resource := "reports", scope := .Organization }] }

def shop : OrganizationDb where
  memberships
    | .company => .ofRows [{ userId := 7, targetId := 10 }]
    | _ => .empty

end ScopeDemo

open ScopeDemo in
theorem granting_keeps_access_iff_analyst :
    roleScopes [companyRole] ⊆ roleScopes [companyRole, organizationRole] ∧
      (NothingLost shop 7 "reports" [companyRole] [companyRole, organizationRole] ↔
        ∀ s t, Broadest [companyRole] "reports" s →
          Broadest [companyRole, organizationRole] "reports" t → KeepsAccess shop 7 s t) :=
  ⟨by decide, granting_keeps_access_iff shop 7 "reports" _ _ (by decide)⟩

open ScopeDemo in
theorem analyst_role_takes_access_away :
    roleScopes [companyRole] ⊆ roleScopes [companyRole, organizationRole] ∧
      ¬ NothingLost shop 7 "reports" [companyRole] [companyRole, organizationRole] := by
  refine ⟨by decide, fun hkept => ?_⟩
  have hbefore : Allows resolveAllowedOrganizationIds shop 7 [companyRole] "reports" 10 :=
    ⟨{ scope := .Company, scopeValue := none }, by decide +kernel,
      some [10], by decide +kernel, by decide⟩
  obtain ⟨resolved, hresolved, hafter⟩ := hkept _ (List.mem_cons_self ..) 10 hbefore
  have hscope : resolveScope [companyRole, organizationRole] "reports" =
      some { scope := .Organization, scopeValue := none } := by decide +kernel
  obtain rfl := Option.some.inj (hscope.symm.trans hresolved)
  rw [lets_organizationIds] at hafter
  exact hafter

end DataScopeService

end FashionErp
