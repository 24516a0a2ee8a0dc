/-
The scope of a report request: `resolve-request-company-id.ts` and
`resolve-request-company-branch-scope.ts` of `master-data/utils`.

A request may name a company and a branch.
-/
import FashionErp.Access.DataScopes

namespace FashionErp

open Lib DataScopeService

structure ResolvedCompanyBranchScope where
  companyId : Uuid
  branchId : Option Uuid
  allowedBranchIds : Option (List Uuid)
  deriving DecidableEq

def resolveRequestCompanyId (db : OrganizationDb) (userRoles : List Role) (userId : Uuid)
    (resource : String) (requestedCompanyId : Option Uuid) : Except Failure Uuid := do
  let some resolved := resolveScope userRoles resource
    | throw (appException .Forbidden "No data scope is configured for this resource")
  match ← resolveAllowedCompanyIds db userId resolved, requestedCompanyId with
  | none, none => throw (appException .ValidationError "companyId is required")
  | none, some requestedCompanyId => return requestedCompanyId
  | some [], _ => throw (appException .Forbidden "No authorized company access for this resource")
  | some allowedCompanyIds, some requestedCompanyId =>
    if requestedCompanyId ∈ allowedCompanyIds then return requestedCompanyId
    else throw (appException .Forbidden "You do not have access to the requested company")
  | some [companyId], none => return companyId
  | some _, none =>
    throw (appException .ValidationError
      "companyId is required when you have access to multiple companies")

def resolveRequestCompanyBranchScope (db : OrganizationDb) (userRoles : List Role) (userId : Uuid)
    (resource : String) (requestedCompanyId requestedBranchId : Option Uuid) :
    Except Failure ResolvedCompanyBranchScope := do
  let some resolved := resolveScope userRoles resource
    | throw (appException .Forbidden "No data scope is configured for this resource")
  if resolved.scope = .Warehouse then
    throw (appException .Forbidden "Warehouse-scoped access is not supported for this resource")
  let companyId ← resolveRequestCompanyId db userRoles userId resource requestedCompanyId
  match ← resolveAllowedBranchIds db userId resolved, requestedBranchId with
  | none, _ =>
    return { companyId := companyId, branchId := requestedBranchId, allowedBranchIds := none }
  | some [], _ => throw (appException .Forbidden "No authorized branch access for this resource")
  | some allowedBranchIds, some requestedBranchId =>
    if requestedBranchId ∈ allowedBranchIds then
      return { companyId := companyId, branchId := some requestedBranchId,
               allowedBranchIds := some [requestedBranchId] }
    else throw (appException .Forbidden "You do not have access to the requested branch")
  | some allowedBranchIds, none =>
    return { companyId := companyId, branchId := none, allowedBranchIds := some allowedBranchIds }

def ResolvedCompanyBranchScope.inBranchScope (scope : ResolvedCompanyBranchScope)
    (rowBranchId : Option Uuid) : Bool :=
  match scope.branchId, scope.allowedBranchIds with
  | some branchId, _ => rowBranchId = some branchId
  | none, some (b :: bs) => rowBranchId.any fun id => (b :: bs).contains id
  | none, _ => true

/-! ## What a user may see -/

structure Reach where
  companyId : Uuid
  branches : Option (List Uuid)

def userBranches (db : OrganizationDb) (userId : Uuid) (scope : DataScope) : Option (List Uuid) :=
  if scope = .Branch then some (membershipIds db .branch userId) else none

namespace Reach

variable (r : Reach)

def sees (companyId : Uuid) (branchId : Option Uuid) : Bool :=
  companyId = r.companyId && r.branches.all fun bs => branchId.any fun id => bs.contains id

end Reach

structure Answers (db : OrganizationDb) (userRoles : List Role) (userId : Uuid) (resource : String)
    (requestedCompanyId requestedBranchId : Option Uuid) (scope : ResolvedCompanyBranchScope)
    (r : Reach) : Prop where
  company : r.companyId = scope.companyId
  requestedCompany : ∀ c ∈ requestedCompanyId, c = scope.companyId
  requestedBranch : scope.branchId = requestedBranchId
  resolved : ∃ resolved, resolveScope userRoles resource = some resolved ∧
    resolved.scope ≠ .Warehouse ∧ CompanyReach db userId resolved.scope scope.companyId ∧
    r.branches = userBranches db userId resolved.scope
  branches : ∀ bs ∈ r.branches, bs ≠ [] ∧ (∀ b ∈ requestedBranchId, b ∈ bs) ∧
    (requestedBranchId = none → scope.allowedBranchIds = some bs)

/-! ## The resolvers -/

section Resolvers

variable {db : OrganizationDb} {userRoles : List Role} {userId : Uuid} {resource : String}
  {requestedCompanyId requestedBranchId : Option Uuid}

theorem resolveRequestCompanyId_ok {companyId : Uuid}
    (h : resolveRequestCompanyId db userRoles userId resource requestedCompanyId = .ok companyId) :
    (∀ c ∈ requestedCompanyId, c = companyId) ∧
      ∃ resolved, resolveScope userRoles resource = some resolved ∧
        Lets (resolveAllowedCompanyIds db userId resolved) companyId := by
  unfold resolveRequestCompanyId at h
  cases hscope : resolveScope userRoles resource with
  | none => rw [hscope] at h; cases h
  | some resolved =>
    simp only [hscope] at h
    cases hids : resolveAllowedCompanyIds db userId resolved with
    | error failure => rw [hids] at h; cases h
    | ok ids =>
      simp only [hids, bind, Except.bind] at h
      refine (fun (key : (∀ c ∈ requestedCompanyId, c = companyId) ∧
        ∀ list ∈ ids, companyId ∈ list) => ⟨key.1, resolved, rfl, ids, hids, key.2⟩) ?_
      split at h
      · cases h
      · cases h
        exact ⟨fun c hc => (Option.some.inj hc).symm, fun _ hlist => (by cases hlist)⟩
      · cases h
      · split at h
        · rename_i hmem
          cases h
          exact ⟨fun c hc => (Option.some.inj hc).symm, fun list hlist =>
            Option.some.inj hlist ▸ hmem⟩
        · cases h
      · cases h
        exact ⟨fun _ hc => (by cases hc), fun list hlist =>
          Option.some.inj hlist ▸ List.mem_singleton_self _⟩
      · cases h

variable {scope : ResolvedCompanyBranchScope}

theorem resolveRequestCompanyBranchScope_ok
    (h : resolveRequestCompanyBranchScope db userRoles userId resource requestedCompanyId
      requestedBranchId = .ok scope) :
    ∃ r, Answers db userRoles userId resource requestedCompanyId requestedBranchId scope r := by
  unfold resolveRequestCompanyBranchScope at h
  cases hscope : resolveScope userRoles resource with
  | none => rw [hscope] at h; cases h
  | some resolved =>
    simp only [hscope] at h
    by_cases hwarehouse : resolved.scope = .Warehouse
    · rw [if_pos hwarehouse] at h
      cases h
    · rw [if_neg hwarehouse] at h
      cases hcompany : resolveRequestCompanyId db userRoles userId resource requestedCompanyId with
      | error failure => rw [hcompany] at h; cases h
      | ok companyId =>
        obtain ⟨hrequested, resolved', hresolved', hlets⟩ := resolveRequestCompanyId_ok hcompany
        obtain rfl : resolved = resolved' := Option.some.inj (hscope.symm.trans hresolved')
        have hreach := (lets_companyIds resolved companyId).1 hlets
        -- the branches as the resolver knows them are those of the user
        have hids : resolveAllowedBranchIds db userId resolved =
            .ok (userBranches db userId resolved.scope) := by
          obtain ⟨scope, scopeValue⟩ := resolved
          cases scope <;>
            simp_all [resolveAllowedBranchIds, userBranches, CompanyReach]
        simp only [hcompany, hids, bind, Except.bind, pure, Except.pure] at h
        cases hbranches : userBranches db userId resolved.scope with
        | none =>
          rw [hbranches] at h
          cases h
          exact ⟨⟨companyId, none⟩, rfl, hrequested, rfl,
            ⟨resolved, hscope, hwarehouse, hreach, hbranches.symm⟩, fun _ hbs => (by cases hbs)⟩
        | some bs =>
          rw [hbranches] at h
          cases bs with
          | nil => cases h
          | cons b bs =>
            have hresolved : ∃ resolved, resolveScope userRoles resource = some resolved ∧
                resolved.scope ≠ .Warehouse ∧ CompanyReach db userId resolved.scope companyId ∧
                some (b :: bs) = userBranches db userId resolved.scope :=
              ⟨resolved, hscope, hwarehouse, hreach, hbranches.symm⟩
            cases requestedBranchId with
            | none =>
              cases h
              refine ⟨⟨companyId, some (b :: bs)⟩, rfl, hrequested, rfl, hresolved, ?_⟩
              intro bs' hbs'
              cases hbs'
              exact ⟨List.cons_ne_nil b bs, fun _ hnone => (by cases hnone), fun _ => rfl⟩
            | some requested =>
              dsimp only at h
              split at h
              · rename_i hmem
                cases h
                refine ⟨⟨companyId, some (b :: bs)⟩, rfl, hrequested, rfl, hresolved, ?_⟩
                intro bs' hbs'
                cases hbs'
                exact ⟨List.cons_ne_nil b bs, fun c hc => Option.some.inj hc ▸ hmem,
                  fun hnone => (by cases hnone)⟩
              · cases h

/-- What the condition lets through is within the reach. -/
theorem Answers.within {r : Reach}
    (h : Answers db userRoles userId resource requestedCompanyId requestedBranchId scope r)
    {rowBranchId : Option Uuid} (hrow : scope.inBranchScope rowBranchId = true) :
    r.sees scope.companyId rowBranchId = true := by
  unfold Reach.sees
  rw [h.company, decide_eq_true rfl, Bool.true_and]
  cases hbranches : r.branches with
  | none => rfl
  | some bs =>
    obtain ⟨hne, hrequested, hall⟩ := h.branches bs hbranches
    unfold ResolvedCompanyBranchScope.inBranchScope at hrow
    rw [h.requestedBranch] at hrow
    cases hbranch : requestedBranchId with
    | some b =>
      simp only [hbranch, decide_eq_true_eq] at hrow
      rw [hrow]
      simpa using hrequested b hbranch
    | none =>
      -- without a requested branch the whole list is handed on, and it is not empty
      rw [hall hbranch, hbranch] at hrow
      cases bs with
      | nil => exact absurd rfl hne
      | cons b bs => exact hrow

end Resolvers

end FashionErp
