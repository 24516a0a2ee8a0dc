/-
`AiToolExecutorService.execute` of `ai-assistant/services/ai-tool-executor.service.ts`: the
one way to a tool of the assistant.

A call passes the guardrail on its arguments, the permission check, the resolution of its
scope and, if its tool writes or asks for it, the approval, and only then is the tool run.
-/
import FashionErp.Access.SuperAdmin
import FashionErp.Assistant.Approvals
import FashionErp.Assistant.Guardrails
import FashionErp.Reports.RequestScope

namespace FashionErp

open Lib

/-! ## `AuthorizationService` -/

structure Permission where
  id : Uuid
  code : String
  deleted : Bool := false

instance : Keyed Permission Uuid := ⟨Permission.id⟩

structure RolePermission where
  roleId : Uuid
  permissionId : Uuid
  deleted : Bool := false

/-- The tables of users and roles, and what the roles permit. -/
structure RbacDb extends AccessDb where
  permissions : Table Permission := .empty
  rolePermissions : List RolePermission := []

/-- The roles of `find({ where: { userId, role: { status: ACTIVE } } })`. -/
def RbacDb.activeRoles (db : RbacDb) (userId : Uuid) : List Role :=
  (db.userRoles.rows.filter fun row => row.userId = userId ∧ ¬ row.deleted).filterMap fun row =>
    (db.findRole row.roleId).filter fun role => role.status = .Active

namespace AuthorizationService

/-- `rolePermission.permission.code`; the join finds no deleted permission. -/
def permissionCode (db : RbacDb) (rolePermission : RolePermission) : Except Failure String :=
  match (db.permissions.find? rolePermission.permissionId).filter fun p => ¬ p.deleted with
  | some permission => .ok permission.code
  | none => .error .typeError

def getEffectivePermissionCodes (db : RbacDb) (userId : Uuid) : Except Failure (List String) :=
  ((db.activeRoles userId).flatMap fun role =>
    db.rolePermissions.filter fun row => row.roleId = role.id ∧ ¬ row.deleted).mapM (permissionCode db)

def can (db : RbacDb) (userId : Uuid) (permissionCode : String) : Except Failure Bool := do
  let codes ← getEffectivePermissionCodes db userId
  return codes.contains permissionCode

end AuthorizationService

/-! ## Tools and calls -/

inductive ToolType
  | read
  | write
  | action
  deriving DecidableEq

structure AiTool where
  name : String
  requiredPermission : String
  dataScopeResource : String
  toolType : Option ToolType := none
  requiresApproval : Option Bool := none

/-- `tool.requiresApproval || toolType === 'write'`. -/
def AiTool.needsApproval (tool : AiTool) : Bool :=
  tool.requiresApproval.getD false || tool.toolType.getD .read = .write

/-- The arguments of `execute`. -/
structure ToolCall (ν : Type) where
  userId : Uuid
  toolName : String
  rawArguments : Json ν
  requestedCompanyId : Option Uuid := none
  requestedBranchId : Option Uuid := none
  approvalToken : Option String := none

structure AiToolExecutionResult (ν : Type) where
  toolName : String
  success : Bool
  result : Option (Json ν) := none
  error : Option String := none
  approvalRequired : Option Bool := none
  approvalToken : Option String := none
  actionSummary : Option String := none

namespace AiToolExecutorService

variable {ν η : Type} [NumberText ν]

/-- `new Map(tools.map((tool) => [tool.name, tool]))`: of two tools with one name the later. -/
def toolsByName (tools : List AiTool) (toolName : String) : Option AiTool :=
  tools.reverse.find? fun tool => tool.name = toolName

/-- The answer of the `catch`. -/
def caught (toolName : String) : Failure → AiToolExecutionResult ν
  | .app _ message => { toolName, success := false, error := some message }
  | _ => { toolName, success := false, error := some "Data could not be retrieved." }

def finalResult : Json ν → Json ν
  | .string rawResult => .string ((AiGuardrailsService.validateOutput rawResult).sanitized.getD "")
  | rawResult => rawResult

def actionSummary (toolName : String) (rawArguments : Json ν) : String :=
  let parameters := Json.stringify rawArguments none
  s!"Human approval required for action '{toolName}' with parameters {parameters}"

inductive Phase (ν : Type)
  | called
  /-- The arguments are safe; `can` is asked. -/
  | authorizing (tool : AiTool)
  /-- The permission is there; the scope is being resolved. -/
  | scoping (tool : AiTool) (checked : RbacDb)
  | approving (tool : AiTool) (checked resolved : RbacDb) (scope : ResolvedCompanyBranchScope)
  | running
  | returned (result : AiToolExecutionResult ν)
  /-- `execute` itself failed. -/
  | rejected (failure : Failure)

structure ToolRun (ν : Type) where
  call : ToolCall ν
  tool : AiTool
  checked : RbacDb
  resolved : RbacDb
  scope : ResolvedCompanyBranchScope
  token : Option String

structure State (ν η : Type) where
  db : RbacDb
  approvals : Approvals.State ν η
  phase : ℕ → Phase ν := fun _ => .called
  runs : List (ToolRun ν) := []

inductive Step (ν : Type)
  | validate
  | authorize
  | resolve
  /-- Everything between the scope and the tool, with a token drawn should one be needed. -/
  | approve (drawn : String)
  | finish (outcome : Except Failure (Json ν))
  | fail (failure : Failure)

inductive Label (ν : Type)
  | step (i : ℕ) (step : Step ν)
  | write (db : RbacDb)
  | advance (ms : ℕ)
  | cleanupExpired

def State.goto (s : State ν η) (i : ℕ) (p : Phase ν) : State ν η :=
  { s with phase := Function.update s.phase i p }

/-- `tool.execute` is called. -/
def State.start (s : State ν η) (i : ℕ) (run : ToolRun ν) : State ν η :=
  { s with
    phase := Function.update s.phase i .running
    runs := run :: s.runs }

def approveStep [DecidableEq η] (sha256 : String → η) (call : ToolCall ν) (s : State ν η) (i : ℕ)
    (tool : AiTool) (checked resolved : RbacDb) (scope : ResolvedCompanyBranchScope)
    (drawn : String) : Option (State ν η) :=
  let run (token : Option String) : ToolRun ν := { call, tool, checked, resolved, scope, token }
  if tool.needsApproval then
    match call.approvalToken.filter (· ≠ "") with
    | some token =>
      let (answer, approvals) := s.approvals.verify sha256 (some token) call.userId scope.companyId
        call.toolName call.rawArguments
      if answer.approved then some (State.start { s with approvals } i (run (some token)))
      else
        let error := (answer.error.filter (· ≠ "")).getD "Approval verification failed."
        some (State.goto { s with approvals } i
          (.returned { toolName := call.toolName, success := false, error := some error }))
    | none =>
      if s.approvals.Fresh drawn then
        let summary := actionSummary call.toolName call.rawArguments
        let approvals := s.approvals.issue sha256 drawn call.userId scope.companyId call.toolName
          call.rawArguments summary DEFAULT_APPROVAL_TTL_MS
        let error := "This action modifies ERP records and requires human approval before execution."
        some (State.goto { s with approvals } i
          (.returned { toolName := call.toolName, success := false, error := some error
                       approvalRequired := some true, approvalToken := some drawn
                       actionSummary := some summary }))
      else none
  else some (s.start i (run none))

/-- One step of the call `i`. -/
def callStep [DecidableEq η] (sha256 : String → η) (tools : List AiTool) (call : ToolCall ν)
    (s : State ν η) (i : ℕ) : Phase ν → Step ν → Option (State ν η)
  | .called, .validate =>
    match toolsByName tools call.toolName with
    | none =>
      let toolName := call.toolName
      some (s.goto i (.returned { toolName, success := false, error := some s!"Unknown tool: {toolName}" }))
    | some tool =>
      let guardrailCheck := AiGuardrailsService.validateArguments call.toolName call.rawArguments
      if guardrailCheck.safe then some (s.goto i (.authorizing tool))
      else
        let error := (guardrailCheck.reason.filter (· ≠ "")).getD "Input validation failed."
        some (s.goto i (.returned { toolName := call.toolName, success := false, error := some error }))
  | .authorizing tool, .authorize =>
    match AuthorizationService.can s.db call.userId tool.requiredPermission with
    | .error failure => some (s.goto i (.rejected failure))
    | .ok true => some (s.goto i (.scoping tool s.db))
    | .ok false =>
      some (s.goto i (.returned
        { toolName := call.toolName, success := false
          error := some "You do not have permission to access this data." }))
  | .authorizing _, .fail failure => some (s.goto i (.rejected failure))
  | .scoping tool checked, .resolve =>
    match resolveRequestCompanyBranchScope s.db.organization (s.db.activeRoles call.userId) call.userId
        tool.dataScopeResource call.requestedCompanyId call.requestedBranchId with
    | .error failure => some (s.goto i (.returned (caught call.toolName failure)))
    | .ok scope => some (s.goto i (.approving tool checked s.db scope))
  | .scoping _ _, .fail failure => some (s.goto i (.returned (caught call.toolName failure)))
  | .approving tool checked resolved scope, .approve drawn =>
    approveStep sha256 call s i tool checked resolved scope drawn
  | .running, .finish (.ok rawResult) =>
    some (s.goto i (.returned
      { toolName := call.toolName, success := true, result := some (finalResult rawResult) }))
  | .running, .finish (.error failure) =>
    some (s.goto i (.returned (caught call.toolName failure)))
  | _, _ => none

def machine [DecidableEq η] (sha256 : String → η) (tools : List AiTool) (call : ℕ → ToolCall ν) :
    Machine (State ν η) (Label ν) where
  step s
    | .step i step => callStep sha256 tools (call i) s i (s.phase i) step
    | .write db => some { s with db }
    | .advance ms => some { s with approvals := { s.approvals with now := s.approvals.now + ms } }
    | .cleanupExpired =>
      some { s with
        approvals := { s.approvals with
          pendingApprovals :=
            AiApprovalService.cleanupExpired s.approvals.now s.approvals.pendingApprovals } }

/-! ## The law -/

def Named (tools : List AiTool) (call : ToolCall ν) (tool : AiTool) : Prop :=
  toolsByName tools call.toolName = some tool ∧
    (AiGuardrailsService.validateArguments call.toolName call.rawArguments).safe = true

def Permitted (call : ToolCall ν) (tool : AiTool) (checked : RbacDb) : Prop :=
  AuthorizationService.can checked call.userId tool.requiredPermission = .ok true

def Scoped (call : ToolCall ν) (tool : AiTool) (resolved : RbacDb)
    (scope : ResolvedCompanyBranchScope) : Prop :=
  resolveRequestCompanyBranchScope resolved.organization (resolved.activeRoles call.userId)
    call.userId tool.dataScopeResource call.requestedCompanyId call.requestedBranchId = .ok scope

structure Gated (tools : List AiTool) (run : ToolRun ν) : Prop where
  named : Named tools run.call run.tool
  permitted : Permitted run.call run.tool run.checked
  inScope : Scoped run.call run.tool run.resolved run.scope

def ToolRun.Sensitive (run : ToolRun ν) (userId companyId : Uuid) (toolName : String) : Prop :=
  run.tool.needsApproval = true ∧ run.call.userId = userId ∧ run.scope.companyId = companyId ∧
    run.call.toolName = toolName

instance (run : ToolRun ν) (userId companyId : Uuid) (toolName : String) :
    Decidable (run.Sensitive userId companyId toolName) :=
  inferInstanceAs (Decidable (_ ∧ _ ∧ _ ∧ _))

def State.sensitiveRuns (s : State ν η) (userId companyId : Uuid) (toolName : String) : ℕ :=
  s.runs.countP fun run => run.Sensitive userId companyId toolName

def State.tokensFor (s : State ν η) (userId companyId : Uuid) (toolName : String) : List String :=
  ((s.approvals.issued.filter fun p => p.1.userId = userId ∧ p.1.companyId = companyId ∧
    p.1.toolName = toolName).map (·.1.token)).dedup

/-- No bypass: every run of a tool has passed the gates, and the sensitive ones were not
more than the tokens issued for them. -/
structure NoBypass (tools : List AiTool) (s : State ν η) : Prop where
  gated : ∀ run ∈ s.runs, Gated tools run
  approved : ∀ userId companyId toolName,
    s.sensitiveRuns userId companyId toolName ≤ (s.tokensFor userId companyId toolName).length

/-! ## What is kept -/

def PhaseOk (tools : List AiTool) (call : ToolCall ν) : Phase ν → Prop
  | .authorizing tool => Named tools call tool
  | .scoping tool checked => Named tools call tool ∧ Permitted call tool checked
  | .approving tool checked resolved scope =>
    Named tools call tool ∧ Permitted call tool checked ∧ Scoped call tool resolved scope
  | _ => True

def IssuedFor (a : Approvals.State ν η) (token : String) (userId companyId : Uuid)
    (toolName : String) : Prop :=
  ∃ p ∈ a.issued, p.1.token = token ∧ p.1.userId = userId ∧ p.1.companyId = companyId ∧
    p.1.toolName = toolName

structure Inv (sha256 : String → η) (tools : List AiTool) (call : ℕ → ToolCall ν)
    (s : State ν η) : Prop where
  approvals : Approvals.Inv sha256 s.approvals
  phase : ∀ i, PhaseOk tools (call i) (s.phase i)
  gated : ∀ run ∈ s.runs, Gated tools run
  tokens : ∀ run ∈ s.runs, run.tool.needsApproval = true → ∃ t, run.token = some t ∧
    IssuedFor s.approvals t run.call.userId run.scope.companyId run.call.toolName
  once : (s.runs.filterMap (·.token)).Nodup
  consumed : ∀ t ∈ s.runs.filterMap (·.token), t ∈ s.approvals.approved

/-- Distinct tokens bound the runs. -/
theorem Inv.noBypass {sha256 : String → η} {tools : List AiTool} {call : ℕ → ToolCall ν}
    {s : State ν η} (h : Inv sha256 tools call s) : NoBypass tools s where
  gated := h.gated
  approved userId companyId toolName := by
    unfold State.sensitiveRuns
    rw [List.countP_eq_length_filter]
    set runs := s.runs.filter fun run => run.Sensitive userId companyId toolName
    have hruns : ∀ run ∈ runs, run ∈ s.runs ∧ run.Sensitive userId companyId toolName :=
      fun run hrun => ⟨(List.mem_filter.1 hrun).1, of_decide_eq_true (List.mem_filter.1 hrun).2⟩
    have hlength : (runs.filterMap (·.token)).length = runs.length := by
      rw [List.length_filterMap_eq_countP, List.countP_eq_length]
      intro run hrun
      obtain ⟨t, ht, -⟩ := h.tokens run (hruns run hrun).1 (hruns run hrun).2.1
      rw [ht]
      rfl
    have hnodup : (runs.filterMap (·.token)).Nodup :=
      (List.Sublist.filterMap _ List.filter_sublist).nodup h.once
    rw [← hlength]
    refine (List.subperm_of_subset hnodup fun t ht => ?_).length_le
    obtain ⟨run, hrun, htoken⟩ := List.mem_filterMap.1 ht
    obtain ⟨hmem, hsensitive, huser, hcompany, hname⟩ := hruns run hrun
    obtain ⟨t', ht', p, hp, hkey, hfor⟩ := h.tokens run hmem hsensitive
    obtain rfl := Option.some.inj (htoken.symm.trans ht')
    unfold State.tokensFor
    rw [List.mem_dedup]
    refine List.mem_map.2 ⟨p, List.mem_filter.2 ⟨hp, ?_⟩, hkey⟩
    rw [decide_eq_true_eq, ← huser, ← hcompany, ← hname]
    exact hfor

structure GoesOn (a a' : Approvals.State ν η) : Prop where
  issued : ∀ p ∈ a.issued, p ∈ a'.issued
  approved : ∀ t ∈ a.approved, t ∈ a'.approved

section Steps

variable {sha256 : String → η} {tools : List AiTool} {call : ℕ → ToolCall ν} {s s' : State ν η}
  {i : ℕ}

theorem Inv.goto (h : Inv sha256 tools call s) {a : Approvals.State ν η} {p : Phase ν}
    (ha : Approvals.Inv sha256 a) (hon : GoesOn s.approvals a) (hp : PhaseOk tools (call i) p) :
    Inv sha256 tools call (State.goto { s with approvals := a } i p) where
  approvals := ha
  phase j := by
    by_cases hj : j = i
    · subst hj
      show PhaseOk tools (call j) (Function.update s.phase j p j)
      rw [Function.update_self]
      exact hp
    · show PhaseOk tools (call j) (Function.update s.phase i p j)
      rw [Function.update_of_ne hj]
      exact h.phase j
  gated := h.gated
  tokens run hrun hneeds := by
    obtain ⟨t, ht, q, hq, hfor⟩ := h.tokens run hrun hneeds
    exact ⟨t, ht, q, hon.issued q hq, hfor⟩
  once := h.once
  consumed t ht := hon.approved t (h.consumed t ht)

theorem Inv.start (h : Inv sha256 tools call s) {a : Approvals.State ν η} {run : ToolRun ν}
    (ha : Approvals.Inv sha256 a) (hon : GoesOn s.approvals a) (hgated : Gated tools run)
    (hneeds : run.tool.needsApproval = true → run.token.isSome)
    (htoken : ∀ t ∈ run.token, t ∉ s.approvals.approved ∧ t ∈ a.approved ∧
      IssuedFor a t run.call.userId run.scope.companyId run.call.toolName) :
    Inv sha256 tools call (State.start { s with approvals := a } i run) where
  approvals := ha
  phase j := by
    by_cases hj : j = i
    · subst hj
      show PhaseOk tools (call j) (Function.update s.phase j .running j)
      rw [Function.update_self]
      trivial
    · show PhaseOk tools (call j) (Function.update s.phase i .running j)
      rw [Function.update_of_ne hj]
      exact h.phase j
  gated r hr := by
    rcases List.mem_cons.1 hr with rfl | hr
    · exact hgated
    · exact h.gated r hr
  tokens r hr hr' := by
    rcases List.mem_cons.1 hr with rfl | hr
    · obtain ⟨t, ht⟩ := Option.isSome_iff_exists.1 (hneeds hr')
      exact ⟨t, ht, (htoken t ht).2.2⟩
    · obtain ⟨t, ht, q, hq, hfor⟩ := h.tokens r hr hr'
      exact ⟨t, ht, q, hon.issued q hq, hfor⟩
  once := by
    show ((run :: s.runs).filterMap (·.token)).Nodup
    rw [List.filterMap_cons]
    split
    · exact h.once
    · rename_i t ht
      exact List.nodup_cons.2 ⟨fun hmem => (htoken t ht).1 (h.consumed t hmem), h.once⟩
  consumed t ht := by
    have ht : t ∈ (run :: s.runs).filterMap (·.token) := ht
    rw [List.filterMap_cons] at ht
    split at ht
    · exact hon.approved t (h.consumed t ht)
    · rename_i t' ht'
      rcases List.mem_cons.1 ht with rfl | ht
      · exact (htoken t ht').2.1
      · exact hon.approved t (h.consumed t ht)

omit [NumberText ν] in
theorem GoesOn.refl (a : Approvals.State ν η) : GoesOn a a := ⟨fun _ h => h, fun _ h => h⟩

theorem Inv.goto_same (h : Inv sha256 tools call s) {p : Phase ν}
    (hp : PhaseOk tools (call i) p) : Inv sha256 tools call (s.goto i p) :=
  h.goto h.approvals (.refl _) hp

variable [DecidableEq η]

/-- The approval gate keeps the invariant. -/
theorem inv_approve (h : Inv sha256 tools call s) {tool : AiTool} {checked resolved : RbacDb}
    {scope : ResolvedCompanyBranchScope} {drawn : String} (hnamed : Named tools (call i) tool)
    (hpermitted : Permitted (call i) tool checked) (hscope : Scoped (call i) tool resolved scope)
    (hs : approveStep sha256 (call i) s i tool checked resolved scope drawn = some s') :
    Inv sha256 tools call s' := by
  unfold approveStep at hs
  split at hs
  · rename_i hneeds
    split at hs
    · rename_i token htoken
      simp only at hs
      split at hs
      · rename_i hyes
        cases hs
        obtain ⟨p, hp, hkey, hnew, hcovers, happroved⟩ := Approvals.verify_approved h.approvals hyes
        cases hkey
        have hon : GoesOn s.approvals (s.approvals.verify sha256 (some p.1.token) (call i).userId
            scope.companyId (call i).toolName (call i).rawArguments).2 := by
          refine ⟨fun _ hq => hq, fun t ht => ?_⟩
          rw [happroved]
          exact List.mem_cons_of_mem _ ht
        refine h.start (h.approvals.verify ..) hon ⟨hnamed, hpermitted, hscope⟩ (fun _ => rfl) ?_
        intro t ht
        cases ht
        refine ⟨hnew, ?_, p, hp, rfl, hcovers.userId, hcovers.companyId, hcovers.toolName⟩
        rw [happroved]
        exact List.mem_cons_self
      · rename_i hno
        cases hs
        refine h.goto (h.approvals.verify ..) ⟨fun _ hq => hq, fun t ht => ?_⟩ trivial
        rw [Approvals.verify_refused (Bool.eq_false_iff.2 hno)]
        exact ht
    · split at hs
      · rename_i hfresh
        cases hs
        exact h.goto (h.approvals.issue hfresh ..)
          ⟨fun _ hq => List.mem_cons_of_mem _ hq, fun _ ht => ht⟩ trivial
      · cases hs
  · rename_i hneeds
    cases hs
    refine h.start h.approvals (.refl _) ⟨hnamed, hpermitted, hscope⟩ (fun h => absurd h hneeds) ?_
    rintro t ⟨⟩

theorem inv_call (h : Inv sha256 tools call s) {step : Step ν}
    (hs : callStep sha256 tools (call i) s i (s.phase i) step = some s') :
    Inv sha256 tools call s' := by
  have hi := h.phase i
  generalize hp : s.phase i = p at hi hs
  cases p with
  | called =>
    cases step with
    | validate =>
      simp only [callStep] at hs
      split at hs
      · cases hs
        exact h.goto_same trivial
      · rename_i tool htool
        split at hs
        · rename_i hsafe
          cases hs
          exact h.goto_same ⟨htool, hsafe⟩
        · cases hs
          exact h.goto_same trivial
    | _ => cases hs
  | authorizing tool =>
    cases step with
    | authorize =>
      simp only [callStep] at hs
      split at hs
      · cases hs
        exact h.goto_same trivial
      · rename_i hcan
        cases hs
        exact h.goto_same ⟨hi, hcan⟩
      · cases hs
        exact h.goto_same trivial
    | fail failure =>
      cases hs
      exact h.goto_same trivial
    | _ => cases hs
  | scoping tool checked =>
    cases step with
    | resolve =>
      simp only [callStep] at hs
      split at hs
      · cases hs
        exact h.goto_same trivial
      · rename_i scope hscope
        cases hs
        exact h.goto_same ⟨hi.1, hi.2, hscope⟩
    | fail failure =>
      cases hs
      exact h.goto_same trivial
    | _ => cases hs
  | approving tool checked resolved scope =>
    cases step with
    | approve drawn => exact inv_approve h hi.1 hi.2.1 hi.2.2 hs
    | _ => cases hs
  | running =>
    cases step with
    | finish outcome =>
      cases outcome with
      | ok rawResult =>
        cases hs
        exact h.goto_same trivial
      | error failure =>
        cases hs
        exact h.goto_same trivial
    | _ => cases hs
  | returned result => cases hs
  | rejected failure => cases hs

theorem inv_step {l : Label ν} (h : Inv sha256 tools call s)
    (hs : (machine sha256 tools call).step s l = some s') : Inv sha256 tools call s' := by
  cases l with
  | step i step => exact inv_call h hs
  | write db =>
    cases hs
    exact { h with }
  | advance ms =>
    cases hs
    exact { h with approvals := h.approvals.advance ms }
  | cleanupExpired =>
    cases hs
    exact { h with approvals := h.approvals.cleanup }

/-- The gate of the tools has no bypass, in any run of any calls, whatever else writes the
tables meanwhile. -/
theorem no_bypass (sha256 : String → η) (tools : List AiTool) (call : ℕ → ToolCall ν) (db : RbacDb)
    (now : ℤ) {ls : List (Label ν)} {s : State ν η}
    (hrun : (machine sha256 tools call).Run { db, approvals := { now } } ls s) : NoBypass tools s := by
  have hstart : Inv sha256 tools call { db, approvals := { now } } :=
    { approvals := Approvals.inv_start now
      phase := fun _ => trivial
      gated := fun _ h => absurd h List.not_mem_nil
      tokens := fun _ h => absurd h List.not_mem_nil
      once := List.nodup_nil
      consumed := fun _ h => absurd h List.not_mem_nil }
  exact (hrun.invariant hstart fun _ _ _ h _ hs => inv_step h hs).noBypass

end Steps

/-! A tool that writes, and a user who may use it. -/

namespace Demo

def role : Role :=
  { id := 50, code := "SALES", resourceScopes := [{ resource := "sales", scope := .Company }] }

def db : RbacDb where
  roles := .ofRows [role]
  userRoles := .ofRows [{ userId := 7, roleId := 50 }]
  organization :=
    { memberships := fun
        | .company => .ofRows [{ userId := 7, targetId := 10 }]
        | _ => .empty }
  permissions := .ofRows [{ id := 60, code := "sales.create" }]
  rolePermissions := [{ roleId := 50, permissionId := 60 }]

def tools : List AiTool :=
  [{ name := "create_order", requiredPermission := "sales.create", dataScopeResource := "sales"
     toolType := some .write }]

def calls (i : ℕ) : ToolCall ℤ :=
  { userId := 7, toolName := "create_order", rawArguments := .object [("quantity", .number 5)]
    approvalToken := if i = 0 then none else some "a1" }

def steps (i : ℕ) : List (Label ℤ) :=
  [.step i .validate, .step i .authorize, .step i .resolve, .step i (.approve "a1")]

end Demo

open Demo in
theorem no_bypass_order : ∃ s : State ℤ String, s.runs.length = 1 ∧ NoBypass tools s := by
  obtain ⟨s, hrun, hs⟩ := Machine.exists_runWith (machine id tools calls) (fun _ _ => True)
    { db, approvals := { now := 0 } } (steps 0 ++ steps 1 ++ steps 2)
    (fun s => s.runs.length = 1) (by decide +kernel)
  exact ⟨s, of_decide_eq_true hs, no_bypass id tools calls db 0 hrun⟩

end AiToolExecutorService

end FashionErp
