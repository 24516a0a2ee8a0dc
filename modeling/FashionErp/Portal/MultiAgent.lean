/-
`CustomerMultiAgentService` of `customer-portal/agents/customer-multi-agent.service.ts`: what
the shopping assistant may answer, whatever the model does.

A lead chooses between a greeting of the service's own and two specialists, and the specialist
proposes an action.
-/
import FashionErp.Lib.Json
import FashionErp.Lib.Machine
import FashionErp.Shopping.Session

namespace FashionErp.CustomerMultiAgentService

open Lib Shopping

/-! ## Routes, tools and proposals -/

inductive Reason
  | unconfigured
  | timeout
  | cancelled
  | invalidOutput
  | toolBudget
  | modelError
  deriving DecidableEq

inductive AgentName
  | lead
  | sales
  | support
  deriving DecidableEq

inductive Route
  | sales
  | support
  deriving DecidableEq

def Route.agent : Route → AgentName
  | sales => .sales
  | support => .support

inductive DirectKind
  | greeting
  | clarify
  deriving DecidableEq

inductive ToolName
  | search
  | detail
  | popular
  | policy
  | orders
  deriving DecidableEq

def Route.tools : Route → List ToolName
  | sales => [.search, .detail, .popular]
  | support => [.policy, .orders]

/-- What passed `actionSchema`. -/
abbrev ShoppingAction := Proposal

section Schemas

variable {ν : Type}

structure Zod (ν : Type) where
  integer : ν → Option ℤ
  isUuid : String → Bool

def strict (keys : List String) (properties : List (String × Json ν)) : Bool :=
  properties.all fun p => p.1 ∈ keys

def optionalText (properties : List (String × Json ν)) (key : String) (passes : String → Bool) :
    Option (Option String) :=
  match properties.lookup key with
  | none => some none
  | some (.string text) => if passes text then some (some text) else none
  | some _ => none

def requiredText (properties : List (String × Json ν)) (key : String) (passes : String → Bool) :
    Option String :=
  (optionalText properties key passes).join

/-- `z.number().int().min(1).max(999).optional()`. -/
def optionalQuantity (zod : Zod ν) (properties : List (String × Json ν)) : Option (Option ℤ) :=
  match properties.lookup "quantity" with
  | none => some none
  | some (.number n) => ((zod.integer n).filter fun k => 1 ≤ k ∧ k ≤ 999).map some
  | some _ => none

/-- `actionSchema`. -/
def parseAction (zod : Zod ν) : Option (Json ν) → Option ShoppingAction
  | some (.object properties) => do
    guard (strict ["action", "query", "productId", "kind", "value", "quantity", "text"] properties)
    let action ← requiredText properties "action" fun text =>
      text ∈ ["search", "popular", "buy", "options", "pick", "quantity", "cart", "more", "cheaper",
        "reset", "reply", "handoff"]
    let query ← optionalText properties "query" fun text => jsLength text ≤ 100
    let productId ← optionalText properties "productId" fun text => jsLength text ≤ 36
    let kind ← optionalText properties "kind" fun text => text ∈ ["COLOR", "SIZE"]
    let value ← optionalText properties "value" fun text => jsLength text ≤ 40
    let quantity ← optionalQuantity zod properties
    let text ← optionalText properties "text" fun text => jsLength text ≤ 1200
    return { action, query, productId, kind, value, quantity, text }
  | _ => none

/-- `routeSchema`: the specialist, or none for `direct`, and the kind of a direct answer. -/
def parseRoute : Option (Json ν) → Option (Option Route × Option DirectKind)
  | some (.object properties) => do
    guard (strict ["route", "directKind"] properties)
    let route ← requiredText properties "route" fun text => text ∈ ["direct", "sales", "support"]
    let kind ← optionalText properties "directKind" fun text => text ∈ ["greeting", "clarify"]
    return (
      if route = "sales" then some .sales else if route = "support" then some .support else none,
      kind.map fun kind => if kind = "greeting" then .greeting else .clarify)
  | _ => none

def parsesArgs (zod : Zod ν) (name : ToolName) : Option (Json ν) → Bool
  | some (.object properties) =>
    match name with
    | .search =>
      strict ["query"] properties && (requiredText properties "query" fun text =>
        1 ≤ jsLength text ∧ jsLength text ≤ 100).isSome
    | .detail =>
      strict ["productId"] properties && (requiredText properties "productId" zod.isUuid).isSome
    | _ => strict [] properties
  | _ => false

end Schemas

/-! ## Evidence -/

section Evidence

variable {ν : Type}

/-- `Boolean(value)`. -/
def isTruthy [NumberText ν] : Json ν → Bool
  | .null => false
  | .bool b => b
  | .number n => !NumberText.isZero n
  | .string s => s ≠ ""
  | .array _ => true
  | .object _ => true

/-- `Array.isArray(items) && items.length > 0`. -/
def hasItems : Option (Json ν) → Bool
  | some (.array items) => !items.isEmpty
  | _ => false

def hasEvidence [NumberText ν] (name : ToolName) : Json ν → Bool
  | .object data =>
    let unavailable := match data.lookup "available" with
      | some (.bool false) => true
      | _ => false
    if unavailable || (data.lookup "error").any isTruthy then false
    else match name with
      | .policy => hasItems (data.lookup "policies")
      | .orders => hasItems (data.lookup "orders")
      | .detail => match data.lookup "id" with
        | some (.string _) => true
        | _ => false
      | .search | .popular => hasItems (data.lookup "products")
  | _ => false

/-- The text property `id`. -/
def idOf (data : List (String × Json ν)) : List String :=
  match data.lookup "id" with
  | some (.string id) => [id]
  | _ => []

def isArray : Json ν → Bool
  | .array _ => true
  | _ => false

mutual

def collectProductIds : Json ν → List String
  | .array elements => collectAll elements
  | .object data => idOf data ++ collectProducts data
  | _ => []

def collectAll : List (Json ν) → List String
  | [] => []
  | v :: vs => collectProductIds v ++ collectAll vs

/-- The ids under the property `products`, if it is an array. -/
def collectProducts : List (String × Json ν) → List String
  | [] => []
  | (k, v) :: data =>
    if k = "products" then if isArray v then collectProductIds v else [] else collectProducts data

end

end Evidence

/-! ## The service's own answers -/

def directReply (burmese : Bool) (kind : DirectKind) : ShoppingAction where
  action := "reply"
  text := some <| match burmese, kind with
    | true, .greeting => "မင်္ဂလာပါ။ ပစ္စည်းရွေးဖို့၊ အော်ဒါအခြေအနေစစ်ဖို့နဲ့ ဆိုင်အကြောင်း သိချင်တာတွေ ကူညီပေးနိုင်ပါတယ်။ ဘာလေးရှာပေးရမလဲ?"
    | true, .clarify => "ပစ္စည်းရှာချင်တာလား၊ အော်ဒါအခြေအနေစစ်ချင်တာလား၊ ဆိုင်ရဲ့ဝန်ဆောင်မှုအကြောင်း မေးချင်တာလား ပြောပေးပါ။"
    | false, .greeting => "Hello! I can help you find products or check store policies and your orders. What would you like help with?"
    | false, .clarify => "Would you like help finding a product, checking an order, or asking about store policies?"

def unverified (burmese : Bool) : ShoppingAction where
  action := "handoff"
  text := some <|
    if burmese then "ဒီအချက်အလက်ကို အတည်မပြုနိုင်သေးပါ။ ဆိုင်ဝန်ထမ်းနဲ့ ဆက်သွယ်စစ်ဆေးပေးပါ။"
    else "I do not have verified information for that yet. Please contact the shop team for help."

def isBurmese (c : Char) : Bool :=
  (0x1000 ≤ c.toNat && c.toNat ≤ 0x109f) || (0xaa60 ≤ c.toNat && c.toNat ≤ 0xaa7f) ||
    (0xa9e0 ≤ c.toNat && c.toNat ≤ 0xa9ff)

/-! ## A run -/

section Machine

variable {ν : Type}

inductive Outcome (ν : Type)
  /-- Not let through: wrong arguments, the budget, or the run was aborted. -/
  | refused
  /-- The tool failed, or the run was aborted before it answered. -/
  | failed
  /-- Nothing, or too much to be passed on. -/
  | unavailable
  | value (v : Json ν)

structure EndedCall (ν : Type) where
  name : ToolName
  outcome : Outcome ν

/-- Where `execute` waits. -/
inductive Phase
  /-- For the lead. -/
  | routing
  /-- For the specialist. -/
  | serving (route : Route)
  | done

/-- How the race between `execute` and the abort ended, on which route, and the tool calls
that had ended by then. -/
structure Settled (ν : Type) where
  answer : Except Reason ShoppingAction
  route : Option Route
  calls : List (EndedCall ν)

/-- `CustomerAgentTrace`. -/
structure Trace where
  agents : List AgentName
  model : Option String
  modelCalls : ℕ
  toolCalls : ℕ
  reason : Option Reason
  deriving DecidableEq

structure CustomerMultiAgentResult where
  action : Option ShoppingAction
  degraded : Bool
  trace : Trace

/-- The variables of `run` and `execute`; with them the model steps and the invocations that
were made, and the tool calls that have ended. -/
structure State (ν : Type) where
  phase : Phase
  context : List (String × Json ν)
  burmese : Bool
  agents : List AgentName
  model : Option String
  modelCalls : ℕ
  toolCalls : ℕ
  route : Option Route
  knownProducts : List String
  evidence : ℕ
  unavailable : Bool
  toolFailed : Bool
  pending : List ToolName
  aborted : Bool
  timeout : Bool
  settled : Option (Settled ν)
  returned : Option CustomerMultiAgentResult
  steps : ℕ
  invoked : List ToolName
  ended : List (EndedCall ν)

inductive Label (ν : Type)
  /-- The deadline, or the caller's signal. -/
  | abort (timeout : Bool)
  | modelStep
  /-- The lead's `generate` ends. -/
  | routed (output : Except Reason (Option (Json ν)))
  | callTool (name : ToolName) (args : Option (Json ν))
  | toolEnds (i : ℕ) (result : Except Unit (Option (Json ν)))
  /-- The specialist's `generate` ends. -/
  | proposed (output : Except Reason (Option (Json ν)))
  | return

/-- `execute` ends, or the run is aborted: the first of the two counts. -/
def State.settle (s : State ν) (answer : Except Reason ShoppingAction) : State ν :=
  match s.settled with
  | some _ => s
  | none => { s with settled := some { answer, route := s.route, calls := s.ended } }

/-- `execute` ends. -/
def State.finish (s : State ν) (answer : Except Reason ShoppingAction) : State ν :=
  { s.settle answer with phase := .done }

variable [NumberText ν]

def allowed : List String :=
  ["message", "stage", "recentProducts", "latestProductIds", "focusedProductId", "preferences",
    "selection", "cart", "currency", "history"]

def projectContext (input : List (String × Json ν)) : Except Reason (List (String × Json ν)) :=
  let projected := Json.pick allowed input
  if jsLength (Json.stringify (.object projected) none) > 24000 then .error .invalidOutput
  else .ok projected

def writesBurmese (context : List (String × Json ν)) : Bool :=
  let message := match context.lookup "message" with
    | some (.string message) => message
    | _ => ""
  let history := ((context.lookup "history").filter isTruthy).getD (.array [])
  (message ++ Json.stringify history none).toList.any isBurmese

def textsOf : Option (Json ν) → List String
  | some (.array elements) => elements.filterMap fun
    | .string id => some id
    | _ => none
  | _ => []

def contextProducts (context : List (String × Json ν)) : List String :=
  ((context.lookup "recentProducts").map collectProductIds).getD [] ++
    textsOf (context.lookup "latestProductIds") ++
      match context.lookup "focusedProductId" with
      | some (.string id) => [id]
      | _ => []

/-- `run` up to its first await. -/
def start (model : Option String) (signalAborted : Bool) (input : List (String × Json ν)) :
    State ν :=
  let s : State ν :=
    { phase := .done, context := [], burmese := false, agents := [], model, modelCalls := 0
      toolCalls := 0, route := none, knownProducts := [], evidence := 0, unavailable := false
      toolFailed := false, pending := [], aborted := signalAborted, timeout := false, settled := none
      returned := none, steps := 0, invoked := [], ended := [] }
  if model.isNone then
    let trace : Trace :=
      { agents := [], model, modelCalls := 0, toolCalls := 0, reason := some .unconfigured }
    { s with returned := some { action := none, degraded := true, trace } }
  else
    match projectContext input with
    | .error reason => s.finish (.error reason)
    | .ok context =>
      if signalAborted then s.finish (.error .cancelled)
      else { s with phase := .routing, context, burmese := writesBurmese context, agents := [.lead] }

/-- `execute` once the lead has answered. -/
def State.routed (s : State ν) : Except Reason (Option (Json ν)) → State ν
  | .error reason => s.finish (.error reason)
  | .ok output =>
    match parseRoute output with
    | none => s.finish (.error .invalidOutput)
    | some (none, none) => s.finish (.error .invalidOutput)
    | some (none, some kind) => s.finish (.ok (directReply s.burmese kind))
    | some (some route, _) =>
      if s.aborted then s.finish (.error .cancelled)
      else
        { s with
          phase := .serving route
          agents := s.agents ++ [route.agent]
          route := some route
          knownProducts := contextProducts s.context }

def State.callTool (zod : Zod ν) (s : State ν) (name : ToolName) (args : Option (Json ν)) : State ν :=
  if s.aborted then { s with ended := s.ended ++ [⟨name, .refused⟩] }
  else if ¬ parsesArgs zod name args then
    { s with toolFailed := true, ended := s.ended ++ [⟨name, .refused⟩] }
  else if 8 ≤ s.toolCalls then
    { s with toolFailed := true, ended := s.ended ++ [⟨name, .refused⟩] }
  else
    { s with
      toolCalls := s.toolCalls + 1
      invoked := s.invoked ++ [name]
      pending := s.pending ++ [name] }

def State.toolEnds (s : State ν) (i : ℕ) (name : ToolName) :
    Except Unit (Option (Json ν)) → State ν
  | .error _ =>
    { s with
      pending := s.pending.eraseIdx i, toolFailed := true, ended := s.ended ++ [⟨name, .failed⟩] }
  | .ok result =>
    if s.aborted then
      { s with
        pending := s.pending.eraseIdx i, toolFailed := true, ended := s.ended ++ [⟨name, .failed⟩] }
    else
      match result.filter fun value => jsLength (Json.stringify value none) ≤ 24000 with
      | none =>
        { s with
          pending := s.pending.eraseIdx i
          unavailable := true
          ended := s.ended ++ [⟨name, .unavailable⟩] }
      | some value =>
        { s with
          pending := s.pending.eraseIdx i
          evidence := if hasEvidence name value then s.evidence + 1 else s.evidence
          unavailable := if hasEvidence name value then s.unavailable else true
          knownProducts :=
            if s.route = some .sales then s.knownProducts ++ collectProductIds value
            else s.knownProducts
          ended := s.ended ++ [⟨name, .value value⟩] }

/-- What `execute` makes of the proposal. -/
def State.conclude (zod : Zod ν) (s : State ν) (output : Option (Json ν)) :
    Except Reason ShoppingAction :=
  if s.aborted then .error .cancelled
  else if s.toolFailed then .error .modelError
  else
    match (parseAction zod output).filter fun action => (validate action).isSome with
    | none => .error .invalidOutput
    | some action =>
      if s.route = some .support ∧ action.action ∉ ["reply", "handoff"] then .error .invalidOutput
      else if (truthy action.productId).any (· ∉ s.knownProducts) then .error .invalidOutput
      else if action.action = "reply" ∧ (s.evidence = 0 ∨ s.unavailable) then
        .ok (unverified s.burmese)
      else .ok action

/-- What `run` returns. -/
def State.result (s : State ν) (settled : Settled ν) : CustomerMultiAgentResult :=
  let trace : Trace :=
    { agents := s.agents, model := s.model, modelCalls := s.modelCalls, toolCalls := s.toolCalls
      reason := none }
  match settled.answer with
  | .ok action => { action := some action, degraded := false, trace }
  | .error reason =>
    let reason := if s.aborted then (if s.timeout then .timeout else .cancelled) else reason
    { action := none, degraded := true, trace := { trace with reason := some reason } }

def step (zod : Zod ν) (s : State ν) : Label ν → Option (State ν)
  | .abort timeout =>
    if s.aborted || s.returned.isSome then none
    else
      some (({ s with aborted := true, timeout } : State ν).settle
        (.error (if timeout then .timeout else .cancelled)))
  | .modelStep =>
    match s.phase with
    | .done => none
    | _ =>
      if s.aborted then some s
      else if 5 < s.modelCalls + 1 then some { s with modelCalls := s.modelCalls + 1 }
      else some { s with modelCalls := s.modelCalls + 1, steps := s.steps + 1 }
  | .routed output =>
    match s.phase with
    | .routing => some (s.routed output)
    | _ => none
  | .callTool name args =>
    match s.route with
    | some route => if name ∈ route.tools then some (s.callTool zod name args) else none
    | none => none
  | .toolEnds i result => (s.pending[i]?).map fun name => s.toolEnds i name result
  | .proposed output =>
    match s.phase with
    | .serving _ => some (s.finish (output.bind (s.conclude zod)))
    | _ => none
  | .return =>
    match s.settled, s.returned with
    | some settled, none => some { s with returned := some (s.result settled), aborted := true }
    | _, _ => none

/-- Every run: whatever the model answers and calls, whatever the tools answer, and
whenever the run is aborted. -/
def machine (zod : Zod ν) : Machine (State ν) (Label ν) where
  step := step zod

/-! ## What is answered -/

def EndedCall.HasEvidence (call : EndedCall ν) : Prop :=
  match call.outcome with
  | .value v => hasEvidence call.name v = true
  | _ => False

def EndedCall.texts (call : EndedCall ν) : List String :=
  match call.outcome with
  | .value v => v.texts
  | _ => []

def Occurs (input : List (String × Json ν)) (calls : List (EndedCall ν)) (id : String) : Prop :=
  (∃ key ∈ ["recentProducts", "latestProductIds", "focusedProductId"],
      id ∈ ((input.lookup key).map Json.texts).getD []) ∨
    ∃ call ∈ calls, call.name ∈ Route.sales.tools ∧ id ∈ call.texts

instance (input : List (String × Json ν)) (calls : List (EndedCall ν)) (id : String) :
    Decidable (Occurs input calls id) :=
  inferInstanceAs (Decidable (_ ∨ _))

/-- A grounded answer. The action passes `validate`; a product of it occurs; on the support
route it is a reply or a handoff; and a reply is the service's own, or some tool call was
answered with evidence and no call otherwise. -/
structure Grounded (input : List (String × Json ν)) (settled : Settled ν)
    (action : ShoppingAction) : Prop where
  valid : (validate action).isSome
  product : ∀ id ∈ action.productId, id ≠ "" → Occurs input settled.calls id
  support : settled.route = some .support → action.action = "reply" ∨ action.action = "handoff"
  evidence : action.action = "reply" → (∃ burmese kind, action = directReply burmese kind) ∨
    ((∃ call ∈ settled.calls, call.HasEvidence) ∧ ∀ call ∈ settled.calls, call.HasEvidence)

variable {calls : List (EndedCall ν)}

omit [NumberText ν] in
theorem Occurs.mono {input : List (String × Json ν)} {calls' : List (EndedCall ν)}
    {id : String} (h : Occurs input calls id) (hmore : calls ⊆ calls') : Occurs input calls' id := by
  rcases h with h | ⟨call, hcall, htexts⟩
  · exact .inl h
  · exact .inr ⟨call, hmore hcall, htexts⟩

omit [NumberText ν] in
theorem jsLength_ofList_le (l : List Char) : jsLength (String.ofList l) ≤ 2 * l.length := by
  unfold jsLength
  rw [String.toList_ofList]
  induction l with
  | nil => rfl
  | cons c cs ih =>
    rw [List.map_cons, List.sum_cons, List.length_cons]
    split <;> omega

theorem jsLength_le {s : String} {l : List Char} {n : ℕ} (hs : s = String.ofList l)
    (h : 2 * l.length ≤ n) : jsLength s ≤ n := by
  rw [hs]
  exact (jsLength_ofList_le l).trans h

theorem validate_text {text : String} (hlength : jsLength text ≤ 1200) (hne : text ≠ "") :
    (validate { action := "reply", text := some text }).isSome ∧
      (validate { action := "handoff", text := some text }).isSome := by
  have hwellFormed : ∀ action, Proposal.WellFormed { action, text := some text } := by
    intro action
    refine ⟨rfl, rfl, rfl, fun h => ?_, rfl, fun _ h => ?_, ?_⟩
    · cases h
    · cases h
    · simpa [withinLength] using hlength
  constructor
  · simp [validate, hwellFormed, truthy, hne]
  · simp [validate, hwellFormed, truthy, hne]

set_option maxRecDepth 4096 in
theorem validate_directReply (burmese : Bool) (kind : DirectKind) :
    (validate (directReply burmese kind)).isSome := by
  cases burmese <;> cases kind <;>
    exact (validate_text (jsLength_le rfl (by decide +kernel)) (by decide +kernel)).1

set_option maxRecDepth 4096 in
theorem validate_unverified (burmese : Bool) : (validate (unverified burmese)).isSome := by
  cases burmese <;>
    exact (validate_text (jsLength_le rfl (by decide +kernel)) (by decide +kernel)).2

theorem grounded_directReply (input : List (String × Json ν)) (settled : Settled ν)
    (burmese : Bool) (kind : DirectKind) : Grounded input settled (directReply burmese kind) where
  valid := validate_directReply burmese kind
  product id hid := by cases hid
  support _ := .inl rfl
  evidence _ := .inl ⟨burmese, kind, rfl⟩

theorem grounded_unverified (input : List (String × Json ν)) (settled : Settled ν)
    (burmese : Bool) : Grounded input settled (unverified burmese) where
  valid := validate_unverified burmese
  product id hid := by cases hid
  support _ := .inr rfl
  evidence hreply := absurd hreply (show ("handoff" : String) ≠ "reply" by decide)

/-! ## The ids that are collected -/

section Collect

variable {ν : Type}

mutual

theorem mem_texts_of_collect :
    ∀ (v : Json ν) {id : String}, id ∈ collectProductIds v → id ∈ v.texts
  | .array elements, id, h => by
    rw [collectProductIds] at h
    rw [Json.texts]
    exact mem_textsAll_of_collect elements h
  | .object data, id, h => by
    rw [collectProductIds, List.mem_append] at h
    rw [Json.texts]
    rcases h with h | h
    · unfold idOf at h
      split at h
      · rename_i found hfound
        refine Json.mem_textsProperties hfound ?_
        rw [Json.texts]
        exact h
      · cases h
    · exact mem_textsProperties_of_collect data h
  | .null, _, h => absurd h List.not_mem_nil
  | .bool _, _, h => absurd h List.not_mem_nil
  | .number _, _, h => absurd h List.not_mem_nil
  | .string _, _, h => absurd h List.not_mem_nil

theorem mem_textsAll_of_collect :
    ∀ (vs : List (Json ν)) {id : String}, id ∈ collectAll vs → id ∈ Json.textsAll vs
  | [], _, h => by rw [collectAll] at h; cases h
  | v :: vs, id, h => by
    rw [collectAll, List.mem_append] at h
    rw [Json.textsAll, List.mem_append]
    rcases h with h | h
    · exact .inl (mem_texts_of_collect v h)
    · exact .inr (mem_textsAll_of_collect vs h)

theorem mem_textsProperties_of_collect :
    ∀ (data : List (String × Json ν)) {id : String}, id ∈ collectProducts data →
      id ∈ Json.textsProperties data
  | [], _, h => by rw [collectProducts] at h; cases h
  | (k, v) :: data, id, h => by
    rw [collectProducts] at h
    rw [Json.textsProperties, List.mem_append]
    split at h
    · split at h
      · exact .inl (mem_texts_of_collect v h)
      · cases h
    · exact .inr (mem_textsProperties_of_collect data h)

end

theorem occurs_of_context {input context : List (String × Json ν)}
    (hcontext : ∀ key v, context.lookup key = some v → input.lookup key = some v)
    (calls : List (EndedCall ν)) {id : String} (h : id ∈ contextProducts context) :
    Occurs input calls id := by
  have hocc : ∀ key ∈ ["recentProducts", "latestProductIds", "focusedProductId"], ∀ v,
      context.lookup key = some v → id ∈ v.texts → Occurs input calls id := by
    intro key hkey v hv hid
    refine .inl ⟨key, hkey, ?_⟩
    rw [hcontext key v hv]
    exact hid
  unfold contextProducts at h
  rcases List.mem_append.1 h with h | h
  · rcases List.mem_append.1 h with h | h
    · cases hrecent : context.lookup "recentProducts" with
      | none => rw [hrecent] at h; cases h
      | some v =>
        rw [hrecent] at h
        exact hocc _ (by decide) v hrecent (mem_texts_of_collect v h)
    · cases hlatest : context.lookup "latestProductIds" with
      | none => rw [hlatest] at h; cases h
      | some v =>
        rw [hlatest] at h
        unfold textsOf at h
        split at h
        · rename_i elements heq
          cases heq
          obtain ⟨element, helement, htext⟩ := List.mem_filterMap.1 h
          refine hocc _ (by decide) _ hlatest ?_
          rw [Json.texts]
          split at htext
          · cases htext
            refine Json.mem_textsAll helement ?_
            rw [Json.texts]
            exact List.mem_singleton_self _
          · cases htext
        · cases h
  · split at h
    · rename_i focused hfocused
      refine hocc _ (by decide) _ hfocused ?_
      rw [Json.texts]
      exact h
    · cases h

end Collect

/-! ## What every step keeps -/

structure Bounded (s : State ν) : Prop where
  invoked : s.invoked.length = s.toolCalls
  budget : s.toolCalls ≤ 8
  counted : s.steps ≤ s.modelCalls
  steps : s.steps ≤ 5

/-- What the tool calls have left behind. The waiting ones are of the route; a call that
ended without evidence has set a flag; and the products that are known occur. -/
structure Marked (input : List (String × Json ν)) (s : State ν) : Prop where
  context : ∀ key v, s.context.lookup key = some v → input.lookup key = some v
  routing : s.phase = .routing → s.route = none
  pending : ∀ name ∈ s.pending, ∃ route ∈ s.route, name ∈ route.tools
  evidence : 0 < s.evidence → ∃ call ∈ s.ended, call.HasEvidence
  flags : s.aborted = false → s.toolFailed = false → s.unavailable = false →
    ∀ call ∈ s.ended, call.HasEvidence
  known : ∀ id ∈ s.knownProducts, Occurs input s.ended id

/-- An answer of `execute` is grounded, and what is returned is that answer, or degraded. -/
structure Answered (input : List (String × Json ν)) (s : State ν) : Prop where
  calls : ∀ settled ∈ s.settled, settled.calls <+: s.ended
  grounded : ∀ settled ∈ s.settled, ∀ action, settled.answer = .ok action →
    Grounded input settled action
  returned : ∀ result ∈ s.returned, (result.action = none ∧ result.degraded = true) ∨
    ∃ settled ∈ s.settled, ∃ action, settled.answer = .ok action ∧
      result.action = some action ∧ result.degraded = false

structure Inv (input : List (String × Json ν)) (s : State ν) : Prop where
  bounded : Bounded s
  marked : Marked input s
  answered : Answered input s

variable {input : List (String × Json ν)} {s : State ν} {answer : Except Reason ShoppingAction}

theorem Answered.settle (h : Answered input s) (hgrounded : ∀ action, answer = .ok action →
      Grounded input { answer, route := s.route, calls := s.ended } action) :
    Answered input (s.settle answer) := by
  unfold State.settle
  split
  · exact h
  · rename_i hnone
    refine ⟨fun settled hsettled => ?_, fun settled hsettled action hanswer => ?_,
      fun result hresult => ?_⟩
    · cases hsettled
      exact List.prefix_rfl
    · cases hsettled
      exact hgrounded action hanswer
    · rcases h.returned result hresult with hdegraded | ⟨settled, hsettled, -⟩
      · exact .inl hdegraded
      · rw [hnone] at hsettled
        cases hsettled

omit [NumberText ν] in
theorem settle_same (s : State ν) (answer : Except Reason ShoppingAction) :
    s.settle answer = { s with settled := (s.settle answer).settled } := by
  unfold State.settle
  split <;> rfl

theorem Inv.finish (h : Inv input s) (hgrounded : ∀ action, answer = .ok action →
      Grounded input { answer, route := s.route, calls := s.ended } action) :
    Inv input (s.finish answer) := by
  have hanswered := h.answered.settle hgrounded
  unfold State.finish
  rw [settle_same] at hanswered ⊢
  have hmarked := h.marked
  refine ⟨⟨h.bounded.invoked, h.bounded.budget, h.bounded.counted, h.bounded.steps⟩, ?_,
    ⟨hanswered.calls, hanswered.grounded, hanswered.returned⟩⟩
  exact ⟨hmarked.context, fun hphase => (by cases hphase), hmarked.pending, hmarked.evidence,
    hmarked.flags, hmarked.known⟩

theorem Inv.finish_error {reason : Reason} (h : Inv input s) :
    Inv input (s.finish (.error reason)) :=
  h.finish fun _ hok => by cases hok

theorem Answered.ended (h : Answered input s) {s' : State ν}
    (hsettled : s'.settled = s.settled) (hreturned : s'.returned = s.returned)
    (hended : s'.ended = s.ended ++ calls) : Answered input s' where
  calls settled hmem := by
    rw [hsettled] at hmem
    rw [hended]
    exact (h.calls settled hmem).trans (List.prefix_append _ _)
  grounded := by
    rw [hsettled]
    exact h.grounded
  returned := by
    rw [hreturned, hsettled]
    exact h.returned

theorem exists_evidence_append {call : EndedCall ν} (hfound : ∃ c ∈ s.ended, c.HasEvidence) :
    ∃ c ∈ s.ended ++ [call], c.HasEvidence := by
  obtain ⟨c, hc, hevidence⟩ := hfound
  exact ⟨c, List.mem_append_left _ hc, hevidence⟩

omit [NumberText ν] in
theorem occurs_append {call : EndedCall ν} {id : String} (h : Occurs input s.ended id) :
    Occurs input (s.ended ++ [call]) id :=
  h.mono (List.subset_append_left _ _)

theorem inv_routed (output : Except Reason (Option (Json ν))) (h : Inv input s)
    (hphase : s.phase = .routing) : Inv input (s.routed output) := by
  have hroute := h.marked.routing hphase
  unfold State.routed
  split
  · exact h.finish_error
  · split
    · exact h.finish_error
    · exact h.finish_error
    · refine h.finish fun action hok => ?_
      cases hok
      exact grounded_directReply ..
    · split
      · exact h.finish_error
      · -- there is no tool yet, and no call waits
        have hpending : s.pending = [] := by
          refine List.eq_nil_iff_forall_not_mem.2 fun name hname => ?_
          obtain ⟨route, hmem, -⟩ := h.marked.pending name hname
          rw [hroute] at hmem
          cases hmem
        refine ⟨⟨h.bounded.invoked, h.bounded.budget, h.bounded.counted, h.bounded.steps⟩,
          ⟨h.marked.context, fun hserving => ?_, fun name hname => ?_, h.marked.evidence,
            h.marked.flags, fun id hid => ?_⟩,
          ⟨h.answered.calls, h.answered.grounded, h.answered.returned⟩⟩
        · cases hserving
        · rw [hpending] at hname
          cases hname
        · exact occurs_of_context h.marked.context _ hid

theorem inv_callTool (zod : Zod ν) {name : ToolName} {args : Option (Json ν)} {route : Route}
    (h : Inv input s) (hroute : s.route = some route) (hname : name ∈ route.tools) :
    Inv input (s.callTool zod name args) := by
  obtain ⟨hbounded, hmarked, hanswered⟩ := h
  -- a call that is refused has set `toolFailed`, or the run is aborted
  have hrefused : ∀ s' : State ν,
      s' = { s with toolFailed := s'.toolFailed, ended := s.ended ++ [⟨name, .refused⟩] } →
      (s'.toolFailed = true ∨ s.aborted = true) → Inv input s' := by
    intro s' heq hflag
    refine ⟨?_, ?_, hanswered.ended (by rw [heq]) (by rw [heq]) (by rw [heq])⟩
    · rw [heq]
      exact ⟨hbounded.invoked, hbounded.budget, hbounded.counted, hbounded.steps⟩
    · refine ⟨?_, ?_, ?_, ?_, fun haborted hfailed => ?_, ?_⟩
      · rw [heq]; exact hmarked.context
      · rw [heq]; exact hmarked.routing
      · rw [heq]; exact hmarked.pending
      · rw [heq]; exact fun hevidence => exists_evidence_append (hmarked.evidence hevidence)
      · have haborted' : s.aborted = false := by rw [heq] at haborted; exact haborted
        rcases hflag with hflag | hflag
        · rw [hfailed] at hflag; cases hflag
        · rw [haborted'] at hflag; cases hflag
      · rw [heq]; exact fun id hid => occurs_append (hmarked.known id hid)
  unfold State.callTool
  split
  · rename_i haborted
    exact hrefused _ rfl (.inr haborted)
  · split
    · exact hrefused _ rfl (.inl rfl)
    · split
      · exact hrefused _ rfl (.inl rfl)
      · rename_i hbudget
        have hinvoked := hbounded.invoked
        refine ⟨⟨?_, ?_, hbounded.counted, hbounded.steps⟩,
          ⟨hmarked.context, hmarked.routing, fun other hother => ?_, hmarked.evidence,
            hmarked.flags, hmarked.known⟩,
          ⟨hanswered.calls, hanswered.grounded, hanswered.returned⟩⟩
        · show (s.invoked ++ [name]).length = s.toolCalls + 1
          rw [List.length_append, List.length_singleton]
          omega
        · show s.toolCalls + 1 ≤ 8
          omega
        · rcases List.mem_append.1 hother with hother | hother
          · exact hmarked.pending other hother
          · rw [List.mem_singleton.1 hother]
            exact ⟨route, hroute, hname⟩

theorem inv_toolEnds {i : ℕ} {name : ToolName} (result : Except Unit (Option (Json ν)))
    (h : Inv input s) (hname : s.pending[i]? = some name) :
    Inv input (s.toolEnds i name result) := by
  obtain ⟨hbounded, hmarked, hanswered⟩ := h
  have hbounded' : ∀ s' : State ν, s'.invoked = s.invoked → s'.toolCalls = s.toolCalls →
      s'.modelCalls = s.modelCalls → s'.steps = s.steps → Bounded s' := by
    intro s' hinvoked htoolCalls hmodelCalls hsteps
    refine ⟨?_, ?_, ?_, ?_⟩
    · rw [hinvoked, htoolCalls]; exact hbounded.invoked
    · rw [htoolCalls]; exact hbounded.budget
    · rw [hsteps, hmodelCalls]; exact hbounded.counted
    · rw [hsteps]; exact hbounded.steps
  have hpending : ∀ other ∈ s.pending.eraseIdx i, ∃ route ∈ s.route, other ∈ route.tools :=
    fun other hother => hmarked.pending other (List.mem_of_mem_eraseIdx hother)
  unfold State.toolEnds
  split
  · exact ⟨hbounded' _ rfl rfl rfl rfl,
      ⟨hmarked.context, hmarked.routing, hpending,
        fun hevidence => exists_evidence_append (hmarked.evidence hevidence),
        fun _ hfailed => (by cases hfailed), fun id hid => occurs_append (hmarked.known id hid)⟩,
      hanswered.ended rfl rfl rfl⟩
  · split
    · exact ⟨hbounded' _ rfl rfl rfl rfl,
        ⟨hmarked.context, hmarked.routing, hpending,
          fun hevidence => exists_evidence_append (hmarked.evidence hevidence),
          fun _ hfailed => (by cases hfailed), fun id hid => occurs_append (hmarked.known id hid)⟩,
        hanswered.ended rfl rfl rfl⟩
    · split
      · exact ⟨hbounded' _ rfl rfl rfl rfl,
          ⟨hmarked.context, hmarked.routing, hpending,
            fun hevidence => exists_evidence_append (hmarked.evidence hevidence),
            fun _ _ hunavailable => (by cases hunavailable),
            fun id hid => occurs_append (hmarked.known id hid)⟩,
          hanswered.ended rfl rfl rfl⟩
      · rename_i value _
        refine ⟨hbounded' _ rfl rfl rfl rfl,
          ⟨hmarked.context, hmarked.routing, hpending, ?_, ?_, ?_⟩, hanswered.ended rfl rfl rfl⟩
        · dsimp only
          intro hevidence
          split at hevidence
          · rename_i hvalue
            exact ⟨⟨name, .value value⟩, List.mem_append_right _ (List.mem_singleton_self _), hvalue⟩
          · exact exists_evidence_append (hmarked.evidence hevidence)
        · dsimp only
          intro haborted hfailed hunavailable call hcall
          split at hunavailable
          · rename_i hvalue
            rcases List.mem_append.1 hcall with hcall | hcall
            · exact hmarked.flags haborted hfailed hunavailable call hcall
            · rw [List.mem_singleton.1 hcall]
              exact hvalue
          · cases hunavailable
        · dsimp only
          intro id hid
          split at hid
          · rename_i hsales
            rcases List.mem_append.1 hid with hid | hid
            · exact occurs_append (hmarked.known id hid)
            · -- on the sales route every tool is a sales tool
              obtain ⟨route, hroute, hmem⟩ := hmarked.pending name (List.mem_of_getElem? hname)
              rw [hsales] at hroute
              cases hroute
              exact .inr ⟨⟨name, .value value⟩,
                List.mem_append_right _ (List.mem_singleton_self _), hmem,
                mem_texts_of_collect value hid⟩
          · exact occurs_append (hmarked.known id hid)

/-- The proposal: what passes all checks is grounded. -/
theorem grounded_conclude {zod : Zod ν} {output : Option (Json ν)} {action : ShoppingAction}
    (h : Inv input s) (hok : s.conclude zod output = .ok action)
    (settled : Settled ν) (hroute : settled.route = s.route) (hcalls : settled.calls = s.ended) :
    Grounded input settled action := by
  have hmarked := h.marked
  unfold State.conclude at hok
  split at hok
  · cases hok
  · rename_i haborted
    split at hok
    · cases hok
    · rename_i hfailed
      split at hok
      · cases hok
      · rename_i proposed hproposed
        have hvalid := (Option.filter_eq_some_iff.1 hproposed).2
        split at hok
        · cases hok
        · rename_i hsupport
          split at hok
          · cases hok
          · rename_i hunknown
            split at hok
            · cases hok
              exact grounded_unverified ..
            · rename_i hreply
              obtain rfl := Except.ok.inj hok
              refine ⟨hvalid, fun id hid hne => ?_, fun hrouted => ?_, fun haction => .inr ?_⟩
              · rw [hcalls]
                refine hmarked.known id ?_
                by_contra hnot
                have htruthy : truthy proposed.productId = some id :=
                  Option.filter_eq_some_iff.2 ⟨hid, by simpa using hne⟩
                rw [htruthy] at hunknown
                exact hunknown (by simpa using hnot)
              · rw [hroute] at hrouted
                by_contra hnot
                refine hsupport ⟨hrouted, fun hmem => hnot ?_⟩
                simpa using hmem
              · have hevidence : s.evidence ≠ 0 := fun hzero => hreply ⟨haction, .inl hzero⟩
                have havailable : s.unavailable = false := by
                  cases hunavailable : s.unavailable with
                  | false => rfl
                  | true => exact absurd ⟨haction, .inr hunavailable⟩ hreply
                rw [hcalls]
                refine ⟨hmarked.evidence (Nat.pos_of_ne_zero hevidence), ?_⟩
                exact hmarked.flags (by simpa using haborted) (by simpa using hfailed) havailable

theorem inv_return {settled : Settled ν} (h : Inv input s) (hsettled : s.settled = some settled) :
    Inv input { s with returned := some (s.result settled), aborted := true } := by
  obtain ⟨hbounded, hmarked, hanswered⟩ := h
  refine ⟨⟨hbounded.invoked, hbounded.budget, hbounded.counted, hbounded.steps⟩,
    ⟨hmarked.context, hmarked.routing, hmarked.pending, hmarked.evidence,
      fun haborted => (by cases haborted), hmarked.known⟩,
    ⟨hanswered.calls, hanswered.grounded, fun result hresult => ?_⟩⟩
  cases hresult
  unfold State.result
  cases hanswer : settled.answer with
  | error reason => exact .inl ⟨rfl, rfl⟩
  | ok action => exact .inr ⟨settled, hsettled, action, hanswer, rfl, rfl⟩

theorem inv_step {zod : Zod ν} {s' : State ν} {l : Label ν} (h : Inv input s)
    (hs : (machine zod).step s l = some s') : Inv input s' := by
  change step zod s l = some s' at hs
  cases l with
  | abort timeout =>
    unfold step at hs
    dsimp only at hs
    split at hs
    · cases hs
    · cases hs
      have haborted : Inv input { s with aborted := true, timeout } :=
        ⟨⟨h.bounded.invoked, h.bounded.budget, h.bounded.counted, h.bounded.steps⟩,
          ⟨h.marked.context, h.marked.routing, h.marked.pending, h.marked.evidence,
            fun hflag => (by cases hflag), h.marked.known⟩,
          ⟨h.answered.calls, h.answered.grounded, h.answered.returned⟩⟩
      have hstopped : ∀ action, (Except.error (if timeout then Reason.timeout else .cancelled) :
          Except Reason ShoppingAction) ≠ .ok action := fun _ hok => by cases hok
      have hanswered := haborted.answered.settle fun action hok => absurd hok (hstopped action)
      rw [settle_same] at hanswered ⊢
      have hbounded := haborted.bounded
      have hmarked := haborted.marked
      exact ⟨⟨hbounded.invoked, hbounded.budget, hbounded.counted, hbounded.steps⟩,
        ⟨hmarked.context, hmarked.routing, hmarked.pending, hmarked.evidence, hmarked.flags,
          hmarked.known⟩, ⟨hanswered.calls, hanswered.grounded, hanswered.returned⟩⟩
  | modelStep =>
    have hmarked : ∀ modelCalls steps, Marked input { s with modelCalls, steps } := fun _ _ =>
      ⟨h.marked.context, h.marked.routing, h.marked.pending, h.marked.evidence, h.marked.flags,
        h.marked.known⟩
    have hanswered : ∀ modelCalls steps, Answered input { s with modelCalls, steps } := fun _ _ =>
      ⟨h.answered.calls, h.answered.grounded, h.answered.returned⟩
    have hcounted := h.bounded.counted
    unfold step at hs
    dsimp only at hs
    split at hs
    · cases hs
    · split at hs
      · cases hs
        exact h
      · split at hs
        · cases hs
          refine ⟨⟨h.bounded.invoked, h.bounded.budget, ?_, h.bounded.steps⟩, hmarked _ s.steps,
            hanswered _ s.steps⟩
          show s.steps ≤ s.modelCalls + 1
          omega
        · cases hs
          refine ⟨⟨h.bounded.invoked, h.bounded.budget, ?_, ?_⟩, hmarked _ _, hanswered _ _⟩
          · show s.steps + 1 ≤ s.modelCalls + 1
            omega
          · show s.steps + 1 ≤ 5
            omega
  | routed output =>
    unfold step at hs
    dsimp only at hs
    split at hs
    · rename_i hphase
      cases hs
      exact inv_routed output h hphase
    · cases hs
  | callTool name args =>
    unfold step at hs
    dsimp only at hs
    split at hs
    · rename_i route hroute
      obtain ⟨hname, hcalled⟩ := Option.ite_none_right_eq_some.1 hs
      cases hcalled
      exact inv_callTool zod h hroute hname
    · cases hs
  | toolEnds i result =>
    obtain ⟨name, hname, rfl⟩ := Option.map_eq_some_iff.1 hs
    exact inv_toolEnds result h hname
  | proposed output =>
    unfold step at hs
    dsimp only at hs
    split at hs
    · cases hs
      refine h.finish fun action hok => ?_
      cases output with
      | error => cases hok
      | ok output => exact grounded_conclude h hok _ rfl rfl
    · cases hs
  | «return» =>
    unfold step at hs
    dsimp only at hs
    split at hs
    · rename_i settled hsettled hreturned
      cases hs
      exact inv_return h hsettled
    · cases hs

theorem inv_start (model : Option String) (signalAborted : Bool)
    (input : List (String × Json ν)) : Inv input (start model signalAborted input) := by
  have hbegun : ∀ s : State ν, s.invoked = [] → s.toolCalls = 0 → s.modelCalls = 0 → s.steps = 0 →
      s.context = [] → s.route = none → s.pending = [] → s.evidence = 0 → s.ended = [] →
      s.knownProducts = [] → s.settled = none →
      (∀ result ∈ s.returned, result.action = none ∧ result.degraded = true) → Inv input s := by
    intro s hinvoked htoolCalls hmodelCalls hsteps hcontext hroute hpending hevidence hended hknown
      hsettled hreturned
    refine ⟨⟨?_, ?_, ?_, ?_⟩, ⟨?_, ?_, ?_, ?_, ?_, ?_⟩, ⟨?_, ?_, ?_⟩⟩
    · rw [hinvoked, htoolCalls]; rfl
    · rw [htoolCalls]; omega
    · rw [hsteps]; exact Nat.zero_le _
    · rw [hsteps]; omega
    · rw [hcontext]; exact fun _ _ h => by cases h
    · exact fun _ => hroute
    · rw [hpending]; exact fun _ h => by cases h
    · rw [hevidence]; exact fun h => absurd h (Nat.lt_irrefl 0)
    · rw [hended]; exact fun _ _ _ _ h => by cases h
    · rw [hknown]; exact fun _ h => by cases h
    · rw [hsettled]; exact fun _ h => by cases h
    · rw [hsettled]; exact fun _ h => by cases h
    · exact fun result hresult => .inl (hreturned result hresult)
  unfold start
  dsimp only
  split
  · refine hbegun _ rfl rfl rfl rfl rfl rfl rfl rfl rfl rfl rfl fun result hresult => ?_
    cases hresult
    exact ⟨rfl, rfl⟩
  · have hfirst := hbegun
      { phase := .done, context := [], burmese := false, agents := [], model, modelCalls := 0
        toolCalls := 0, route := none, knownProducts := [], evidence := 0, unavailable := false
        toolFailed := false, pending := [], aborted := signalAborted, timeout := false
        settled := none, returned := none, steps := 0, invoked := [], ended := [] }
      rfl rfl rfl rfl rfl rfl rfl rfl rfl rfl rfl fun _ h => by cases h
    split
    · exact hfirst.finish_error
    · rename_i context hcontext
      split
      · exact hfirst.finish_error
      · have hpicked : context = Json.pick allowed input := by
          unfold projectContext at hcontext
          dsimp only at hcontext
          split at hcontext
          · cases hcontext
          · exact (Except.ok.inj hcontext).symm
        refine ⟨⟨hfirst.bounded.invoked, hfirst.bounded.budget, hfirst.bounded.counted,
            hfirst.bounded.steps⟩, ⟨?_, fun _ => rfl, hfirst.marked.pending,
            hfirst.marked.evidence, hfirst.marked.flags, hfirst.marked.known⟩,
          ⟨hfirst.answered.calls, hfirst.answered.grounded, hfirst.answered.returned⟩⟩
        intro key v hv
        rw [hpicked] at hv
        exact Json.lookup_of_pick hv

end Machine

/-! A shopper asks for shirts; the sales agent finds one and answers. -/

namespace AgentDemo

def zod : Zod ℤ where
  integer n := some n
  isUuid text := text.length = 36

def input : List (String × Json ℤ) :=
  [("message", .string "shirt"), ("latestProductIds", .array [.string "p-1"])]

def found : List (Label ℤ) :=
  [.modelStep, .routed (.ok (some (.object [("route", .string "sales")]))), .modelStep,
    .callTool .search (some (.object [("query", .string "shirt")])),
    .toolEnds 0 (.ok (some (.object [("products", .array [.object [("id", .string "p-2")]])])))]

def bought : List (Label ℤ) :=
  found ++ [.proposed (.ok (some (.object
    [("action", .string "buy"), ("productId", .string "p-2")]))), .return]

def replied : List (Label ℤ) :=
  found ++ [.proposed (.ok (some (.object
    [("action", .string "reply"), ("text", .string "Yes."), ("productId", .string "")]))), .return]

end AgentDemo

end FashionErp.CustomerMultiAgentService
