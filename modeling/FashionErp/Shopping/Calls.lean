/-
The engine call after call: an update of any shopper, or the answer to any request that was
ever asked for, in any order and as often as it may be.

`Calls.Inv` says of every session where its selection, its budget and
its cards come from.
-/
import FashionErp.Shopping.Choosing
import FashionErp.Shopping.Updates

namespace FashionErp

open Lib

namespace Shopping

/-! ## Calls -/

inductive Invocation
  | prepare (update : Update) (config : Config) (now : ℕ)
  | respond (context : Context) (response : Response) (now : ℕ)

structure EngineCall where
  invocation : Invocation
  before : Store
  after : Store
  context : Context

structure Calls where
  store : Store
  log : List EngineCall

def Calls.start : Calls := { store := [], log := [] }

def Context.bare (c : Context) : Context := { c with request := none, agentToolCalls := 0 }

def Calls.Awaits (s : Calls) (context : Context) : Prop :=
  ∃ call ∈ s.log, call.context.request.isSome ∧ context.bare = call.context.bare

instance (s : Calls) (context : Context) : Decidable (s.Awaits context) :=
  inferInstanceAs (Decidable (∃ call ∈ s.log, _))

def Calls.record (s : Calls) (invocation : Invocation) (out : Store × Context) : Calls :=
  { store := out.1
    log := s.log ++ [{ invocation := invocation, before := s.store, after := out.1, context := out.2 }] }

section Step

variable (lang : Language)

def Calls.step (s : Calls) (invocation : Invocation) : Option Calls :=
  match invocation with
  | .prepare update config now =>
    (prepare lang s.store update config now).toOption.map (s.record invocation)
  | .respond context response now =>
    if s.Awaits context then
      (respond lang s.store context response now).toOption.map (s.record invocation)
    else none

def calls : Machine Calls Invocation := { step := Calls.step lang }

end Step

/-! ## Stores -/

section Assoc

variable {κ ν : Type} [DecidableEq κ] {key : κ}

theorem lookup_cons_ne {k : κ} (h : key ≠ k) (v : ν) (l : List (κ × ν)) :
    ((k, v) :: l).lookup key = l.lookup key := by
  rw [List.lookup_cons, beq_eq_false_iff_ne.2 h]

@[simp] theorem lookup_assign (l : List (κ × ν)) (key : κ) (value : ν) (key' : κ) :
    (assign l key value).lookup key' = if key' = key then some value else l.lookup key' := by
  induction l with
  | nil =>
    unfold assign
    split
    · rename_i hkey
      rw [hkey, List.lookup_cons_self]
    · rename_i hkey
      rw [lookup_cons_ne hkey]
  | cons entry l ih =>
    obtain ⟨k, v⟩ := entry
    unfold assign
    by_cases hkey : k = key
    · subst hkey
      rw [if_pos rfl]
      split
      · rename_i hkey'
        rw [hkey', List.lookup_cons_self]
      · rename_i hkey'
        rw [lookup_cons_ne hkey', lookup_cons_ne hkey']
    · rw [if_neg hkey]
      by_cases hk : key' = k
      · subst hk
        rw [List.lookup_cons_self, List.lookup_cons_self, if_neg hkey]
      · rw [lookup_cons_ne hk, lookup_cons_ne hk, ih]

variable {l : List (κ × ν)} {value : ν}

theorem mem_of_lookup (h : l.lookup key = some value) : (key, value) ∈ l := by
  obtain ⟨earlier, later, rfl, -⟩ := List.lookup_eq_some_iff.1 h
  exact List.mem_append_right _ List.mem_cons_self

theorem lookup_of_mem (hnodup : (l.map Prod.fst).Nodup)
    (h : (key, value) ∈ l) : l.lookup key = some value := by
  induction l with
  | nil => cases h
  | cons entry l ih =>
    obtain ⟨k, v⟩ := entry
    rw [List.map_cons, List.nodup_cons] at hnodup
    rcases List.mem_cons.1 h with heq | hin
    · cases heq
      exact List.lookup_cons_self
    · have hne : key ≠ k := by
        intro heq
        subst heq
        exact hnodup.1 (List.mem_map.2 ⟨_, hin, rfl⟩)
      rw [lookup_cons_ne hne]
      exact ih hnodup.2 hin

theorem mem_keys_assign {k : κ}
    (h : k ∈ (assign l key value).map Prod.fst) : k ∈ l.map Prod.fst ∨ k = key := by
  obtain ⟨e, he, rfl⟩ := List.mem_map.1 h
  rcases mem_assign he with hold | rfl
  · exact .inl (List.mem_map.2 ⟨e, hold, rfl⟩)
  · exact .inr rfl

theorem nodup_assign (h : (l.map Prod.fst).Nodup) (key : κ) (value : ν) :
    ((assign l key value).map Prod.fst).Nodup := by
  induction l with
  | nil => exact List.nodup_singleton _
  | cons entry l ih =>
    obtain ⟨k, v⟩ := entry
    rw [List.map_cons, List.nodup_cons] at h
    unfold assign
    split
    · rw [List.map_cons, List.nodup_cons]
      exact h
    · rename_i hkey
      rw [List.map_cons, List.nodup_cons]
      refine ⟨fun hk => ?_, ih h.2⟩
      rcases mem_keys_assign hk with hold | heq
      · exact h.1 hold
      · exact hkey heq

omit [DecidableEq κ] in
theorem nodup_filter (h : (l.map Prod.fst).Nodup) (keep : κ × ν → Bool) :
    ((l.filter keep).map Prod.fst).Nodup :=
  h.sublist (List.filter_sublist.map Prod.fst)

theorem lookup_filter (h : (l.map Prod.fst).Nodup) {keep : κ × ν → Bool} (hfound : (l.filter keep).lookup key = some value) : l.lookup key = some value :=
  lookup_of_mem h (List.mem_of_mem_filter (mem_of_lookup hfound))

end Assoc

/-! ## What a call does -/

def sessionFor (found : Option Shopper) (companyId : String) (now : ℕ) : Shopper :=
  (found.getD (newShopper companyId now)).touch now

/-- What a call does to the sessions. -/
inductive EngineCall.Made (lang : Language) (call : EngineCall) : Prop
  | unheard (update : Update) (config : Config) (now : ℕ) (text : String)
      (hinvocation : call.invocation = .prepare update config now)
      (hcontext : call.context = (update.context config).say text)
      (hkept : ∀ userId shopper, call.after.lookup userId = some shopper →
        call.before.lookup userId = some shopper)
  | prepared (update : Update) (config : Config) (now : ℕ) (found : Option Shopper) (t : Turn)
      (hinvocation : call.invocation = .prepare update config now)
      (hfound : found = none ∨ found = call.before.lookup (update.context config).userId)
      (hprepare : Turn.prepare lang
        { s := sessionFor found config.companyId now, c := update.context config } config
        (update.callbackQuery.map fun callback => callback.data.getD "") now = .ok t)
      (hcontext : call.context = t.c)
      (hleft : call.after.lookup (update.context config).userId = some t.s)
      (hkept : ∀ userId shopper, userId ≠ (update.context config).userId →
        call.after.lookup userId = some shopper → call.before.lookup userId = some shopper)
  /-- An answer for a session that is gone. -/
  | lost (asked : Context) (response : Response) (now : ℕ)
      (hinvocation : call.invocation = .respond asked response now)
      (hfound : call.before.lookup asked.userId = none) (hafter : call.after = call.before)
      (hcontext : call.context = asked.next.stale)
  | responded (asked : Context) (response : Response) (now : ℕ) (shopper : Shopper) (t : Turn)
      (hinvocation : call.invocation = .respond asked response now)
      (hfound : call.before.lookup asked.userId = some shopper)
      (hrespond : Turn.respond lang { s := shopper, c := asked.next } response now = .ok t)
      (hcontext : call.context = t.c)
      (hafter : ∀ userId, call.after.lookup userId =
        if userId = asked.userId then some t.s else call.before.lookup userId)

section Made

variable {lang : Language}

theorem prepare_made {store store' : Store} {update : Update} {config : Config} {now : ℕ}
    {c : Context} (hnodup : (store.map Prod.fst).Nodup)
    (h : prepare lang store update config now = .ok (store', c)) :
    EngineCall.Made lang ⟨.prepare update config now, store, store', c⟩ ∧
      (store'.map Prod.fst).Nodup := by
  unfold prepare at h
  dsimp only at h
  obtain ⟨isPrivate, -, h⟩ := except_bind_eq_ok.1 h
  split at h
  · cases except_pure_eq_ok.1 h
    exact ⟨.unheard update config now _ rfl rfl fun _ _ h => h, hnodup⟩
  have halive : ((store.alive now).map Prod.fst).Nodup := nodup_filter hnodup _
  split at h
  · cases except_pure_eq_ok.1 h
    exact ⟨.unheard update config now _ rfl rfl fun _ _ h => lookup_filter hnodup h, halive⟩
  split at h
  · cases except_pure_eq_ok.1 h
    exact ⟨.unheard update config now _ rfl rfl fun _ _ h => lookup_filter hnodup h, halive⟩
  · obtain ⟨t, ht, h⟩ := except_bind_eq_ok.1 h
    cases except_pure_eq_ok.1 h
    generalize ((store.alive now).lookup (update.context config).userId).any
      (fun s => decide (s.companyId ≠ (update.context config).companyId)) = moved at ht ⊢
    -- The session of another company is left behind.
    have hrest : ((if moved then remove (store.alive now) (update.context config).userId
        else store.alive now).map Prod.fst).Nodup := by
      split
      · exact nodup_filter halive _
      · exact halive
    have hlookup : ∀ userId shopper, (if moved then remove (store.alive now) (update.context config).userId
        else store.alive now).lookup userId = some shopper → store.lookup userId = some shopper := by
      intro userId shopper hfound
      split at hfound
      · exact lookup_filter hnodup (lookup_filter halive hfound)
      · exact lookup_filter hnodup hfound
    generalize (if moved then remove (store.alive now) (update.context config).userId
      else store.alive now) = rest at ht hrest hlookup ⊢
    refine ⟨.prepared update config now (rest.lookup (update.context config).userId) t rfl ?_ ht rfl ?_ ?_,
      nodup_assign hrest _ _⟩
    · cases hfound : rest.lookup (update.context config).userId with
      | none => exact .inl rfl
      | some shopper => exact .inr (hlookup _ _ hfound).symm
    · show (assign rest _ t.s).lookup _ = _
      rw [lookup_assign, if_pos rfl]
    · intro userId shopper hne hafter
      change (assign rest _ t.s).lookup _ = _ at hafter
      rw [lookup_assign, if_neg hne] at hafter
      exact hlookup _ _ hafter

theorem respond_made {store store' : Store} {asked : Context} {response : Response} {now : ℕ}
    {c : Context} (hnodup : (store.map Prod.fst).Nodup)
    (h : respond lang store asked response now = .ok (store', c)) :
    EngineCall.Made lang ⟨.respond asked response now, store, store', c⟩ ∧
      (store'.map Prod.fst).Nodup := by
  unfold respond at h
  dsimp only at h
  split at h
  · rename_i shopper hfound
    obtain ⟨t, ht, h⟩ := except_bind_eq_ok.1 h
    cases except_pure_eq_ok.1 h
    refine ⟨.responded asked response now shopper t rfl hfound ht rfl fun userId => ?_,
      nodup_assign hnodup _ _⟩
    exact lookup_assign _ _ _ _
  · rename_i hfound
    cases except_pure_eq_ok.1 h
    refine ⟨.lost asked response now rfl ?_ rfl rfl, hnodup⟩
    cases hlookup : store.lookup asked.userId with
    | none => rfl
    | some shopper => exact absurd hlookup (hfound shopper)

/-- Every call of a run is made like that, and starts where the last one has ended. -/
theorem calls_made {s s' : Calls} {invocation : Invocation} (hnodup : (s.store.map Prod.fst).Nodup)
    (h : (calls lang).step s invocation = some s') :
    ∃ call, call.Made lang ∧ call.invocation = invocation ∧ call.before = s.store ∧
      s' = ⟨call.after, s.log ++ [call]⟩ ∧ (s'.store.map Prod.fst).Nodup ∧
        ∀ asked response now, call.invocation = .respond asked response now → s.Awaits asked := by
  change Calls.step lang s invocation = some s' at h
  unfold Calls.step at h
  split at h
  · obtain ⟨⟨store, c⟩, hout, rfl⟩ := Option.map_eq_some_iff.1 h
    obtain ⟨hmade, hnodup'⟩ := prepare_made hnodup (toOption_eq_some.1 hout)
    refine ⟨_, hmade, rfl, rfl, rfl, hnodup', ?_⟩
    rintro asked response now heq
    cases heq
  · rename_i asked response now
    split at h
    · rename_i hawaits
      obtain ⟨⟨store, c⟩, hout, rfl⟩ := Option.map_eq_some_iff.1 h
      obtain ⟨hmade, hnodup'⟩ := respond_made hnodup (toOption_eq_some.1 hout)
      refine ⟨_, hmade, rfl, rfl, rfl, hnodup', ?_⟩
      rintro asked' response' now' heq
      cases heq
      exact hawaits
    · cases h

end Made

/-! ## Where a session comes from -/

def CardShown (log : List EngineCall) (userId id : String) : Prop :=
  ∃ call ∈ log, call.context.userId = userId ∧ call.context.ShowsCard id

def EngineCall.product (call : EngineCall) : Option Product :=
  match call.invocation with
  | .prepare _ _ _ => none
  | .respond _ response _ => response.body.bind Body.product

def BudgetShown (log : List EngineCall) (userId : String) (b : BudgetConfirmation) : Prop :=
  ∃ call ∈ log, call.context.userId = userId ∧ ∃ p ∈ call.product, ∃ price : Cents,
    p.id = b.productId ∧ p.currency = b.currency ∧
      budgetMessage p price b.price b.token ∈ call.context.messages

def Update.pressed (update : Update) : Option String :=
  update.callbackQuery.map fun callback => callback.data.getD ""

def EngineCall.Presses (call : EngineCall) (userId : String) (b : BudgetConfirmation) : Prop :=
  ∃ update config now pressed, call.invocation = .prepare update config now ∧
    (update.context config).userId = userId ∧ update.pressed = some pressed ∧
      PressesBudget b.token (split ':' pressed)

/-- The shopper has agreed to the budget: it was shown, and its button was pressed then. -/
def Agreed (log : List EngineCall) (userId : String) (b : BudgetConfirmation) : Prop :=
  ∃ earlier press later, log = earlier ++ press :: later ∧ BudgetShown earlier userId b ∧
    press.Presses userId b

def EngineCall.selects (call : EngineCall) (userId : String) : Bool :=
  match call.invocation with
  | .prepare _ _ _ => false
  | .respond asked response _ =>
    asked.userId = userId && (call.before.lookup userId).any fun shopper =>
      Turn.selects { s := shopper, c := asked.next } response

def startOf (log : List EngineCall) (userId : String) : Option EngineCall :=
  (log.filter fun call => call.selects userId).getLast?

def EngineCall.preferences (call : EngineCall) (userId : String) : Preferences :=
  ((call.before.lookup userId).map Shopper.preferences).getD {}

def SelectedWithin (log : List EngineCall) (userId : String) (selection : Selection) : Prop :=
  ∃ start p, startOf log userId = some start ∧ start.product = some p ∧
    p.id = selection.productId ∧
    (selection.filters.maxPrice = truthy (start.preferences userId).maxPrice ∨
      ∃ b, Agreed log userId b ∧ b.productId = p.id ∧ b.currency = p.currency ∧
        selection.filters.maxPrice = some (money b.price))

/-- A session has nothing that was not shown: its cards, its budget and its selection come from
the calls before. -/
structure Grounded (log : List EngineCall) (userId : String) (v : Choosing) : Prop where
  cards : ∀ id ∈ v.cards, CardShown log userId id
  confirmation : ∀ b ∈ v.confirmation, BudgetShown log userId b
  selection : ∀ selection ∈ v.selection, SelectedWithin log userId selection

structure Context.Sound (log : List EngineCall) (c : Context) : Prop where
  budgetOverride : ∀ b ∈ c.budgetOverride, Agreed log c.userId b
  command : c.op = some .legacy → c.assistantStartedAt = none
  assistant : c.request.isSome → c.op = some .assistant → c.hops = 0

/-- What every run keeps. -/
structure Calls.Inv (s : Calls) : Prop where
  keys : (s.store.map Prod.fst).Nodup
  sessions : ∀ userId shopper c, s.store.lookup userId = some shopper →
    Grounded s.log userId (Turn.choosing { s := shopper, c := c })
  contexts : ∀ call ∈ s.log, call.context.Sound s.log

variable {userId : String} {log : List EngineCall}

theorem CardShown.append {id : String} (h : CardShown log userId id)
    (later : List EngineCall) : CardShown (log ++ later) userId id := by
  obtain ⟨call, hcall, hrest⟩ := h
  exact ⟨call, List.mem_append_left _ hcall, hrest⟩

theorem BudgetShown.append {b : BudgetConfirmation}
    (h : BudgetShown log userId b) (later : List EngineCall) : BudgetShown (log ++ later) userId b := by
  obtain ⟨call, hcall, hrest⟩ := h
  exact ⟨call, List.mem_append_left _ hcall, hrest⟩

theorem Agreed.append {b : BudgetConfirmation}
    (h : Agreed log userId b) (later : List EngineCall) : Agreed (log ++ later) userId b := by
  obtain ⟨earlier, press, rest, rfl, hrest⟩ := h
  refine ⟨earlier, press, rest ++ later, ?_, hrest⟩
  rw [List.append_assoc, List.cons_append]

variable {call : EngineCall}

theorem startOf_append_of_not
    (h : call.selects userId = false) : startOf (log ++ [call]) userId = startOf log userId := by
  unfold startOf
  rw [List.filter_append, List.filter_cons_of_neg (by rw [h]; decide), List.filter_nil,
    List.append_nil]

theorem startOf_append
    (h : call.selects userId = true) : startOf (log ++ [call]) userId = some call := by
  unfold startOf
  have hlast : [call].filter (fun call => call.selects userId) = [call] := by
    rw [List.filter_cons_of_pos (by exact h), List.filter_nil]
  rw [List.filter_append, hlast, List.getLast?_concat]

theorem SelectedWithin.append {selection : Selection} (h : SelectedWithin log userId selection) (hcall : call.selects userId = false) :
    SelectedWithin (log ++ [call]) userId selection := by
  obtain ⟨start, p, hstart, hp, hid, hlimit⟩ := h
  refine ⟨start, p, (startOf_append_of_not hcall).trans hstart, hp, hid, ?_⟩
  rcases hlimit with hlimit | ⟨b, hb, hrest⟩
  · exact .inl hlimit
  · exact .inr ⟨b, hb.append _, hrest⟩

variable {v v' : Choosing}

theorem Grounded.append
    (h : Grounded log userId v) (hcall : call.selects userId = false ∨ v.selection = none) :
    Grounded (log ++ [call]) userId v where
  cards := fun id hid => (h.cards id hid).append _
  confirmation := fun b hb => (h.confirmation b hb).append _
  selection := fun selection hselection => by
    rcases hcall with hcall | hnone
    · exact (h.selection selection hselection).append hcall
    · rw [hnone] at hselection
      cases hselection

theorem Grounded.keeps
    (h : Grounded log userId v) (hkeeps : Keeps v v') : Grounded log userId v' where
  cards := fun id hid => h.cards id (hkeeps.cards id hid)
  confirmation := fun b hb => h.confirmation b (hkeeps.confirmation b hb)
  selection := fun selection' hselection' => by
    obtain ⟨selection, hselection, hid, hfilters⟩ := hkeeps.selection selection' hselection'
    obtain ⟨start, p, hstart, hp, hproduct, hlimit⟩ := h.selection selection hselection
    rw [← hid] at hproduct
    rw [← hfilters] at hlimit
    exact ⟨start, p, hstart, hp, hproduct, hlimit⟩

theorem Context.Sound.append {c : Context} (h : c.Sound log)
    (later : List EngineCall) : c.Sound (log ++ later) where
  budgetOverride := fun b hb => (h.budgetOverride b hb).append later
  command := h.command
  assistant := h.assistant

theorem Chosen.past {preferences : Preferences} {selects : Bool} {body : Option Body} (h : Chosen preferences selects body v v') :
    v'.c.userId = v.c.userId ∧ v'.c.budgetOverride = v.c.budgetOverride ∧
      v'.c.assistantStartedAt = v.c.assistantStartedAt ∧
      ((v'.c.op = v.c.op ∧ (v'.c.request.isSome → v.c.request.isSome ∨ v.c.op ≠ some .assistant)) ∨
        (v'.c.op ≠ some .legacy ∧ v'.c.op ≠ some .assistant)) := by
  have hpast {w : Choosing} (h : Keeps w v') (hw : w.c = v.c) : v'.c.userId = v.c.userId ∧
      v'.c.budgetOverride = v.c.budgetOverride ∧
      v'.c.assistantStartedAt = v.c.assistantStartedAt ∧
      ((v'.c.op = v.c.op ∧ (v'.c.request.isSome → v.c.request.isSome ∨ v.c.op ≠ some .assistant)) ∨
        (v'.c.op ≠ some .legacy ∧ v'.c.op ≠ some .assistant)) := by
    rw [← hw]
    exact ⟨h.userId, h.budgetOverride, h.assistantStartedAt, h.pending⟩
  cases h with
  | keeps h hselects => exact hpast h rfl
  | shown h hselects hcards => exact hpast h rfl
  | started p selection hselects hbody hid hlimit h => exact hpast h rfl
  | confirmed p price b hbody h hselection hid hcurrency hmessage => exact hpast h rfl

theorem Calls.Awaits.sound {s : Calls} {asked : Context} (h : s.Awaits asked) (hinv : s.Inv) :
    (∀ b ∈ asked.budgetOverride, Agreed s.log asked.userId b) ∧
      (asked.op = some .legacy → asked.assistantStartedAt = none) ∧
      (asked.op = some .assistant → asked.hops = 0) := by
  obtain ⟨call, hcall, hrequest, hbare⟩ := h
  have hsound := hinv.contexts call hcall
  have huser : asked.bare.userId = call.context.bare.userId := by rw [hbare]
  have hoverride : asked.bare.budgetOverride = call.context.bare.budgetOverride := by rw [hbare]
  have hop : asked.bare.op = call.context.bare.op := by rw [hbare]
  have hstarted : asked.bare.assistantStartedAt = call.context.bare.assistantStartedAt := by rw [hbare]
  have hhops : asked.bare.hops = call.context.bare.hops := by rw [hbare]
  change (∀ b ∈ asked.bare.budgetOverride, Agreed s.log asked.bare.userId b) ∧
    (asked.bare.op = some .legacy → asked.bare.assistantStartedAt = none) ∧
    (asked.bare.op = some .assistant → asked.bare.hops = 0)
  rw [huser, hoverride, hop, hstarted, hhops]
  exact ⟨hsound.budgetOverride, hsound.command, hsound.assistant hrequest⟩

theorem grounded_sessionFor {companyId : String} {found : Option Shopper} {now : ℕ} {c : Context}
    (h : ∀ shopper ∈ found, Grounded log userId (Turn.choosing { s := shopper, c := c })) :
    Grounded log userId (Turn.choosing { s := sessionFor found companyId now, c := c }) := by
  have hkeeps (s : Shopper) : Keeps (Turn.choosing { s := s, c := c })
      (Turn.choosing { s := s.touch now, c := c }) := by
    refine Keeps.ofSession (t := { s := s, c := c }) (Keeps.refl _) ?_ ?_ fun _ => mem_touch
    · intro selection hselection
      refine ⟨selection, ?_, rfl, rfl⟩
      unfold Shopper.touch at hselection
      dsimp only at hselection
      split at hselection
      · exact hselection
      · exact hselection
    · intro b hb
      unfold Shopper.touch at hb
      dsimp only at hb
      split at hb
      · exact hb
      · exact hb
  cases found with
  | none =>
    refine Grounded.keeps ⟨?_, ?_, ?_⟩ (hkeeps (newShopper companyId now))
    · rintro id hid
      cases hid
    · rintro b hb
      cases hb
    · rintro selection hselection
      cases hselection
  | some shopper => exact (h shopper rfl).keeps (hkeeps shopper)

theorem Grounded.opened {data : Option String} (h : Grounded log userId v) (hopened : Opened data v v') :
    Grounded log userId v' := by
  cases hopened with
  | keeps hkeeps => exact h.keeps hkeeps
  | asked hkeeps hop huser hoverride hhops =>
    have hsame : Grounded log userId { v with c := v'.c } := ⟨h.cards, h.confirmation, h.selection⟩
    exact hsame.keeps hkeeps
  | ordered hkeeps hop huser hoverride hstarted =>
    have hsame : Grounded log userId { v with c := v'.c } := ⟨h.cards, h.confirmation, h.selection⟩
    exact hsame.keeps hkeeps
  | pressed hpressed =>
    refine ⟨?_, ?_, ?_⟩
    · rw [hpressed.cards]
      exact h.cards
    · rw [hpressed.confirmation]
      rintro b hb
      cases hb
    · intro selection hselection
      rcases hpressed.selection with hnone | hsame
      · rw [hnone] at hselection
        cases hselection
      · rw [hsame] at hselection
        exact h.selection selection hselection

theorem Opened.sound {update : Update} {config : Config}
    {now : ℕ} (hinvocation : call.invocation = .prepare update config now)
    (hcontext : v.c = update.context config) (hcall : call.context = v'.c)
    (h : Grounded log v.c.userId v) (hopened : Opened update.pressed v v') :
    call.context.Sound (log ++ [call]) ∧ call.context.userId = v.c.userId := by
  have hnone : v.c.budgetOverride = none ∧ v.c.op = none ∧ v.c.assistantStartedAt = none ∧
      v.c.hops = 0 := by
    rw [hcontext]
    exact ⟨rfl, rfl, rfl, rfl⟩
  have hclear (hoverride : v'.c.budgetOverride = v.c.budgetOverride) :
      ∀ b ∈ v'.c.budgetOverride, Agreed (log ++ [call]) v'.c.userId b := by
    rw [hoverride, hnone.1]
    rintro b hb
    cases hb
  rw [hcall]
  cases hopened with
  | keeps hkeeps =>
    refine ⟨⟨hclear hkeeps.budgetOverride, fun _ => hkeeps.assistantStartedAt.trans hnone.2.2.1, ?_⟩,
      hkeeps.userId⟩
    intro _ hop
    rcases hkeeps.pending with ⟨hsame, -⟩ | ⟨-, hother⟩
    · rw [hsame, hnone.2.1] at hop
      cases hop
    · exact absurd hop hother
  | asked hkeeps hop huser hoverride hhops =>
    refine ⟨⟨hclear hoverride, fun hlegacy => ?_, fun _ _ => hhops.trans hnone.2.2.2⟩, huser⟩
    rw [hop] at hlegacy
    cases hlegacy
  | ordered hkeeps hop huser hoverride hstarted =>
    refine ⟨⟨hclear hoverride, fun _ => hstarted.trans hnone.2.2.1, fun _ hassistant => ?_⟩, huser⟩
    rw [hop] at hassistant
    cases hassistant
  | pressed hpressed =>
    obtain ⟨b, hb, hoverride, pressed, hdata, hpress⟩ := hpressed.budgetOverride
    refine ⟨⟨?_, fun hlegacy => ?_, fun _ hassistant => ?_⟩, hpressed.userId⟩
    · -- What is pressed was shown in a call before.
      rw [hoverride]
      rintro b' hb'
      cases hb'
      refine ⟨log, call, [], rfl, ?_, update, config, now, pressed, hinvocation, ?_, hdata, hpress⟩
      · rw [hpressed.userId]
        exact h.confirmation b hb
      · rw [hpressed.userId, hcontext]
    · rw [hpressed.op] at hlegacy
      cases hlegacy
    · rw [hpressed.op] at hassistant
      cases hassistant

theorem Grounded.chosen {asked : Context} {response : Response} {now : ℕ} {shopper : Shopper}
    (hinvocation : call.invocation = .respond asked response now) (huser : asked.userId = userId)
    (hfound : call.before.lookup userId = some shopper) (hcall : call.context = v'.c)
    (h : Grounded log userId (Turn.choosing { s := shopper, c := asked.next }))
    (hoverride : ∀ b ∈ asked.budgetOverride, Agreed log userId b)
    (hchosen : Chosen shopper.preferences (Turn.selects { s := shopper, c := asked.next } response)
      response.body (Turn.choosing { s := shopper, c := asked.next }) v') :
    Grounded (log ++ [call]) userId v' := by
  have hselects : call.selects userId = Turn.selects { s := shopper, c := asked.next } response := by
    unfold EngineCall.selects
    rw [hinvocation]
    dsimp only
    rw [hfound, Option.any_some, decide_eq_true huser, Bool.true_and]
  have hcaller : call.context.userId = userId := by
    rw [hcall, hchosen.past.1]
    exact huser
  have hanswered {p : Product} (hbody : response.body.bind Body.product = some p) :
      call.product = some p := by
    unfold EngineCall.product
    rw [hinvocation]
    exact hbody
  cases hchosen with
  | keeps hkeeps hnone =>
    rw [← hselects] at hnone
    exact (h.keeps hkeeps).append hnone
  | shown hkeeps hnone hcards =>
    have hgone := hselects.trans hnone
    refine ⟨fun id hid => ?_, fun b hb => ?_, fun selection hselection => ?_⟩
    · rcases hcards id hid with hold | hnew
      · exact (h.cards id hold).append _
      · refine ⟨call, List.mem_append_right _ List.mem_cons_self, hcaller, ?_⟩
        rw [hcall]
        exact hnew
    · exact (h.confirmation b (hkeeps.confirmation b hb)).append _
    · obtain ⟨old, hold, hid, hfilters⟩ := hkeeps.selection selection hselection
      obtain ⟨start, p, hstart, hp, hproduct, hlimit⟩ := (h.selection old hold).append hgone
      rw [← hid] at hproduct
      rw [← hfilters] at hlimit
      exact ⟨start, p, hstart, hp, hproduct, hlimit⟩
  | started p selection hnew hbody hid hlimit hkeeps =>
    refine ⟨fun id hid => (h.cards id (hkeeps.cards id hid)).append _,
      fun b hb => (h.confirmation b (hkeeps.confirmation b hb)).append _, ?_⟩
    intro selection' hselection'
    obtain ⟨_, heq, hid', hfilters⟩ := hkeeps.selection selection' hselection'
    cases heq
    have hpreferences : call.preferences userId = shopper.preferences := by
      unfold EngineCall.preferences
      rw [hfound]
      rfl
    refine ⟨call, p, startOf_append (hselects.trans hnew), hanswered hbody, ?_, ?_⟩
    · rw [hid', hid]
    · rw [hfilters, hpreferences]
      rcases hlimit with hlimit | ⟨b, hb, hproduct, hcurrency, hlimit⟩
      · exact .inl hlimit
      · exact .inr ⟨b, (hoverride b hb).append _, hproduct, hcurrency, hlimit⟩
  | confirmed p price b hbody hkeeps hnone hid hcurrency hmessage =>
    refine ⟨fun id hid => (h.cards id (hkeeps.cards id hid)).append _, fun b' hb' => ?_, ?_⟩
    · cases hkeeps.confirmation b' hb'
      refine ⟨call, List.mem_append_right _ List.mem_cons_self, hcaller, p, hanswered hbody, price,
        hid.symm, hcurrency.symm, ?_⟩
      rw [hcall]
      exact hmessage
    · rw [hnone]
      rintro selection hselection
      cases hselection

theorem calls_inv_start : Calls.start.Inv where
  keys := List.nodup_nil
  sessions := fun _ _ _ h => by cases h
  contexts := fun _ h => by cases h

/-- A call keeps the invariant. -/
theorem Calls.Inv.made {lang : Language} {s : Calls} (h : s.Inv)
    (hmade : call.Made lang) (hbefore : call.before = s.store)
    (hkeys : (call.after.map Prod.fst).Nodup)
    (hawaits : ∀ asked response now, call.invocation = .respond asked response now → s.Awaits asked) :
    (Calls.mk call.after (s.log ++ [call])).Inv := by
  have hold (hcontext : call.context.Sound (s.log ++ [call])) :
      ∀ call' ∈ s.log ++ [call], call'.context.Sound (s.log ++ [call]) := by
    intro call' hcall'
    rcases List.mem_append.1 hcall' with hearlier | hlast
    · exact (h.contexts call' hearlier).append _
    · rw [List.mem_singleton.1 hlast]
      exact hcontext
  -- A session of another shopper, or one that is left alone.
  have hkept {userId : String} {shopper : Shopper} {c : Context}
      (hfound : call.before.lookup userId = some shopper) (hnot : call.selects userId = false) :
      Grounded (s.log ++ [call]) userId (Turn.choosing { s := shopper, c := c }) := by
    rw [hbefore] at hfound
    exact (h.sessions userId shopper c hfound).append (.inl hnot)
  have hprepare {update : Update} {config : Config} {now : ℕ}
      (hinvocation : call.invocation = .prepare update config now) (userId : String) :
      call.selects userId = false := by
    unfold EngineCall.selects
    rw [hinvocation]
  cases hmade with
  | unheard update config now text hinvocation hcontext hstore =>
    refine ⟨hkeys, fun userId shopper c hafter =>
      hkept (hstore userId shopper hafter) (hprepare hinvocation userId), hold ?_⟩
    rw [hcontext]
    refine ⟨fun b hb => ?_, fun _ => rfl, fun hrequest => ?_⟩
    · cases hb
    · cases hrequest
  | prepared update config now found t hinvocation hfound hturn hcontext hleft hstore =>
    have hgrounded : Grounded s.log (update.context config).userId (Turn.choosing
        { s := sessionFor found config.companyId now, c := update.context config }) := by
      refine grounded_sessionFor fun shopper hin => ?_
      rcases hfound with rfl | rfl
      · cases hin
      · rw [hbefore] at hin
        exact h.sessions _ shopper _ hin
    have hopened := opened_prepare lang hturn
    refine ⟨hkeys, fun userId shopper c hafter => ?_,
      hold (Opened.sound hinvocation rfl hcontext hgrounded hopened).1⟩
    by_cases huser : userId = (update.context config).userId
    · rw [huser] at hafter ⊢
      obtain rfl := Option.some.inj (hleft.symm.trans hafter)
      have hnew := (hgrounded.opened hopened).append (.inl (hprepare hinvocation _))
      exact ⟨hnew.cards, hnew.confirmation, hnew.selection⟩
    · exact hkept (hstore userId shopper huser hafter) (hprepare hinvocation userId)
  | lost asked response now hinvocation hnone hafter hcontext =>
    obtain ⟨hoverride, hcommand, -⟩ := (hawaits _ _ _ hinvocation).sound h
    have hnot (userId : String) : call.selects userId = false := by
      unfold EngineCall.selects
      rw [hinvocation]
      dsimp only
      by_cases huser : asked.userId = userId
      · rw [← huser, hnone, Option.any_none, Bool.and_false]
      · rw [decide_eq_false huser, Bool.false_and]
    refine ⟨hkeys, fun userId shopper c hfound => ?_, hold ?_⟩
    · rw [hafter] at hfound
      exact hkept hfound (hnot userId)
    · rw [hcontext]
      refine ⟨fun b hb => (hoverride b hb).append _, hcommand, fun hrequest => ?_⟩
      cases hrequest
  | responded asked response now shopper t hinvocation hfound hturn hcontext hstore =>
    obtain ⟨hoverride, hcommand, -⟩ := (hawaits _ _ _ hinvocation).sound h
    have hchosen := chosen_respond lang hturn
    have hgrounded : Grounded s.log asked.userId (Turn.choosing { s := shopper, c := asked.next }) := by
      rw [hbefore] at hfound
      exact h.sessions _ _ _ hfound
    obtain ⟨huser, hsame, hstarted, hpending⟩ := hchosen.past
    refine ⟨hkeys, fun userId shopper' c hafter => ?_, hold ?_⟩
    · rw [hstore userId] at hafter
      split at hafter
      · rename_i heq
        rw [heq]
        cases hafter
        have hnew := Grounded.chosen hinvocation rfl hfound hcontext hgrounded hoverride hchosen
        exact ⟨hnew.cards, hnew.confirmation, hnew.selection⟩
      · rename_i hother
        refine hkept hafter ?_
        unfold EngineCall.selects
        rw [hinvocation]
        dsimp only
        rw [decide_eq_false fun heq => hother heq.symm, Bool.false_and]
    · rw [hcontext]
      refine ⟨?_, ?_, ?_⟩
      · intro b hb
        change b ∈ t.choosing.c.budgetOverride at hb
        rw [hsame] at hb
        have hagreed := (hoverride b hb).append [call]
        rw [show t.c.userId = asked.userId from huser]
        exact hagreed
      · intro hop
        rcases hpending with ⟨hopSame, -⟩ | ⟨hother, -⟩
        · exact hstarted.trans (hcommand (hopSame.symm.trans hop))
        · exact absurd hop hother
      · intro hrequest hop
        rcases hpending with ⟨hopSame, hrest⟩ | ⟨-, hother⟩
        · rcases hrest hrequest with hnone | hnot
          · cases hnone
          · exact absurd (hopSame.symm.trans hop) hnot
        · exact absurd hop hother

/-- What holds of every call, given the invariant where it is made. -/
theorem forall_calls {lang : Language} {C : Calls → Invocation → Prop}
    {P : List EngineCall → EngineCall → Prop}
    (hstep : ∀ (s : Calls) (call : EngineCall), s.Inv → call.Made lang → call.before = s.store →
      C s call.invocation →
      (∀ asked response now, call.invocation = .respond asked response now → s.Awaits asked) →
      P s.log call) {inputs : List Invocation} {s : Calls}
    (hrun : (calls lang).RunWith C .start inputs s) :
    s.Inv ∧ ∀ earlier call later, s.log = earlier ++ call :: later → P earlier call := by
  refine hrun.invariant (I := fun s => s.Inv ∧
    ∀ earlier call later, s.log = earlier ++ call :: later → P earlier call) ⟨calls_inv_start, ?_⟩ ?_
  · intro earlier call later h
    exact absurd h.symm (List.append_ne_nil_of_right_ne_nil _ (List.cons_ne_nil _ _))
  · rintro s invocation s' ⟨hinv, hall⟩ hC hs
    obtain ⟨call, hmade, hinvocation, hbefore, rfl, hkeys, hawaits⟩ := calls_made hinv.keys hs
    refine ⟨hinv.made hmade hbefore hkeys hawaits, fun earlier call' later hlog => ?_⟩
    change s.log ++ [call] = _ at hlog
    rcases List.eq_nil_or_concat later with rfl | ⟨later, last, rfl⟩
    · obtain ⟨rfl, heq⟩ := List.append_inj' hlog rfl
      cases heq
      rw [← hinvocation] at hC
      exact hstep s call hinv hmade hbefore hC hawaits
    · have hlast : s.log ++ [call] = (earlier ++ call' :: later) ++ [last] := by
        rw [hlog, List.append_assoc, List.cons_append, List.concat_eq_append]
      exact hall earlier call' later (List.append_inj' hlast rfl).1

end Shopping

end FashionErp
