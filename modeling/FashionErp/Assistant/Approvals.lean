/-
`AiApprovalService` of `ai-assistant/services/ai-approval.service.ts`: approvals of the
actions the assistant proposes.

An approval is issued for a user, a company, a tool and arguments, and is consumed by the one
call it lets through.
-/
import FashionErp.Core.Basic
import FashionErp.Lib.Json
import FashionErp.Lib.Machine

namespace FashionErp

open Lib

structure PendingApproval (η : Type) where
  token : String
  toolName : String
  userId : Uuid
  companyId : Uuid
  argumentHash : η
  summary : String
  createdAt : ℤ
  expiresAt : ℤ

structure ApprovalCheckResult where
  approved : Bool
  summary : Option String := none
  error : Option String := none

def DEFAULT_APPROVAL_TTL_MS : ℤ := 5 * 60 * 1000

namespace AiApprovalService

variable {ν η : Type} [NumberText ν]

/-! ## The service -/

/-- `args || {}`. -/
def orEmpty : Json ν → Json ν
  | .null => .object []
  | .bool false => .object []
  | .number n => if NumberText.isZero n then .object [] else .number n
  | .string s => if s = "" then .object [] else .string s
  | args => args

/-- `Object.keys`. -/
def objectKeys : Json ν → List String
  | .object properties => properties.map (·.1)
  | .array elements => (List.range elements.length).map toString
  | .string s => (List.range (Json.codeUnits s).length).map toString
  | _ => []

/-- The second argument of `JSON.stringify`. -/
def propertyList (args : Json ν) : List String := Json.sortKeys (objectKeys (orEmpty args))

def computeArgumentHash (sha256 : String → η) (args : Json ν) : η :=
  sha256 (Json.stringify (orEmpty args) (some (propertyList args)))

/-- `requestApproval`; the token is what `crypto.randomBytes` draws. -/
def requestApproval (sha256 : String → η) (token : String) (now : ℤ) (userId companyId : Uuid)
    (toolName : String) (rawArguments : Json ν) (actionSummary : String) (ttlMs : ℤ)
    (pendingApprovals : JsMap String (PendingApproval η)) :
    PendingApproval η × JsMap String (PendingApproval η) :=
  let pending : PendingApproval η :=
    { token, toolName, userId, companyId
      argumentHash := computeArgumentHash sha256 rawArguments
      summary := actionSummary
      createdAt := now
      expiresAt := now + ttlMs }
  (pending, pendingApprovals.insert token pending)

def verifyAndConsume [DecidableEq η] (sha256 : String → η) (now : ℤ) (token : Option String)
    (userId companyId : Uuid) (toolName : String) (rawArguments : Json ν)
    (pendingApprovals : JsMap String (PendingApproval η)) :
    ApprovalCheckResult × JsMap String (PendingApproval η) :=
  match token.filter (· ≠ "") with
  | none =>
    ({ approved := false, error := some "Approval token is required for this action." },
      pendingApprovals)
  | some token =>
    match pendingApprovals.lookup token with
    | none =>
      ({ approved := false, error := some "Approval token not found or already used." },
        pendingApprovals)
    | some pending =>
      if now > pending.expiresAt then
        ({ approved := false, error := some "Approval token has expired." },
          pendingApprovals.erase token)
      else if pending.userId ≠ userId ∨ pending.companyId ≠ companyId ∨
          pending.toolName ≠ toolName then
        ({ approved := false,
           error := some "Approval token does not match the current user/context." },
          pendingApprovals)
      else if pending.argumentHash ≠ computeArgumentHash sha256 rawArguments then
        ({ approved := false,
           error := some "Tool arguments do not match the approved parameters." },
          pendingApprovals)
      else ({ approved := true, summary := some pending.summary }, pendingApprovals.erase token)

/-- The body of the loop of `cleanupExpired`. -/
def purge (now : ℤ) (pendingApprovals : JsMap String (PendingApproval η))
    (entry : Sigma fun _ : String => PendingApproval η) : JsMap String (PendingApproval η) :=
  if now > entry.2.expiresAt then pendingApprovals.erase entry.1 else pendingApprovals

def cleanupExpired (now : ℤ) (pendingApprovals : JsMap String (PendingApproval η)) :
    JsMap String (PendingApproval η) :=
  pendingApprovals.entries.foldl (purge now) pendingApprovals

/-! ## What the functions do -/

def shown (args : Json ν) : Json ν := Json.select (propertyList args) (orEmpty args)

theorem computeArgumentHash_eq_iff {sha256 : String → η} (hsha : Function.Injective sha256)
    {args args' : Json ν} :
    computeArgumentHash sha256 args = computeArgumentHash sha256 args' ↔ shown args = shown args' := by
  unfold computeArgumentHash shown
  rw [hsha.eq_iff]
  exact Json.stringify_some_eq_iff

theorem orEmpty_deepEq {args args' : Json ν} (h : args.DeepEq args') :
    (orEmpty args).DeepEq (orEmpty args') := by
  have hkind := h.kind
  cases args with
  | object ps =>
    obtain ⟨qs, rfl, h⟩ := h.of_object
    exact h
  | array xs =>
    obtain ⟨ys, rfl, h⟩ := h.of_array
    exact h
  | _ =>
    cases args' <;> cases hkind
    exact .refl _

omit [NumberText ν] in
theorem mem_objectKeys {args args' : Json ν} (h : args.DeepEq args') (k : String) :
    k ∈ objectKeys args ↔ k ∈ objectKeys args' := by
  have hkind := h.kind
  cases args with
  | object ps =>
    obtain ⟨qs, rfl, h⟩ := h.of_object
    have hkeys : ∀ ps : List (String × Json ν),
        k ∈ ps.map (·.1) ↔ (Json.object ps).child (.key k) ≠ none := by
      intro ps
      rw [Json.child, ← Option.isSome_iff_ne_none, List.lookup_isSome_iff]
      constructor
      · intro hk
        obtain ⟨p, hp, hkey⟩ := List.mem_map.1 hk
        exact ⟨p, hp, beq_iff_eq.2 hkey.symm⟩
      · rintro ⟨p, hp, hkey⟩
        exact List.mem_map.2 ⟨p, hp, (beq_iff_eq.1 hkey).symm⟩
    rw [objectKeys, objectKeys, hkeys, hkeys]
    exact not_congr ⟨h.child_none, h.symm.child_none⟩
  | array xs =>
    obtain ⟨ys, rfl, h⟩ := h.of_array
    rw [objectKeys, objectKeys, h.forall₂.length_eq]
  | _ =>
    cases args' <;> cases hkind
    rfl

/-- Equal arguments are shown equally. -/
theorem shown_congr {args args' : Json ν} (h : args.DeepEq args') : shown args = shown args' := by
  have hargs := orEmpty_deepEq h
  have hkeys : propertyList args = propertyList args' := Json.sortKeys_congr (mem_objectKeys hargs)
  unfold shown
  rw [hkeys]
  exact Json.select_congr _ _ _ hargs

theorem lookup_purge (now : ℤ) (m : JsMap String (PendingApproval η))
    (e : Sigma fun _ : String => PendingApproval η) (t : String) :
    (purge now m e).lookup t =
      if e.1 = t ∧ now > e.2.expiresAt then none else m.lookup t := by
  unfold purge
  split
  · by_cases hkey : e.1 = t
    · subst hkey
      simp [*]
    · rw [AList.lookup_erase_ne (Ne.symm hkey)]
      simp [hkey]
  · simp [*]

theorem lookup_purge_foldl (now : ℤ) (t : String) :
    ∀ (es : List (Sigma fun _ : String => PendingApproval η)) (m : JsMap String (PendingApproval η)),
      (es.foldl (purge now) m).lookup t =
        if ∃ e ∈ es, e.1 = t ∧ now > e.2.expiresAt then none else m.lookup t
  | [], m => by simp
  | e :: es, m => by
    rw [List.foldl_cons, lookup_purge_foldl now t es, lookup_purge]
    by_cases he : e.1 = t ∧ now > e.2.expiresAt
    · rw [if_pos he, ite_self, if_pos ⟨e, List.mem_cons_self, he⟩]
    · rw [if_neg he]
      refine if_congr ⟨?_, ?_⟩ rfl rfl
      · rintro ⟨e', he', hpurged⟩
        exact ⟨e', List.mem_cons_of_mem _ he', hpurged⟩
      · rintro ⟨e', he', hpurged⟩
        rcases List.mem_cons.1 he' with rfl | he'
        · exact absurd hpurged he
        · exact ⟨e', he', hpurged⟩

theorem lookup_cleanupExpired (now : ℤ) (m : JsMap String (PendingApproval η)) (t : String) :
    (cleanupExpired now m).lookup t = (m.lookup t).filter fun p => now ≤ p.expiresAt := by
  unfold cleanupExpired
  rw [lookup_purge_foldl]
  cases hfind : m.lookup t with
  | none => simp
  | some p =>
    have hentry : ∀ e ∈ m.entries, e.1 = t → e = ⟨t, p⟩ := by
      rintro ⟨t', p'⟩ he rfl
      have hfind' : m.lookup t' = some p' := AList.mem_lookup_iff.2 he
      rw [hfind] at hfind'
      rw [Option.some.inj hfind']
    have hmem : (⟨t, p⟩ : Sigma fun _ : String => PendingApproval η) ∈ m.entries :=
      AList.mem_lookup_iff.1 hfind
    by_cases hlive : now ≤ p.expiresAt
    · rw [if_neg, Option.filter_some, if_pos (decide_eq_true hlive)]
      rintro ⟨e, he, hkey, hexpired⟩
      rw [hentry e he hkey] at hexpired
      exact absurd hexpired (not_lt.2 hlive)
    · rw [if_pos ⟨_, hmem, rfl, not_le.1 hlive⟩, Option.filter_some, if_neg (by simpa using hlive)]

structure Covers (p : PendingApproval η) (now : ℤ) (userId companyId : Uuid) (toolName : String) :
    Prop where
  live : now ≤ p.expiresAt
  userId : p.userId = userId
  companyId : p.companyId = companyId
  toolName : p.toolName = toolName

section Verify

variable [DecidableEq η] (sha256 : String → η) (now : ℤ) (token : Option String)
  (userId companyId : Uuid) (toolName : String) (args : Json ν) (m : JsMap String (PendingApproval η))

/-- What `verifyAndConsume` does: it approves and takes the approval away, or refuses and
leaves everything but an approval that has expired. -/
theorem verifyAndConsume_cases :
    let answer := verifyAndConsume sha256 now token userId companyId toolName args m
    (∃ t p, token = some t ∧ t ≠ "" ∧ m.lookup t = some p ∧
        Covers p now userId companyId toolName ∧ p.argumentHash = computeArgumentHash sha256 args ∧
        answer = ({ approved := true, summary := some p.summary }, m.erase t)) ∨
      (answer.1.approved = false ∧
        (∀ t p, token = some t → t ≠ "" → m.lookup t = some p →
          Covers p now userId companyId toolName →
            p.argumentHash ≠ computeArgumentHash sha256 args) ∧
        (answer.2 = m ∨ ∃ t p, m.lookup t = some p ∧ p.expiresAt < now ∧ answer.2 = m.erase t)) := by
  unfold verifyAndConsume
  intro answer
  cases htoken : token.filter (· ≠ "") with
  | none =>
    refine .inr ⟨by simp only [answer, htoken], fun t p ht hne => ?_, .inl (by simp only [answer, htoken])⟩
    rw [ht, Option.filter_some, if_pos (decide_eq_true hne)] at htoken
    cases htoken
  | some t =>
    obtain ⟨ht, hne⟩ := Option.filter_eq_some_iff.1 htoken
    have hne : t ≠ "" := of_decide_eq_true hne
    have hothers : ∀ {P : PendingApproval η → Prop}, (∀ p, m.lookup t = some p → P p) →
        ∀ t' p, token = some t' → t' ≠ "" → m.lookup t' = some p → P p := by
      intro P hP t' p ht' _ hp
      obtain rfl := Option.some.inj (ht.symm.trans ht')
      exact hP p hp
    cases hfind : m.lookup t with
    | none =>
      refine .inr ⟨by simp only [answer, htoken, hfind], hothers fun p hp => ?_,
        .inl (by simp only [answer, htoken, hfind])⟩
      rw [hfind] at hp
      cases hp
    | some p =>
      have hthis : ∀ {P : PendingApproval η → Prop}, P p → ∀ p', m.lookup t = some p' → P p' := by
        intro P hP p' hp'
        obtain rfl := Option.some.inj (hfind.symm.trans hp')
        exact hP
      simp only [answer, htoken, hfind]
      split
      · rename_i hexpired
        refine .inr ⟨rfl, hothers (hthis fun hcovers => ?_), .inr ⟨t, p, hfind, hexpired, rfl⟩⟩
        exact absurd hcovers.live (not_le.2 hexpired)
      · rename_i hlive
        split
        · rename_i hcontext
          refine .inr ⟨rfl, hothers (hthis fun hcovers => ?_), .inl rfl⟩
          rcases hcontext with h | h | h
          · exact absurd hcovers.userId h
          · exact absurd hcovers.companyId h
          · exact absurd hcovers.toolName h
        · rename_i hcontext
          push Not at hcontext
          split
          · rename_i hhash
            exact .inr ⟨rfl, hothers (hthis fun _ => hhash), .inl rfl⟩
          · rename_i hhash
            refine .inl ⟨t, p, ht, hne, hfind, ⟨not_lt.1 hlive, hcontext.1, hcontext.2.1,
              hcontext.2.2⟩, not_not.1 hhash, rfl⟩

end Verify

end AiApprovalService

/-! ## Runs -/

namespace Approvals

open AiApprovalService

variable {ν η : Type} [NumberText ν] [DecidableEq η]

structure State (ν η : Type) where
  pendingApprovals : JsMap String (PendingApproval η) := ∅
  now : ℤ
  issued : List (PendingApproval η × Json ν) := []
  approved : List String := []

inductive Label (ν : Type)
  | advance (ms : ℕ)
  | requestApproval (token : String) (userId companyId : Uuid) (toolName : String)
      (rawArguments : Json ν) (actionSummary : String) (ttlMs : ℤ)
  | verifyAndConsume (token : Option String) (userId companyId : Uuid) (toolName : String)
      (rawArguments : Json ν)
  | cleanupExpired

def State.tokens (s : State ν η) : List String := s.issued.map (·.1.token)

/-- What `crypto.randomBytes(24)` can draw: a text, and none drawn before. -/
def State.Fresh (s : State ν η) (token : String) : Prop := token ≠ "" ∧ token ∉ s.tokens

instance (s : State ν η) (token : String) : Decidable (s.Fresh token) :=
  inferInstanceAs (Decidable (token ≠ "" ∧ token ∉ s.tokens))

/-- `requestApproval`, with its history. -/
def State.issue (sha256 : String → η) (s : State ν η) (token : String) (userId companyId : Uuid)
    (toolName : String) (rawArguments : Json ν) (actionSummary : String) (ttlMs : ℤ) : State ν η :=
  let (pending, pendingApprovals) := requestApproval sha256 token s.now userId companyId toolName
    rawArguments actionSummary ttlMs s.pendingApprovals
  { s with
    pendingApprovals := pendingApprovals
    issued := (pending, rawArguments) :: s.issued }

/-- `verifyAndConsume`, with its history. -/
def State.verify (sha256 : String → η) (s : State ν η) (token : Option String)
    (userId companyId : Uuid) (toolName : String) (rawArguments : Json ν) :
    ApprovalCheckResult × State ν η :=
  let (answer, pendingApprovals) := verifyAndConsume sha256 s.now token userId companyId toolName
    rawArguments s.pendingApprovals
  (answer, { s with
    pendingApprovals := pendingApprovals
    approved := if answer.approved then token.toList ++ s.approved else s.approved })

def machine (sha256 : String → η) : Machine (State ν η) (Label ν) where
  step s
    | .advance ms => some { s with now := s.now + ms }
    | .requestApproval token userId companyId toolName rawArguments actionSummary ttlMs =>
      if s.Fresh token then
        some (s.issue sha256 token userId companyId toolName rawArguments actionSummary ttlMs)
      else none
    | .verifyAndConsume token userId companyId toolName rawArguments =>
      some (s.verify sha256 token userId companyId toolName rawArguments).2
    | .cleanupExpired =>
      some { s with pendingApprovals := cleanupExpired s.now s.pendingApprovals }

/-! ## The law -/

def State.Authorised (s : State ν η) (token : Option String) (userId companyId : Uuid)
    (toolName : String) (rawArguments : Json ν) : Prop :=
  ∃ p ∈ s.issued, token = some p.1.token ∧ p.1.token ∉ s.approved ∧
    Covers p.1 s.now userId companyId toolName ∧ p.2.DeepEq rawArguments

def Lawful (sha256 : String → η) (s : State ν η) : Label ν → Prop
  | .verifyAndConsume token userId companyId toolName rawArguments =>
    let (answer, s') := s.verify sha256 token userId companyId toolName rawArguments
    (answer.approved = true ↔ s.Authorised token userId companyId toolName rawArguments) ∧
      s'.approved.Nodup
  | _ => True

def NothingHidden (s : State ν η) : Label ν → Prop
  | .verifyAndConsume token userId companyId toolName rawArguments =>
    ∀ p ∈ s.issued, token = some p.1.token → p.1.token ∉ s.approved →
      Covers p.1 s.now userId companyId toolName → shown p.2 = shown rawArguments →
        p.2.DeepEq rawArguments
  | _ => True

/-- What the service holds is what was issued and is still live. -/
structure Inv (sha256 : String → η) (s : State ν η) : Prop where
  tokens : s.tokens.Nodup
  texts : "" ∉ s.tokens
  approved : s.approved.Nodup
  issued : ∀ t ∈ s.approved, t ∈ s.tokens
  pending : ∀ t p, s.pendingApprovals.lookup t = some p → p.token = t ∧ t ∉ s.approved ∧
    ∃ args, (p, args) ∈ s.issued
  hashes : ∀ p ∈ s.issued, p.1.argumentHash = computeArgumentHash sha256 p.2
  live : ∀ p ∈ s.issued, p.1.token ∉ s.approved → s.now ≤ p.1.expiresAt →
    s.pendingApprovals.lookup p.1.token = some p.1

variable {sha256 : String → η} {s s' : State ν η}

omit [NumberText ν] [DecidableEq η] in
theorem issued_unique (h : s.tokens.Nodup) {p q : PendingApproval η × Json ν} (hp : p ∈ s.issued)
    (hq : q ∈ s.issued) (htoken : p.1.token = q.1.token) : p = q :=
  List.inj_on_of_nodup_map h hp hq htoken

omit [DecidableEq η] in
theorem inv_start (now : ℤ) : Inv sha256 ({ now } : State ν η) where
  tokens := List.nodup_nil
  texts := List.not_mem_nil
  approved := List.nodup_nil
  issued _ h := absurd h List.not_mem_nil
  pending t p h := by
    rw [AList.lookup_empty] at h
    cases h
  hashes _ h := absurd h List.not_mem_nil
  live _ h := absurd h List.not_mem_nil

omit [DecidableEq η] in
theorem Inv.advance (h : Inv sha256 s) (ms : ℕ) : Inv sha256 { s with now := s.now + ms } :=
  { h with live := fun p hp hnot hlive => h.live p hp hnot (le_trans (by simp) hlive) }

omit [DecidableEq η] in
theorem Inv.issue (h : Inv sha256 s) {token : String} (hfresh : s.Fresh token)
    (userId companyId : Uuid) (toolName : String) (rawArguments : Json ν) (actionSummary : String)
    (ttlMs : ℤ) :
    Inv sha256 (s.issue sha256 token userId companyId toolName rawArguments actionSummary ttlMs) where
  tokens := List.nodup_cons.2 ⟨hfresh.2, h.tokens⟩
  texts hmem := by
    rcases List.mem_cons.1 hmem with heq | hmem
    · exact hfresh.1 heq.symm
    · exact h.texts hmem
  approved := h.approved
  issued t ht := List.mem_cons_of_mem _ (h.issued t ht)
  pending t p hp := by
    by_cases htoken : t = token
    · subst htoken
      have hp : (AList.insert t _ s.pendingApprovals).lookup t = some p := hp
      rw [AList.lookup_insert] at hp
      cases hp
      exact ⟨rfl, fun ht => hfresh.2 (h.issued t ht), rawArguments, List.mem_cons_self⟩
    · have hp : (AList.insert token _ s.pendingApprovals).lookup t = some p := hp
      rw [AList.lookup_insert_ne htoken] at hp
      obtain ⟨hkey, hnot, args, hargs⟩ := h.pending t p hp
      exact ⟨hkey, hnot, args, List.mem_cons_of_mem _ hargs⟩
  hashes p hp := by
    rcases List.mem_cons.1 hp with rfl | hp
    · rfl
    · exact h.hashes p hp
  live p hp hnot hlive := by
    show (AList.insert token _ s.pendingApprovals).lookup p.1.token = some p.1
    rcases List.mem_cons.1 hp with rfl | hp
    · exact AList.lookup_insert _
    · have hne : p.1.token ≠ token := fun heq =>
        hfresh.2 (heq ▸ List.mem_map_of_mem hp)
      rw [AList.lookup_insert_ne hne]
      exact h.live p hp hnot hlive

omit [DecidableEq η] in
theorem Inv.cleanup (h : Inv sha256 s) :
    Inv sha256 { s with pendingApprovals := cleanupExpired s.now s.pendingApprovals } :=
  { h with
    pending := fun t p hp => by
      rw [lookup_cleanupExpired] at hp
      exact h.pending t p (Option.filter_eq_some_iff.1 hp).1
    live := fun p hp hnot hlive => by
      rw [lookup_cleanupExpired, h.live p hp hnot hlive, Option.filter_some,
        if_pos (decide_eq_true hlive)] }

/-- A verification keeps the invariant. -/
theorem Inv.verify (h : Inv sha256 s) (token : Option String) (userId companyId : Uuid)
    (toolName : String) (rawArguments : Json ν) :
    Inv sha256 (s.verify sha256 token userId companyId toolName rawArguments).2 := by
  -- Without the approval under one token, the others are where they were.
  have herase : ∀ t t' p, (s.pendingApprovals.erase t).lookup t' = some p →
      t' ≠ t ∧ s.pendingApprovals.lookup t' = some p := by
    intro t t' p hp
    by_cases ht : t' = t
    · rw [ht, AList.lookup_erase] at hp
      cases hp
    · rw [AList.lookup_erase_ne ht] at hp
      exact ⟨ht, hp⟩
  unfold State.verify
  rcases verifyAndConsume_cases sha256 s.now token userId companyId toolName rawArguments
    s.pendingApprovals with ⟨t, p, rfl, -, hfind, -, -, hanswer⟩ | ⟨hrefused, -, hsame⟩
  · obtain ⟨hkey, hnot, args, hissued⟩ := h.pending t p hfind
    rw [hanswer]
    have htoken : t ∈ s.tokens := hkey ▸ List.mem_map_of_mem hissued
    refine { tokens := h.tokens, texts := h.texts, approved := List.nodup_cons.2 ⟨hnot, h.approved⟩,
             issued := fun u hu => ?_, pending := fun u q hq => ?_, hashes := h.hashes,
             live := fun q hq hfree hlive => ?_ }
    · rcases List.mem_cons.1 hu with rfl | hu
      · exact htoken
      · exact h.issued u hu
    · obtain ⟨hne, hq⟩ := herase t u q hq
      obtain ⟨hkey', hnot', hargs⟩ := h.pending u q hq
      refine ⟨hkey', fun hmem => ?_, hargs⟩
      rcases List.mem_cons.1 hmem with heq | hmem
      · exact hne heq
      · exact hnot' hmem
    · have hne : q.1.token ≠ t := fun heq => hfree (heq ▸ List.mem_cons_self)
      have hfree' : q.1.token ∉ s.approved := fun hmem => hfree (List.mem_cons_of_mem _ hmem)
      show (s.pendingApprovals.erase t).lookup q.1.token = some q.1
      rw [AList.lookup_erase_ne hne]
      exact h.live q hq hfree' hlive
  · generalize verifyAndConsume sha256 s.now token userId companyId toolName rawArguments
      s.pendingApprovals = result at hrefused hsame ⊢
    obtain ⟨answer, m⟩ := result
    have hrefused : answer.approved = false := hrefused
    simp only [hrefused, Bool.false_eq_true, if_false]
    rcases hsame with hsame | ⟨t, p, hfind, hexpired, hsame⟩
    · obtain rfl : m = s.pendingApprovals := hsame
      exact h
    · obtain rfl : m = s.pendingApprovals.erase t := hsame
      refine { h with pending := fun u q hq => h.pending u q (herase t u q hq).2,
                      live := fun q hq hfree hlive => ?_ }
      -- What is erased has expired.
      have hlookup := h.live q hq hfree hlive
      have hne : q.1.token ≠ t := by
        rintro rfl
        rw [hfind] at hlookup
        cases hlookup
        exact absurd hlive (not_le.2 hexpired)
      show (s.pendingApprovals.erase t).lookup q.1.token = some q.1
      rw [AList.lookup_erase_ne hne]
      exact hlookup

theorem verify_approved (h : Inv sha256 s) {token : Option String} {userId companyId : Uuid}
    {toolName : String} {rawArguments : Json ν}
    (hyes : (s.verify sha256 token userId companyId toolName rawArguments).1.approved = true) :
    ∃ p ∈ s.issued, token = some p.1.token ∧ p.1.token ∉ s.approved ∧
      Covers p.1 s.now userId companyId toolName ∧
      (s.verify sha256 token userId companyId toolName rawArguments).2.approved =
        p.1.token :: s.approved := by
  unfold State.verify at hyes ⊢
  rcases verifyAndConsume_cases sha256 s.now token userId companyId toolName rawArguments
    s.pendingApprovals with ⟨t, p, rfl, -, hfind, hcovers, -, hanswer⟩ | ⟨hrefused, -⟩
  · obtain ⟨rfl, hnot, args, hissued⟩ := h.pending t p hfind
    refine ⟨_, hissued, rfl, hnot, hcovers, ?_⟩
    rw [hanswer]
    rfl
  · exact absurd (hrefused.symm.trans hyes) Bool.false_ne_true

theorem verify_refused {token : Option String} {userId companyId : Uuid} {toolName : String}
    {rawArguments : Json ν}
    (hno : (s.verify sha256 token userId companyId toolName rawArguments).1.approved = false) :
    (s.verify sha256 token userId companyId toolName rawArguments).2.approved = s.approved := by
  unfold State.verify at hno ⊢
  simp only at hno ⊢
  rw [hno]
  rfl

theorem inv_step {l : Label ν} (h : Inv sha256 s) (hs : (machine sha256).step s l = some s') :
    Inv sha256 s' := by
  cases l with
  | advance ms =>
    cases hs
    exact h.advance ms
  | requestApproval token userId companyId toolName rawArguments actionSummary ttlMs =>
    simp only [machine] at hs
    split at hs
    · rename_i hfresh
      cases hs
      exact h.issue hfresh ..
    · cases hs
  | verifyAndConsume token userId companyId toolName rawArguments =>
    cases hs
    exact h.verify ..
  | cleanupExpired =>
    cases hs
    exact h.cleanup

theorem lawful_iff (hsha : Function.Injective sha256) (h : Inv sha256 s) (l : Label ν) :
    Lawful sha256 s l ↔ NothingHidden s l := by
  cases l with
  | verifyAndConsume token userId companyId toolName rawArguments =>
    have hinv := h.verify token userId companyId toolName rawArguments
    have happroves : (s.verify sha256 token userId companyId toolName rawArguments).1.approved =
        true ↔ ∃ p ∈ s.issued, token = some p.1.token ∧ p.1.token ∉ s.approved ∧
          Covers p.1 s.now userId companyId toolName ∧ shown p.2 = shown rawArguments := by
      unfold State.verify
      rcases verifyAndConsume_cases sha256 s.now token userId companyId toolName rawArguments
        s.pendingApprovals with
        ⟨t, p, rfl, -, hfind, hcovers, hhash, hanswer⟩ | ⟨hrefused, hnone, -⟩
      · rw [hanswer]
        obtain ⟨rfl, hnot, args, hissued⟩ := h.pending t p hfind
        have hshown : shown args = shown rawArguments := by
          rw [← computeArgumentHash_eq_iff hsha, ← h.hashes _ hissued]
          exact hhash
        exact iff_of_true rfl ⟨_, hissued, rfl, hnot, hcovers, hshown⟩
      · refine iff_of_false (by simpa using hrefused) ?_
        rintro ⟨p, hissued, rfl, hnot, hcovers, hshown⟩
        have htext : p.1.token ≠ "" := fun heq => h.texts (heq ▸ List.mem_map_of_mem hissued)
        refine hnone _ p.1 rfl htext (h.live p hissued hnot hcovers.live) hcovers ?_
        rw [h.hashes p hissued, computeArgumentHash_eq_iff hsha]
        exact hshown
    simp only [Lawful, happroves, State.Authorised, NothingHidden]
    constructor
    · rintro ⟨hlaw, -⟩ p hp htoken hnot hcovers hshown
      obtain ⟨q, hq, htoken', -, -, hequal⟩ := hlaw.1 ⟨p, hp, htoken, hnot, hcovers, hshown⟩
      obtain rfl := issued_unique h.tokens hp hq (Option.some.inj (htoken.symm.trans htoken'))
      exact hequal
    · intro hhidden
      refine ⟨⟨?_, ?_⟩, hinv.approved⟩
      · rintro ⟨p, hp, htoken, hnot, hcovers, hshown⟩
        exact ⟨p, hp, htoken, hnot, hcovers, hhidden p hp htoken hnot hcovers hshown⟩
      · rintro ⟨p, hp, htoken, hnot, hcovers, hequal⟩
        exact ⟨p, hp, htoken, hnot, hcovers, shown_congr hequal⟩
  | _ => exact Iff.rfl

/-- An approval authorises what was shown in a run of any requests, verifications and
clean-ups exactly when no verification is presented with arguments that hide a difference. -/
theorem approves_what_was_shown_iff (hsha : Function.Injective sha256) (now : ℤ)
    (ls : List (Label ν)) (s : State ν η) :
    (machine sha256).RunWith (Lawful sha256) { now } ls s ↔
      (machine sha256).RunWith NothingHidden { now } ls s :=
  Machine.runWith_congr (fun _ _ _ h hs => inv_step h hs) (fun _ l h => lawful_iff hsha h l)
    (inv_start now)

/-! An order of 5 pieces is approved. -/

namespace Demo

def order (quantity : ℤ) : Json ℤ :=
  .object [("order", .object [("sku", .string "LINEN-S"), ("quantity", .number quantity)])]

def request : Label ℤ := .requestApproval "a1" 7 10 "create_order" (order 5) "Order 5 pieces" 300000

def verify (quantity : ℤ) : Label ℤ := .verifyAndConsume (some "a1") 7 10 "create_order" (order quantity)

def requested : State ℤ String :=
  State.issue id { now := 0 } "a1" 7 10 "create_order" (order 5) "Order 5 pieces" 300000

theorem step_request : (machine id).step { now := 0 } request = some requested := by
  have hfresh : State.Fresh (⟨∅, 0, [], []⟩ : State ℤ String) "a1" := ⟨by decide, List.not_mem_nil⟩
  simp only [machine, request]
  rw [if_pos hfresh]
  rfl

end Demo

open Demo in
theorem approves_what_was_shown_iff_same :
    ∃ s : State ℤ String, s.approved = ["a1"] ∧
      (machine id).RunWith (Lawful id) { now := 0 } [request, verify 5] s := by
  refine ⟨_, ?_, (approves_what_was_shown_iff Function.injective_id 0 [request, verify 5] _).2
    (.step trivial step_request (.step ?_ rfl (.done _)))⟩
  · decide +kernel
  · intro p hp _ _ _ _
    obtain rfl := List.mem_singleton.1 hp
    exact .refl _

open Demo in
/-- 500 pieces look the same. -/
theorem hidden_quantity_approved :
    ∃ s : State ℤ String, (machine id).Run { now := 0 } [request, verify 500] s ∧
      s.approved = ["a1"] ∧
      ¬ (machine id).RunWith (Lawful id) { now := 0 } [request, verify 500] s := by
  refine ⟨_, .step trivial step_request (.step trivial rfl (.done _)), ?_, ?_⟩
  · decide +kernel
  · rintro (_ | ⟨-, hrequest, hrest⟩)
    obtain rfl := Option.some.inj (step_request.symm.trans hrequest)
    cases hrest with
    | step hlaw _ _ =>
      obtain ⟨p, hp, -, -, -, hequal⟩ := hlaw.1.1 (by decide +kernel)
      obtain rfl := List.mem_singleton.1 hp
      have hquantity : some (Json.Kind.number (5 : ℤ)) = some (Json.Kind.number 500) :=
        hequal [.key "order", .key "quantity"]
      cases hquantity

end Approvals

end FashionErp
