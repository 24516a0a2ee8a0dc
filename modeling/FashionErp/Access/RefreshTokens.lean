/-
`AuthService.refresh` and `revokeRefreshSession`, any number of calls at the same time.

A refresh reads its session, and again in a transaction; it then inserts the next session and
revokes the one it read, whatever has become of the row since.
-/
import FashionErp.Access.SuperAdmin
import Mathlib.Data.Fintype.Basic

namespace FashionErp

open Lib

/-- A session; `family` is no column, but the first session of its rotation chain. -/
structure RefreshSession where
  id : Uuid
  userId : Uuid
  tokenHash : String
  expiresAt : Instant
  revokedAt : Option Instant := none
  replacedById : Option Uuid := none
  family : Uuid

instance : Keyed RefreshSession Uuid := ⟨RefreshSession.id⟩

namespace RefreshTokens

def Live (session : RefreshSession) : Prop := session.revokedAt = none

instance : DecidablePred Live := fun _ => inferInstanceAs (Decidable (_ = _))

inductive Call
  | refresh (tokenHash : String) (now : Instant) (newId : Uuid) (newTokenHash : String)
      (refreshExpiresAt : Instant)
  | revokeRefreshSession (tokenHash : String) (now : Instant)

inductive Phase
  | called
  /-- The first read has found a session that is not revoked. -/
  | «open»
  | revoking (replacedById : Uuid)
  | rotating (session : RefreshSession)
  | returned
  | rejected

inductive Label
  | read
  /-- The update of the replacement of a rotated token. -/
  | revoke
  | check
  | commit

/-- The committed rows, `n` calls, and what has happened: the families one of whose
rotated tokens has been presented, and whether a token of one was accepted after that. -/
structure State (n : ℕ) where
  access : AccessDb
  sessions : Table RefreshSession
  phase : Fin n → Phase
  presented : List Uuid
  acceptedLate : Bool

variable {n : ℕ}

/-- `findOne(RefreshSession, { tokenHash })`. -/
def findByHash (sessions : Table RefreshSession) (tokenHash : String) : Option RefreshSession :=
  sessions.rows.find? fun session => session.tokenHash = tokenHash

/-- An `UPDATE` of the row with the id, if it passes the test. -/
def updateWhere (sessions : Table RefreshSession) (id : Uuid) (test : RefreshSession → Bool)
    (set : RefreshSession → RefreshSession) : Table RefreshSession :=
  match (sessions.find? id).filter test with
  | some row => sessions.save (set row)
  | none => sessions

/-- `update({ id, revokedAt: IsNull() }, { revokedAt: now })`. -/
def revokeLive (sessions : Table RefreshSession) (id : Uuid) (now : Instant) : Table RefreshSession :=
  updateWhere sessions id (fun row => Live row) fun row => { row with revokedAt := some now }

/-- The session a refresh of `session` issues. -/
def newSession (session : RefreshSession) (newId : Uuid) (newTokenHash : String)
    (refreshExpiresAt : Instant) : RefreshSession :=
  { id := newId, userId := session.userId, tokenHash := newTokenHash, expiresAt := refreshExpiresAt
    family := session.family }

def rotate (sessions : Table RefreshSession) (session issued : RefreshSession) (now : Instant) :
    Table RefreshSession :=
  updateWhere (sessions.save issued) session.id (fun _ => true) fun row =>
    { row with revokedAt := some now, replacedById := some issued.id }

def State.goto (s : State n) (i : Fin n) (p : Phase) : State n :=
  { s with phase := Function.update s.phase i p }

def readInitial (s : State n) (i : Fin n) (tokenHash : String) : State n :=
  match findByHash s.sessions tokenHash with
  | none => s.goto i .rejected
  | some session =>
    if Live session then s.goto i .open
    else match session.replacedById with
      | none => s.goto i .rejected
      | some replacedById =>
        { s.goto i (.revoking replacedById) with presented := session.family :: s.presented }

def checkSession (s : State n) (tokenHash : String) (now : Instant) : Option RefreshSession :=
  (findByHash s.sessions tokenHash).filter fun session =>
    Live session ∧ now ≤ session.expiresAt ∧ s.access.ActiveUser session.userId

def commitRotation (s : State n) (i : Fin n) (session : RefreshSession) (now : Instant) (newId : Uuid)
    (newTokenHash : String) (refreshExpiresAt : Instant) : State n :=
  if (s.sessions.find? newId).isSome ∨ (findByHash s.sessions newTokenHash).isSome then
    s.goto i .rejected
  else
    { s.goto i .returned with
      sessions := rotate s.sessions session
        (newSession session newId newTokenHash refreshExpiresAt) now
      acceptedLate := s.acceptedLate || decide (session.family ∈ s.presented) }

def step (call : Call) (s : State n) (i : Fin n) : Label → Phase → Option (State n)
  | .read, .called => some <|
    match call with
    | .refresh tokenHash .. => readInitial s i tokenHash
    | .revokeRefreshSession tokenHash now =>
      { s.goto i .returned with
        sessions := match findByHash s.sessions tokenHash with
          | some session => revokeLive s.sessions session.id now
          | none => s.sessions }
  | .revoke, .revoking replacedById =>
    match call with
    | .refresh _ now .. => some
      { s.goto i .rejected with sessions := revokeLive s.sessions replacedById now }
    | .revokeRefreshSession .. => none
  | .check, .open =>
    match call with
    | .refresh tokenHash now .. => some <| s.goto i <|
      match checkSession s tokenHash now with
      | some session => .rotating session
      | none => .rejected
    | .revokeRefreshSession .. => none
  | .commit, .rotating session =>
    match call with
    | .refresh _ now newId newTokenHash refreshExpiresAt =>
      some (commitRotation s i session now newId newTokenHash refreshExpiresAt)
    | .revokeRefreshSession .. => none
  | _, _ => none

def machine (call : Fin n → Call) : Machine (State n) (Fin n × Label) where
  step s l := step (call l.1) s l.1 l.2 (s.phase l.1)

def start (n : ℕ) (access : AccessDb) (sessions : Table RefreshSession) : State n :=
  { access, sessions, phase := fun _ => .called, presented := [], acceptedLate := false }

/-! ## The property, and when it holds -/

def OneLive (sessions : Table RefreshSession) : Prop :=
  ∀ a ∈ sessions.rows, ∀ b ∈ sessions.rows, Live a → Live b → a.family = b.family → a.id = b.id

instance (sessions : Table RefreshSession) : Decidable (OneLive sessions) :=
  inferInstanceAs (Decidable (∀ a ∈ sessions.rows, ∀ b ∈ sessions.rows, _))

/-- The property: no chain has two live tokens, and no token was accepted after a
rotated one of its chain had been presented. -/
structure Safe (s : State n) : Prop where
  oneLive : OneLive s.sessions
  final : s.acceptedLate = false

def OnlyLive (sessions : Table RefreshSession) (family id : Uuid) : Prop :=
  ∀ session ∈ sessions.rows, Live session → session.family = family → session.id = id

instance (sessions : Table RefreshSession) (family id : Uuid) :
    Decidable (OnlyLive sessions family id) :=
  inferInstanceAs (Decidable (∀ session ∈ sessions.rows, _))

def Phase.rotates : Phase → Option Uuid
  | rotating session => some session.family
  | _ => none

def Phase.revokes : Phase → Option Uuid
  | revoking replacedById => some replacedById
  | _ => none

def Detects (s : State n) (tokenHash : String) : Prop :=
  ∀ session ∈ findByHash s.sessions tokenHash, ¬ Live session →
    ∀ replacedById ∈ session.replacedById, OnlyLive s.sessions session.family replacedById ∧
      ∀ j, (s.phase j).rotates ≠ some session.family

instance (s : State n) (tokenHash : String) : Decidable (Detects s tokenHash) :=
  inferInstanceAs (Decidable (∀ session ∈ findByHash s.sessions tokenHash, _))

/-- What keeps a chain safe. A presented rotated token is replaced by the live one and
no rotation of the chain is under way; no session that is about to be revoked passes the
checks; and a rotation commits while no other token of its chain is live. -/
def Careful (call : Fin n → Call) (s : State n) (l : Fin n × Label) : Prop :=
  match l.2, s.phase l.1, call l.1 with
  | .read, .called, .refresh tokenHash .. => Detects s tokenHash
  | .check, .open, .refresh tokenHash now .. =>
    ∀ session ∈ checkSession s tokenHash now, ∀ j, (s.phase j).revokes ≠ some session.id
  | .commit, .rotating session, _ => OnlyLive s.sessions session.family session.id
  | _, _, _ => True

instance (call : Fin n → Call) (s : State n) (l : Fin n × Label) : Decidable (Careful call s l) := by
  unfold Careful
  split <;> infer_instance

/-! ## What the updates do -/

def familyOf (sessions : Table RefreshSession) (id : Uuid) : Option Uuid :=
  (sessions.find? id).map RefreshSession.family

def KeepsFamily (set : RefreshSession → RefreshSession) : Prop :=
  ∀ row, (set row).id = row.id ∧ (set row).family = row.family

theorem familyOf_save_over {sessions : Table RefreshSession} {row row' : RefreshSession}
    (hrow : sessions.find? row.id = some row) (hid : row'.id = row.id)
    (hfamily : row'.family = row.family) (id : Uuid) :
    familyOf (sessions.save row') id = familyOf sessions id := by
  unfold familyOf
  have hkey : Keyed.key row' = row.id := hid
  rw [Table.find?_save, hkey]
  by_cases heq : row.id = id
  · subst heq
    rw [if_pos rfl, hrow, Option.map_some, Option.map_some, hfamily]
  · rw [if_neg heq]

theorem familyOf_updateWhere {set : RefreshSession → RefreshSession} (hset : KeepsFamily set)
    (sessions : Table RefreshSession) (id : Uuid) (test : RefreshSession → Bool) (other : Uuid) :
    familyOf (updateWhere sessions id test set) other = familyOf sessions other := by
  unfold updateWhere
  split
  · rename_i row hrow
    have hfind := (Option.filter_eq_some_iff.1 hrow).1
    have hid : row.id = id := Table.key_of_find? hfind
    exact familyOf_save_over (by rw [hid]; exact hfind) (hset row).1 (hset row).2 other
  · rfl

theorem familyOf_save_new {sessions : Table RefreshSession} {issued : RefreshSession}
    (hfresh : sessions.find? issued.id = none) {id family : Uuid}
    (h : familyOf sessions id = some family) : familyOf (sessions.save issued) id = some family := by
  unfold familyOf at h ⊢
  rw [Table.find?_save]
  split
  · rename_i hkey
    rw [show issued.id = id from hkey] at hfresh
    rw [hfresh] at h
    cases h
  · exact h

variable {session : RefreshSession} {s : State n}

theorem live_revokeLive {sessions : Table RefreshSession} {id : Uuid} {now : Instant}
    (hmem : session ∈ (revokeLive sessions id now).rows) (hlive : Live session) :
    session ∈ sessions.rows ∧ session.id ≠ id := by
  unfold revokeLive updateWhere at hmem
  split at hmem
  · rename_i row hrow
    have hid : row.id = id := Table.key_of_find? (Option.filter_eq_some_iff.1 hrow).1
    rcases (Table.mem_save _ _ _).1 hmem with rfl | ⟨hbefore, hkey⟩
    · cases hlive
    · exact ⟨hbefore, fun heq => hkey (heq.trans hid.symm)⟩
  · rename_i hnone
    refine ⟨hmem, fun heq => ?_⟩
    have hfind := (Table.mem_rows_iff sessions session).1 hmem
    rw [show Keyed.key session = id from heq] at hfind
    rw [hfind] at hnone
    simp [hlive] at hnone

theorem live_rotate {sessions : Table RefreshSession} {issued : RefreshSession} {now : Instant}
    (hsession : (familyOf sessions session.id).isSome) (hfresh : sessions.find? issued.id = none)
    {other : RefreshSession} (hmem : other ∈ (rotate sessions session issued now).rows)
    (hlive : Live other) : other = issued ∨ (other ∈ sessions.rows ∧ other.id ≠ session.id) := by
  obtain ⟨row, hrow⟩ := Option.isSome_iff_exists.1 ((Option.isSome_map ..).symm.trans hsession)
  have hne : issued.id ≠ session.id := by
    intro heq
    rw [heq, hrow] at hfresh
    cases hfresh
  have hfind : (sessions.save issued).find? session.id = some row := by
    rw [Table.find?_save_ne _ _ _ hne, hrow]
  unfold rotate updateWhere at hmem
  rw [hfind] at hmem
  have hid : row.id = session.id := Table.key_of_find? hrow
  rcases (Table.mem_save _ _ _).1 hmem with rfl | ⟨hbefore, hkey⟩
  · cases hlive
  · rcases (Table.mem_save _ _ _).1 hbefore with rfl | ⟨hbefore, -⟩
    · exact .inl rfl
    · exact .inr ⟨hbefore, fun heq => hkey (heq.trans hid.symm)⟩

/-! ## The invariant -/

/-- The invariant: the property; a session that is being rotated is a row of its family;
and in a chain one of whose rotated tokens was presented, every live session is about to be
revoked and none is being rotated. -/
structure Inv (s : State n) : Prop where
  safe : Safe s
  rotating : ∀ i session, s.phase i = .rotating session →
    familyOf s.sessions session.id = some session.family
  revoked : ∀ family ∈ s.presented, ∀ session ∈ s.sessions.rows, Live session →
    session.family = family → ∃ i, (s.phase i).revokes = some session.id
  settled : ∀ family ∈ s.presented, ∀ i, (s.phase i).rotates ≠ some family

variable {i : Fin n}

theorem Inv.goto (h : Inv s) {p : Phase} (hold : (s.phase i).revokes = none)
    (hp : ∀ session, p = .rotating session → familyOf s.sessions session.id = some session.family ∧ session.family ∉ s.presented) :
    Inv (s.goto i p) := by
  refine ⟨⟨h.safe.oneLive, h.safe.final⟩, fun j session hj => ?_,
    fun family hfamily session hmem hlive heq => ?_, fun family hfamily j => ?_⟩
  · change Function.update s.phase i p j = .rotating session at hj
    by_cases hji : j = i
    · subst hji
      rw [Function.update_self] at hj
      exact (hp session hj).1
    · rw [Function.update_of_ne hji] at hj
      exact h.rotating j session hj
  · obtain ⟨j, hj⟩ := h.revoked family hfamily session hmem hlive heq
    refine ⟨j, ?_⟩
    change (Function.update s.phase i p j).revokes = _
    have hji : j ≠ i := by
      rintro rfl
      rw [hold] at hj
      cases hj
    rwa [Function.update_of_ne hji]
  · change (Function.update s.phase i p j).rotates ≠ _
    by_cases hji : j = i
    · subst hji
      rw [Function.update_self]
      intro hrotates
      cases p with
      | rotating session =>
        obtain rfl : session.family = family := Option.some.inj hrotates
        exact (hp session rfl).2 hfamily
      | _ => cases hrotates
    · rw [Function.update_of_ne hji]
      exact h.settled family hfamily j

theorem Inv.fewer (h : Inv s) {sessions : Table RefreshSession}
    (hfamily : ∀ id, familyOf sessions id = familyOf s.sessions id)
    (hlive : ∀ session ∈ sessions.rows, Live session → session ∈ s.sessions.rows) :
    Inv { s with sessions } where
  safe := ⟨fun a ha b hb hla hlb => h.safe.oneLive a (hlive a ha hla) b (hlive b hb hlb) hla hlb,
    h.safe.final⟩
  rotating i session hi := (hfamily session.id).trans (h.rotating i session hi)
  revoked family hf session hmem hl := h.revoked family hf session (hlive session hmem hl) hl
  settled := h.settled

theorem familyOf_revokeLive (sessions : Table RefreshSession) (id : Uuid) (now : Instant)
    (other : Uuid) : familyOf (revokeLive sessions id now) other = familyOf sessions other := by
  have hset : KeepsFamily fun row => { row with revokedAt := some now } := fun _ => ⟨rfl, rfl⟩
  exact familyOf_updateWhere hset sessions id _ other

theorem inv_readInitial {tokenHash : String} (h : Inv s) (hcalled : s.phase i = .called)
    (hdetects : Detects s tokenHash) : Inv (readInitial s i tokenHash) := by
  have hold : (s.phase i).revokes = none := by rw [hcalled]; rfl
  unfold readInitial
  split
  · exact h.goto hold fun _ hp => by cases hp
  · rename_i session hsession
    split
    · exact h.goto hold fun _ hp => by cases hp
    · rename_i hrevoked
      split
      · exact h.goto hold fun _ hp => by cases hp
      · -- a rotated token: its replacement is the only live one, and none is rotating
        rename_i replacedById hreplaced
        obtain ⟨honly, hquiet⟩ := hdetects session hsession hrevoked replacedById hreplaced
        have hgone := h.goto (i := i) (p := .revoking replacedById) hold fun _ hp => by cases hp
        refine ⟨⟨h.safe.oneLive, h.safe.final⟩, hgone.rotating,
          fun family hfamily other hmem hlive heq => ?_, fun family hfamily j => ?_⟩
        · rcases List.mem_cons.1 hfamily with rfl | hfamily
          · refine ⟨i, ?_⟩
            change (Function.update s.phase i (.revoking replacedById) i).revokes = _
            rw [Function.update_self, honly other hmem hlive heq]
            rfl
          · exact hgone.revoked family hfamily other hmem hlive heq
        · rcases List.mem_cons.1 hfamily with rfl | hfamily
          · change (Function.update s.phase i (.revoking replacedById) j).rotates ≠ _
            by_cases hji : j = i
            · subst hji
              rw [Function.update_self]
              exact fun hrotates => by cases hrotates
            · rw [Function.update_of_ne hji]
              exact hquiet j
          · exact hgone.settled family hfamily j

theorem inv_revoke {replacedById : Uuid} {now : Instant} (h : Inv s)
    (hphase : s.phase i = .revoking replacedById) :
    Inv { s.goto i .rejected with sessions := revokeLive s.sessions replacedById now } := by
  refine ⟨⟨?_, h.safe.final⟩, fun j session hj => ?_, fun family hfamily session hmem hlive heq => ?_,
    fun family hfamily j => ?_⟩
  · exact fun a ha b hb hla hlb => h.safe.oneLive a (live_revokeLive ha hla).1 b
      (live_revokeLive hb hlb).1 hla hlb
  · change Function.update s.phase i .rejected j = _ at hj
    rw [show familyOf (revokeLive s.sessions replacedById now) session.id = _ from
      familyOf_revokeLive _ _ _ _]
    by_cases hji : j = i
    · subst hji
      rw [Function.update_self] at hj
      cases hj
    · rw [Function.update_of_ne hji] at hj
      exact h.rotating j session hj
  · -- whoever is about to revoke another live session is another call
    obtain ⟨hbefore, hne⟩ := live_revokeLive hmem hlive
    obtain ⟨j, hj⟩ := h.revoked family hfamily session hbefore hlive heq
    refine ⟨j, ?_⟩
    have hji : j ≠ i := by
      rintro rfl
      rw [hphase] at hj
      exact hne (Option.some.inj hj).symm
    change (Function.update s.phase i .rejected j).revokes = _
    rwa [Function.update_of_ne hji]
  · change (Function.update s.phase i .rejected j).rotates ≠ _
    by_cases hji : j = i
    · subst hji
      rw [Function.update_self]
      exact fun hrotates => by cases hrotates
    · rw [Function.update_of_ne hji]
      exact h.settled family hfamily j

theorem checkSession_live {tokenHash : String} {now : Instant}
    (h : checkSession s tokenHash now = some session) :
    session ∈ s.sessions.rows ∧ Live session := by
  obtain ⟨hfound, hchecks⟩ := Option.filter_eq_some_iff.1 h
  exact ⟨List.mem_of_find?_eq_some hfound, (of_decide_eq_true hchecks).1⟩

theorem inv_check (h : Inv s) (hopen : s.phase i = .open)
    (hmem : session ∈ s.sessions.rows) (hlive : Live session)
    (hcareful : ∀ j, (s.phase j).revokes ≠ some session.id) :
    Inv (s.goto i (.rotating session)) := by
  refine h.goto (by rw [hopen]; rfl) fun other hother => ?_
  obtain rfl := Phase.rotating.inj hother
  refine ⟨?_, fun hpresented => ?_⟩
  · unfold familyOf
    rw [show s.sessions.find? session.id = some session from
      (Table.mem_rows_iff s.sessions session).1 hmem]
    rfl
  · obtain ⟨j, hj⟩ := h.revoked _ hpresented session hmem hlive rfl
    exact hcareful j hj

theorem inv_commitRotation {now : Instant} {newId : Uuid} {newTokenHash : String}
    {refreshExpiresAt : Instant} (h : Inv s) (hphase : s.phase i = .rotating session)
    (honly : OnlyLive s.sessions session.family session.id) :
    Inv (commitRotation s i session now newId newTokenHash refreshExpiresAt) := by
  have hold : (s.phase i).revokes = none := by rw [hphase]; rfl
  unfold commitRotation
  split
  · exact h.goto hold fun _ hp => by cases hp
  rename_i hnew
  rw [not_or] at hnew
  have hfresh : s.sessions.find? newId = none := Option.not_isSome_iff_eq_none.1 hnew.1
  have hfamily := h.rotating i session hphase
  have hunused : session.family ∉ s.presented := fun hpresented =>
    h.settled _ hpresented i (by rw [hphase]; rfl)
  generalize hissued : newSession session newId newTokenHash refreshExpiresAt = issued
  have hid : issued.id = newId := by rw [← hissued]; rfl
  have hissuedFamily : issued.family = session.family := by rw [← hissued]; rfl
  have hlive : ∀ other ∈ (rotate s.sessions session issued now).rows, Live other →
      other = issued ∨ (other ∈ s.sessions.rows ∧ other.id ≠ session.id) := fun other hmem hl =>
    live_rotate (by rw [hfamily]; rfl) (by rw [hid]; exact hfresh) hmem hl
  -- no other session of the family is live, so the issued one is the only one
  have hothers : ∀ other ∈ (rotate s.sessions session issued now).rows, Live other →
      other.family = session.family → other = issued := by
    intro other hmem hl heq
    rcases hlive other hmem hl with rfl | ⟨hbefore, hne⟩
    · rfl
    · exact absurd (honly other hbefore hl heq) hne
  have hgone := h.goto (i := i) (p := .returned) hold fun _ hp => by cases hp
  have hset : KeepsFamily fun row =>
      { row with revokedAt := some now, replacedById := some issued.id } := fun _ => ⟨rfl, rfl⟩
  refine ⟨⟨?_, ?_⟩, fun j rotated hj => ?_, fun family hf other hmem hl heq => ?_, hgone.settled⟩
  · intro a ha b hb hla hlb hab
    by_cases hin : a.family = session.family
    · rw [hothers a ha hla hin, hothers b hb hlb (hab.symm.trans hin)]
    · rcases hlive a ha hla with rfl | ⟨ha', -⟩
      · exact absurd hissuedFamily hin
      · rcases hlive b hb hlb with rfl | ⟨hb', -⟩
        · exact absurd (hab.trans hissuedFamily) hin
        · exact h.safe.oneLive a ha' b hb' hla hlb hab
  · show (s.acceptedLate || decide (session.family ∈ s.presented)) = false
    rw [h.safe.final, decide_eq_false hunused, Bool.or_false]
  · unfold rotate
    rw [familyOf_updateWhere hset]
    exact familyOf_save_new (by rw [hid]; exact hfresh) (hgone.rotating j rotated hj)
  · rcases hlive other hmem hl with rfl | ⟨hbefore, -⟩
    · rw [hissuedFamily] at heq
      exact absurd (heq ▸ hf) hunused
    · exact hgone.revoked family hf other hbefore hl heq

theorem inv_step {call : Fin n → Call} {s' : State n} {l : Fin n × Label} (h : Inv s)
    (hcareful : Careful call s l) (hs : (machine call).step s l = some s') : Inv s' := by
  obtain ⟨i, l⟩ := l
  change step (call i) s i l (s.phase i) = some s' at hs
  unfold Careful at hcareful
  dsimp only at hcareful
  cases hphase : s.phase i with
  | called =>
    rw [hphase] at hs hcareful
    cases l with
    | read =>
      cases hcall : call i with
      | refresh tokenHash =>
        rw [hcall] at hs hcareful
        cases hs
        exact inv_readInitial h hphase hcareful
      | revokeRefreshSession tokenHash now =>
        rw [hcall] at hs
        cases hs
        refine (h.goto (i := i) (p := .returned) (by rw [hphase]; rfl) fun _ hp => by cases hp).fewer
          (fun id => ?_) fun session hmem hlive => ?_
        · split
          · exact familyOf_revokeLive _ _ _ _
          · rfl
        · split at hmem
          · exact (live_revokeLive hmem hlive).1
          · exact hmem
    | revoke | check | commit => cases hs
  | «open» =>
    rw [hphase] at hs hcareful
    cases l with
    | check =>
      cases hcall : call i with
      | refresh tokenHash now =>
        rw [hcall] at hs hcareful
        cases hs
        cases hsession : checkSession s tokenHash now with
        | none => exact h.goto (by rw [hphase]; rfl) fun _ hp => by cases hp
        | some session =>
          obtain ⟨hmem, hlive⟩ := checkSession_live hsession
          exact inv_check h hphase hmem hlive (hcareful session hsession)
      | revokeRefreshSession => rw [hcall] at hs; cases hs
    | read | revoke | commit => cases hs
  | revoking replacedById =>
    rw [hphase] at hs
    cases l with
    | revoke =>
      cases hcall : call i with
      | refresh =>
        rw [hcall] at hs
        cases hs
        exact inv_revoke h hphase
      | revokeRefreshSession => rw [hcall] at hs; cases hs
    | read | check | commit => cases hs
  | rotating session =>
    rw [hphase] at hs hcareful
    cases l with
    | commit =>
      cases hcall : call i with
      | refresh =>
        rw [hcall] at hs
        cases hs
        exact inv_commitRotation h hphase hcareful
      | revokeRefreshSession => rw [hcall] at hs; cases hs
    | read | revoke | check => cases hs
  | returned | rejected =>
    rw [hphase] at hs
    cases l <;> cases hs

/-- A chain keeps one live token, and a reuse ends it, in every run whose steps are
careful: no chain has two live tokens, and no token is accepted after a rotated one of its
chain has been presented. -/
theorem family_is_safe (call : Fin n → Call) (access : AccessDb) {sessions : Table RefreshSession}
    (honeLive : OneLive sessions) {ls : List (Fin n × Label)} {s : State n}
    (hrun : (machine call).RunWith (Careful call) (start n access sessions) ls s) : Safe s := by
  have hstart : Inv (start n access sessions) := by
    refine ⟨⟨honeLive, rfl⟩, fun i session hi => ?_, fun family hf => ?_, fun family hf => ?_⟩
    · cases hi
    · exact absurd hf List.not_mem_nil
    · exact absurd hf List.not_mem_nil
  exact (hrun.invariant hstart fun _ _ _ h hcareful hs => inv_step h hcareful hs).safe

/-! One session, and four calls. -/

namespace RefreshDemo

def now : Instant := { date := ⟨2026, 3, 1⟩, millis := 0 }

def access : AccessDb where
  users := .ofRows [{ id := 7 }]

def sessions : Table RefreshSession :=
  .ofRows [{ id := 1, userId := 7, tokenHash := "a", expiresAt := now, family := 1 }]

/-- A refresh that issues the token `b` or `c`. -/
def calls : Fin 4 → Call
  | 0 => .refresh "a" now 2 "b" now
  | 1 => .refresh "b" now 3 "c" now
  | 2 => .refresh "a" now 4 "d" now
  | 3 => .refresh "c" now 5 "e" now

/-- Call `i` from its first read to its commit. -/
def rotation (i : Fin 4) : List (Fin 4 × Label) := [(i, .read), (i, .check), (i, .commit)]

def reuse (i : Fin 4) : List (Fin 4 × Label) := [(i, .read), (i, .revoke)]

/-- `a` is rotated and comes back; its replacement `b` is then refused. -/
def detected : List (Fin 4 × Label) := rotation 0 ++ reuse 2 ++ [(1, .read)]

/-- Two calls with `a` at the same time. -/
def together : List (Fin 4 × Label) :=
  [(0, .read), (2, .read), (0, .check), (2, .check), (0, .commit), (2, .commit)]

/-- `a` comes back after two rotations; the token `c` is accepted. -/
def tooLate : List (Fin 4 × Label) := rotation 0 ++ rotation 1 ++ reuse 2 ++ rotation 3

end RefreshDemo

open RefreshDemo in
theorem family_is_safe_detected : OneLive sessions ∧
    ∃ s, (machine calls).RunWith (Careful calls) (start 4 access sessions) detected s ∧
      s.presented = [1] ∧ Safe s := by
  have h : OneLive sessions := by decide +kernel
  obtain ⟨s, hrun, hs⟩ := Machine.exists_runWith (machine calls) (Careful calls)
    (start 4 access sessions) detected (fun s => s.presented = [1]) (by decide +kernel)
  exact ⟨h, s, hrun, by simpa using hs, family_is_safe calls access h hrun⟩

open RefreshDemo in
theorem two_live_tokens :
    (∃ s, (machine calls).Run (start 4 access sessions) together s ∧ ¬ OneLive s.sessions) ∧
    ∃ s, (machine calls).Run (start 4 access sessions) tooLate s ∧ s.acceptedLate = true := by
  constructor
  · obtain ⟨s, hrun, hs⟩ := Machine.exists_runWith (machine calls) (fun _ _ => True)
      (start 4 access sessions) together (fun s => !decide (OneLive s.sessions)) (by decide +kernel)
    exact ⟨s, hrun, by simpa using hs⟩
  · obtain ⟨s, hrun, hs⟩ := Machine.exists_runWith (machine calls) (fun _ _ => True)
      (start 4 access sessions) tooLate (fun s => s.acceptedLate) (by decide +kernel)
    exact ⟨s, hrun, hs⟩

end RefreshTokens

end FashionErp
