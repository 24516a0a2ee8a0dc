/-
`AuthService.login`, `changePassword` and `resetPassword`, and an administrator's `lock`
and `deactivate`, all at the same time.

Each reads the user, changes the entity in memory and saves it; `save` reads the row again
and writes the columns in which the entity differs from that.
-/
import FashionErp.Access.SuperAdmin
import FashionErp.Lib.Column
import FashionErp.Lib.Concurrent
import FashionErp.Shopping.Catalog

namespace FashionErp

open Lib

structure PasswordResetToken where
  tokenHash : String
  userId : Uuid
  expiresAt : Instant
  usedAt : Option Instant := none
  deriving DecidableEq

instance : Keyed PasswordResetToken String := ⟨PasswordResetToken.tokenHash⟩

structure Hashing where
  /-- `verify(passwordHash, plainPassword)` of argon2. -/
  verify : String → String → Bool
  hash : (salt plainPassword : String) → String
  hashResetToken : String → String
  toLowerCase : String → String

/-! ## `PasswordService` -/

namespace PasswordService

def COMMON_WEAK_PASSWORDS : List String :=
  ["password", "password123", "password1234", "12345678", "123456789", "1234567890",
    "qwertyuiop", "letmein123", "welcome123", "admin1234", "iloveyou1"]

def isLetter (c : Char) : Bool := ('a' ≤ c && c ≤ 'z') || ('A' ≤ c && c ≤ 'Z')

/-- `\\d` or `\\W`. -/
def isDigitOrSymbol (c : Char) : Bool := !isLetter c && c ≠ '_'

def validatePolicy (h : Hashing) (plainPassword : String) : Bool :=
  if Shopping.jsLength plainPassword < 12 || Shopping.jsLength plainPassword > 128 then false
  else if h.toLowerCase plainPassword ∈ COMMON_WEAK_PASSWORDS then false
  else plainPassword.toList.any isLetter && plainPassword.toList.any isDigitOrSymbol

end PasswordService

structure CredentialDb where
  access : AccessDb
  resetTokens : Table PasswordResetToken := .empty
  resets : List String := []
  revived : Bool := false

namespace Credentials

variable (h : Hashing)

/-! ## What the calls make of the user they read -/

/-- `findOne(User, { email })`. -/
def findByEmail (db : AccessDb) (email : String) : Option User :=
  db.users.rows.find? fun user => user.email = email ∧ ¬ user.deleted

/-- `AuthService.login`, up to its `save`. -/
def login (email plainPassword : String) (now : Instant) (db : AccessDb) : Except Failure User :=
  let invalid := appException .Unauthorized "Invalid email or password"
  match findByEmail db (h.toLowerCase (trim email)) with
  | none => .error invalid
  | some user =>
    if ¬ h.verify user.passwordHash plainPassword then .error invalid
    else if user.status ≠ .Active then .error invalid
    else .ok { user with lastLoginAt := some now }

/-- `AuthService.changePassword`, up to its `save`. -/
def changePassword (userId : Uuid) (currentPassword newPassword salt : String) (now : Instant)
    (db : AccessDb) : Except Failure User :=
  match (db.findUser userId).filter fun user => user.status = .Active with
  | none => .error (appException .Unauthorized "Not authenticated")
  | some user =>
    if ¬ h.verify user.passwordHash currentPassword then
      .error (appException .Unauthorized "Current password is incorrect")
    else if ¬ PasswordService.validatePolicy h newPassword then
      .error (appException .ValidationError "New password does not meet the minimum requirements")
    else .ok { user with passwordHash := h.hash salt newPassword, passwordChangedAt := some now }

/-- `UsersService.deactivate`, `lock` and `remove`, up to their `save`. -/
def changeUser (change : UserChange) (id : Uuid) (allowedCompanyIds : Option (List Uuid))
    (db : AccessDb) : Except Failure User :=
  match (db.findUser id).filter fun _ => UsersService.isVisible db id allowedCompanyIds with
  | none => .error (appException .NotFound "User not found")
  | some user => .ok (change.apply user)

/-- What `resetPassword` reads: the unused token, and its user. -/
def findReset (rawToken newPassword : String) (now : Instant) (db : CredentialDb) :
    Except Failure (PasswordResetToken × User) :=
  let invalid := appException .ValidationError "Invalid or expired reset token"
  if ¬ PasswordService.validatePolicy h newPassword then
    .error (appException .ValidationError "New password does not meet the minimum requirements")
  else match (db.resetTokens.find? (h.hashResetToken rawToken)).filter fun token =>
      token.usedAt = none ∧ now ≤ token.expiresAt with
    | none => .error invalid
    | some token => match db.access.findUser token.userId with
      | none => .error invalid
      | some user => .ok (token, user)

inductive Call
  | login (email plainPassword : String) (now : Instant)
  | changePassword (userId : Uuid) (currentPassword newPassword salt : String) (now : Instant)
  | changeUser (change : UserChange) (id : Uuid) (allowedCompanyIds : Option (List Uuid))
  | resetPassword (rawToken newPassword salt : String) (now : Instant)

def Call.isLogin : Call → Bool
  | login .. => true
  | _ => false

/-! ## The steps -/

/-- `save(entity)`, column by column: `seen` is the row it read again. -/
def mergeUser (entity seen row : User) : User where
  id := row.id
  email := mergeCol entity.email seen.email row.email
  passwordHash := mergeCol entity.passwordHash seen.passwordHash row.passwordHash
  status := mergeCol entity.status seen.status row.status
  lastLoginAt := mergeCol entity.lastLoginAt seen.lastLoginAt row.lastLoginAt
  passwordChangedAt := mergeCol entity.passwordChangedAt seen.passwordChangedAt row.passwordChangedAt
  deleted := mergeCol entity.deleted seen.deleted row.deleted

def CredentialsDiffer (row row' : User) : Prop :=
  row'.passwordHash ≠ row.passwordHash ∨ row'.status ≠ row.status

instance (row row' : User) : Decidable (CredentialsDiffer row row') :=
  inferInstanceAs (Decidable (_ ∨ _))

def saveUser (db : CredentialDb) (isLogin : Bool) (entity seen : User) : CredentialDb :=
  match db.access.users.find? entity.id with
  | none => db
  | some row =>
    { db with
      access := db.access.saveUser (mergeUser entity seen row)
      revived := db.revived || isLogin && CredentialsDiffer row (mergeUser entity seen row) }

def useToken (db : CredentialDb) (tokenHash : String) (now : Instant) : CredentialDb :=
  { db with
    resetTokens := match db.resetTokens.find? tokenHash with
      | none => db.resetTokens
      | some token => db.resetTokens.save { token with usedAt := some now }
    resets := db.resets ++ [tokenHash] }

inductive Phase
  | called
  | changed (entity : User)
  /-- `save` has read the row again. -/
  | saving (entity seen : User)
  | updated (entity seen : User)
  | resetting (token : PasswordResetToken) (user : User)
  | userUpdated (token : PasswordResetToken) (user : User)
  | tokenUpdated (token : PasswordResetToken) (user : User)
  | returned
  | rejected

inductive Label
  | read
  | reread
  | update
  | updateToken
  | commit
  /-- The connection is lost before the commit. -/
  | abort
  deriving DecidableEq

inductive Lock
  | user (id : Uuid)
  | token (tokenHash : String)
  deriving DecidableEq

/-- The first read and everything up to the `save`. -/
def Call.read (c : Call) (db : CredentialDb) : Except Failure Phase :=
  match c with
  | login email plainPassword now =>
    (Credentials.login h email plainPassword now db.access).map .changed
  | changePassword userId currentPassword newPassword salt now =>
    (Credentials.changePassword h userId currentPassword newPassword salt now db.access).map .changed
  | changeUser change id allowedCompanyIds =>
    (Credentials.changeUser change id allowedCompanyIds db.access).map .changed
  | resetPassword rawToken newPassword _ now =>
    (findReset h rawToken newPassword now db).map fun found => .resetting found.1 found.2

def commitReset (c : Call) (token : PasswordResetToken) (user : User) (db : CredentialDb) :
    CredentialDb :=
  match c with
  | .resetPassword _ newPassword salt now =>
    useToken (saveUser db false
      { user with passwordHash := h.hash salt newPassword, passwordChangedAt := some now } user)
      token.tokenHash now
  | _ => db

def Call.move (c : Call) : Label → Phase → CredentialDb → Option (Move CredentialDb Lock Phase)
  | .read, .called, db => some <|
    match c.read h db with
    | .ok p => .goto p
    | .error _ => .leave .rejected
  | .reread, .changed entity, db =>
    (db.access.users.find? entity.id).map fun seen => .goto (.saving entity seen)
  | .update, .saving entity seen, _ => some (.acquire (.user entity.id) (.updated entity seen))
  | .commit, .updated entity seen, db =>
    some (.commit (saveUser db c.isLogin entity seen) .returned)
  | .update, .resetting token user, _ => some (.acquire (.user user.id) (.userUpdated token user))
  | .updateToken, .userUpdated token user, _ =>
    some (.acquire (.token token.tokenHash) (.tokenUpdated token user))
  | .commit, .tokenUpdated token user, db =>
    some (.commit (commitReset h c token user db) .returned)
  | .abort, _, _ => some (.leave .rejected)
  | _, _, _ => none

def machine (call : ℕ → Call) : Machine (Shared CredentialDb Lock Phase) (ℕ × Label) :=
  concurrent fun i => (call i).move h

/-! ## What a save does to the credentials -/

theorem mergeCol_eq_row {α : Type} [DecidableEq α] {entity seen row : α} :
    mergeCol entity seen row = row ↔ entity = seen ∨ entity = row := by
  unfold mergeCol
  split
  · rename_i heq
    exact iff_of_true rfl (.inl heq)
  · rename_i hne
    rw [or_iff_right hne]

/-- Each of the two columns, as it was read first, is what `save` read again or what the
row holds. -/
def Keeps (entity seen row : User) : Prop :=
  (entity.passwordHash = seen.passwordHash ∨ entity.passwordHash = row.passwordHash) ∧
    (entity.status = seen.status ∨ entity.status = row.status)

instance (entity seen row : User) : Decidable (Keeps entity seen row) :=
  inferInstanceAs (Decidable (_ ∧ _))

theorem not_differ_iff {entity seen row : User} :
    ¬ CredentialsDiffer row (mergeUser entity seen row) ↔ Keeps entity seen row := by
  unfold CredentialsDiffer Keeps
  rw [not_or, not_not, not_not]
  exact and_congr mergeCol_eq_row mergeCol_eq_row

theorem saveUser_revived {db : CredentialDb} {isLogin : Bool} {entity seen : User} :
    (saveUser db isLogin entity seen).revived = false ↔ db.revived = false ∧
      (isLogin = true → ∀ row ∈ db.access.users.find? entity.id, Keeps entity seen row) := by
  unfold saveUser
  cases hrow : db.access.users.find? entity.id with
  | none => simp
  | some row =>
    simp only [Bool.or_eq_false_iff, Bool.and_eq_false_iff, decide_eq_false_iff_not,
      not_differ_iff, Option.mem_def, Option.some.injEq, forall_eq']
    cases isLogin <;> simp

@[simp] theorem saveUser_resetTokens (db : CredentialDb) (isLogin : Bool) (entity seen : User) :
    (saveUser db isLogin entity seen).resetTokens = db.resetTokens := by
  unfold saveUser
  split <;> rfl

@[simp] theorem saveUser_resets (db : CredentialDb) (isLogin : Bool) (entity seen : User) :
    (saveUser db isLogin entity seen).resets = db.resets := by
  unfold saveUser
  split <;> rfl

/-! ## The invariant -/

def Used (db : CredentialDb) (tokenHash : String) : Prop :=
  ∃ row, db.resetTokens.find? tokenHash = some row ∧ row.usedAt ≠ none

/-- The property: no login has changed a password hash or a status, and no token has set
two passwords. -/
structure Final (db : CredentialDb) : Prop where
  revived : db.revived = false
  once : db.resets.Nodup

structure TokensOk (used₀ : String → Prop) (db : CredentialDb) : Prop where
  used : ∀ tokenHash, Used db tokenHash ↔ tokenHash ∈ db.resets ∨ used₀ tokenHash

def ResetOk (used₀ : String → Prop) (c : Call) (db : CredentialDb) (token : PasswordResetToken) :
    Prop :=
  (∃ rawToken newPassword salt now, c = .resetPassword rawToken newPassword salt now) ∧
    (db.resetTokens.find? token.tokenHash).isSome ∧ ¬ used₀ token.tokenHash

def PhaseOk (used₀ : String → Prop) (c : Call) (db : CredentialDb) : Phase → Prop
  | .resetting token _ | .userUpdated token _ | .tokenUpdated token _ => ResetOk used₀ c db token
  | _ => True

def CommitOk (c : Call) (db : CredentialDb) : Phase → Prop
  | .updated entity seen => c.isLogin = true →
      ∀ row ∈ db.access.users.find? entity.id, Keeps entity seen row
  | .tokenUpdated token _ => ∀ row ∈ db.resetTokens.find? token.tokenHash, row.usedAt = none
  | _ => True

instance (c : Call) (db : CredentialDb) : DecidablePred (CommitOk c db) := fun p => by
  cases p <;> unfold CommitOk <;> infer_instance

variable {token : PasswordResetToken} {tokenHash : String}

theorem useToken_find {db : CredentialDb} {now : Instant}
    (htoken : db.resetTokens.find? tokenHash = some token) (other : String) :
    (useToken db tokenHash now).resetTokens.find? other =
      if tokenHash = other then some { token with usedAt := some now }
      else db.resetTokens.find? other := by
  have hkey : Keyed.key ({ token with usedAt := some now } : PasswordResetToken) = tokenHash :=
    Table.key_of_find? (r := token) htoken
  unfold useToken
  rw [htoken]
  dsimp only
  rw [Table.find?_save, hkey]

theorem used_useToken {db : CredentialDb} {now : Instant}
    (htoken : db.resetTokens.find? tokenHash = some token) (other : String) :
    Used (useToken db tokenHash now) other ↔ other = tokenHash ∨ Used db other := by
  unfold Used
  rw [useToken_find htoken]
  by_cases hother : tokenHash = other
  · subst hother
    simp
  · rw [if_neg hother, or_iff_right fun heq => hother heq.symm]

section

variable {h} {used₀ : String → Prop} {c : Call} {db : CredentialDb}

theorem findReset_ok {rawToken newPassword : String} {now : Instant} {user : User}
    (hfound : findReset h rawToken newPassword now db = .ok (token, user)) :
    db.resetTokens.find? token.tokenHash = some token ∧ token.usedAt = none := by
  unfold findReset at hfound
  dsimp only at hfound
  split at hfound
  · cases hfound
  split at hfound
  · cases hfound
  rename_i found htoken
  split at hfound
  · cases hfound
  obtain ⟨rfl, -⟩ := Prod.mk.inj (Except.ok.inj hfound)
  obtain ⟨hfind, hunused⟩ := Option.filter_eq_some_iff.1 htoken
  refine ⟨?_, (of_decide_eq_true hunused).1⟩
  rwa [show found.tokenHash = h.hashResetToken rawToken from Table.key_of_find? hfind]

variable {p : Phase}

theorem read_ok (htokens : TokensOk used₀ db) (hread : c.read h db = .ok p) :
    PhaseOk used₀ c db p := by
  have hchanged : ∀ {result : Except Failure User}, result.map Phase.changed = .ok p →
      PhaseOk used₀ c db p := by
    intro result hresult
    cases result with
    | error => cases hresult
    | ok entity =>
      cases hresult
      trivial
  cases c with
  | login | changePassword | changeUser => exact hchanged hread
  | resetPassword rawToken newPassword salt now =>
    change (findReset h rawToken newPassword now db).map (fun found =>
      Phase.resetting found.1 found.2) = .ok p at hread
    cases hfound : findReset h rawToken newPassword now db with
    | error failure =>
      rw [hfound] at hread
      cases hread
    | ok found =>
      rw [hfound] at hread
      cases hread
      obtain ⟨hfind, hunused⟩ := findReset_ok hfound
      refine ⟨⟨rawToken, newPassword, salt, now, rfl⟩, by rw [hfind]; rfl, fun hused => ?_⟩
      obtain ⟨row, hrow, hrowUsed⟩ := (htokens.used _).2 (.inr hused)
      rw [hfind] at hrow
      cases hrow
      exact hrowUsed hunused

theorem commitReset_final {user : User} (hfinal : Final db) (htokens : TokensOk used₀ db)
    (hreset : ResetOk used₀ c db token) :
    (Final (commitReset h c token user db) ↔
      ∀ row ∈ db.resetTokens.find? token.tokenHash, row.usedAt = none) ∧
    TokensOk used₀ (commitReset h c token user db) := by
  obtain ⟨⟨rawToken, newPassword, salt, now, rfl⟩, hsome, hunused⟩ := hreset
  obtain ⟨row, hrow⟩ := Option.isSome_iff_exists.1 hsome
  unfold commitReset
  dsimp only
  generalize hsaved : saveUser db false _ user = saved
  have hresets : saved.resets = db.resets := by rw [← hsaved, saveUser_resets]
  have hsavedTokens : saved.resetTokens = db.resetTokens := by rw [← hsaved, saveUser_resetTokens]
  have hrevived : saved.revived = false := by
    rw [← hsaved, saveUser_revived]
    exact ⟨hfinal.revived, fun hlogin => by cases hlogin⟩
  have hused : ∀ tokenHash, Used saved tokenHash ↔ Used db tokenHash := fun tokenHash => by
    unfold Used
    rw [hsavedTokens]
  -- a token unused at the start is used now exactly when a reset has used it
  have hrowUsed : row.usedAt ≠ none ↔ token.tokenHash ∈ db.resets := by
    rw [← or_iff_left (a := token.tokenHash ∈ db.resets) hunused, ← htokens.used]
    unfold Used
    simp [hrow]
  constructor
  · constructor
    · intro hafter
      have honce := hafter.once
      rw [show (useToken saved token.tokenHash now).resets = saved.resets ++ [token.tokenHash] from rfl,
        hresets, List.nodup_append] at honce
      intro row' hrow'
      rw [hrow] at hrow'
      cases hrow'
      by_contra hused'
      exact honce.2.2 _ (hrowUsed.1 hused') _ (List.mem_singleton_self _) rfl
    · intro hfree
      refine ⟨hrevived, ?_⟩
      rw [show (useToken saved token.tokenHash now).resets = saved.resets ++ [token.tokenHash] from rfl,
        hresets, List.nodup_append]
      refine ⟨hfinal.once, List.nodup_singleton _, fun x hx y hy heq => ?_⟩
      rw [List.mem_singleton.1 hy] at heq
      subst heq
      exact hrowUsed.2 hx (hfree row hrow)
  · refine ⟨fun tokenHash => ?_⟩
    rw [used_useToken (by rw [hsavedTokens]; exact hrow), hused, htokens.used]
    show _ ↔ tokenHash ∈ saved.resets ++ [token.tokenHash] ∨ used₀ tokenHash
    rw [hresets, List.mem_append, List.mem_singleton]
    tauto

variable {db' : CredentialDb} {l : Label}

theorem commit_cases {p' : Phase}
    (hm : c.move h l p db = some (.commit db' p')) : l = .commit ∧ p' = .returned ∧
      ((∃ entity seen, p = .updated entity seen ∧ db' = saveUser db c.isLogin entity seen) ∨
        ∃ token user, p = .tokenUpdated token user ∧ db' = commitReset h c token user db) := by
  unfold Call.move at hm
  split at hm
  · have hm := Option.some.inj hm
    split at hm <;> cases hm
  · rename_i entity
    cases hseen : db.access.users.find? entity.id <;> rw [hseen] at hm <;> cases hm
  · cases hm
  · rename_i entity seen
    cases hm
    exact ⟨rfl, rfl, .inl ⟨entity, seen, rfl, rfl⟩⟩
  · cases hm
  · cases hm
  · rename_i token user
    cases hm
    exact ⟨rfl, rfl, .inr ⟨token, user, rfl, rfl⟩⟩
  · cases hm
  · cases hm

theorem commit_tokens {p' : Phase} (hm : c.move h l p db = some (.commit db' p'))
    (hsome : (db.resetTokens.find? tokenHash).isSome) :
    (db'.resetTokens.find? tokenHash).isSome := by
  obtain ⟨-, -, ⟨entity, seen, -, rfl⟩ | ⟨token, user, -, rfl⟩⟩ := commit_cases hm
  · rwa [saveUser_resetTokens]
  · unfold commitReset
    split
    · unfold useToken
      dsimp only
      rw [saveUser_resetTokens]
      split
      · exact hsome
      · rw [Table.find?_save]
        split
        · rfl
        · exact hsome
    · exact hsome

def Settled (call : ℕ → Call) (s : Shared CredentialDb Lock Phase) (l : ℕ × Label) : Prop :=
  l.2 = .commit → CommitOk (call l.1) s.db (s.phase l.1)

instance (call : ℕ → Call) (s : Shared CredentialDb Lock Phase) (l : ℕ × Label) :
    Decidable (Settled call s l) := inferInstanceAs (Decidable (_ → _))

/-- The invariant of a run, `used₀` being the tokens used at its start. -/
def Inv (call : ℕ → Call) (used₀ : String → Prop) : Shared CredentialDb Lock Phase → Prop :=
  Shared.Inv (fun db => Final db ∧ TokensOk used₀ db) fun _ db i p => PhaseOk used₀ (call i) db p

theorem commit_final {p' : Phase} (hfinal : Final db)
    (htokens : TokensOk used₀ db) (hok : PhaseOk used₀ c db p)
    (hm : c.move h l p db = some (.commit db' p')) :
    (Final db' ↔ CommitOk c db p) ∧ TokensOk used₀ db' := by
  obtain ⟨-, -, ⟨entity, seen, rfl, rfl⟩ | ⟨token, user, rfl, rfl⟩⟩ := commit_cases hm
  · refine ⟨⟨fun hafter => (saveUser_revived.1 hafter.revived).2, fun hkeeps => ?_⟩, ?_⟩
    · exact ⟨saveUser_revived.2 ⟨hfinal.revived, hkeeps⟩, by rw [saveUser_resets]; exact hfinal.once⟩
    · refine ⟨fun tokenHash => ?_⟩
      unfold Used
      rw [saveUser_resetTokens, saveUser_resets]
      exact htokens.used tokenHash
  · exact commitReset_final hfinal htokens hok

theorem move_ok (hfinal : Final db) (htokens : TokensOk used₀ db)
    (hok : PhaseOk used₀ c db p) (hcommit : l = .commit → CommitOk c db p)
    {m : Move CredentialDb Lock Phase} (hm : c.move h l p db = some m) (held : Lock → Prop) :
    Shared.MoveOk (fun db => Final db ∧ TokensOk used₀ db)
      (fun _ db (_ : ℕ) p => PhaseOk used₀ c db p) held db 0 m := by
  have hcommits : ∀ db' p', m = .commit db' p' → (Final db' ∧ TokensOk used₀ db') ∧
      PhaseOk used₀ c db' p' := by
    rintro db' p' rfl
    obtain ⟨hiff, htokens'⟩ := commit_final hfinal htokens hok hm
    obtain ⟨hlabel, rfl, -⟩ := commit_cases hm
    exact ⟨⟨hiff.2 (hcommit hlabel), htokens'⟩, trivial⟩
  unfold Call.move at hm
  split at hm
  · cases hm
    split
    · rename_i hread
      exact read_ok htokens hread
    · trivial
  · obtain ⟨seen, -, rfl⟩ := Option.map_eq_some_iff.1 hm
    trivial
  · cases hm
    trivial
  · cases hm
    exact hcommits _ _ rfl
  · cases hm
    exact hok
  · cases hm
    exact hok
  · cases hm
    exact hcommits _ _ rfl
  · cases hm
    trivial
  · cases hm

variable {s s' : Shared CredentialDb Lock Phase}

theorem inv_step {call : ℕ → Call} {l : ℕ × Label}
    (hinv : Inv call used₀ s) (hsettled : Settled call s l)
    (hs : (machine h call).step s l = some s') : Inv call used₀ s' := by
  refine Shared.Inv.step hinv hs (fun m hm => ?_) fun db' p hm j _ held _ hok => ?_
  · have hmove := move_ok hinv.db.1 hinv.db.2 (hinv.phase l.1) hsettled hm (s.Holds l.1)
    cases m <;> exact hmove
  · cases hp : s.phase j with
    | resetting | userUpdated | tokenUpdated =>
      rw [hp] at hok
      exact ⟨hok.1, commit_tokens hm hok.2.1, hok.2.2⟩
    | _ => trivial

theorem settled_of_final {call : ℕ → Call} {l : ℕ × Label}
    (hinv : Inv call used₀ s) (hs : (machine h call).step s l = some s') (h' : Final s'.db) :
    Settled call s l := by
  intro hlabel
  obtain ⟨i, l⟩ := l
  obtain rfl : l = .commit := hlabel
  obtain ⟨m, hm, hmove⟩ := Option.bind_eq_some_iff.1 hs
  dsimp only at hm ⊢
  cases m with
  | commit db' p' =>
    cases hmove
    exact (commit_final hinv.db.1 hinv.db.2 (hinv.phase i) hm).1.1 h'
  | _ =>
    -- the label of a commit is enabled in the two phases that commit only
    cases hp : s.phase i <;> rw [hp] at hm <;> cases hm

/-- When a change of credentials is final, over every interleaving of any calls: no
login has changed a password hash or a status, and no token has set two passwords, in every
state exactly when each login that commits finds in both columns what it read first, in
the row or in the read of its `save`, and each reset that commits finds its token unused. -/
theorem change_is_final_iff (h : Hashing) (call : ℕ → Call) (access : AccessDb)
    (resetTokens : Table PasswordResetToken) {ls : List (ℕ × Label)}
    {s : Shared CredentialDb Lock Phase}
    (hrun : (machine h call).Run (.start { access, resetTokens } .called) ls s) :
    (∀ ks, ks <+: ls → ∀ s₁, (machine h call).Run (.start { access, resetTokens } .called) ks s₁ →
        Final s₁.db) ↔
      (machine h call).RunWith (Settled call) (.start { access, resetTokens } .called) ls s := by
  refine Machine.prefixes_iff_runWith (I := Inv call (Used { access, resetTokens }))
    (fun _ _ _ hinv hsettled hs => inv_step hinv hsettled hs) (fun _ hinv => hinv.db.1)
    (fun _ _ _ hinv hs h' => settled_of_final hinv hs h')
    (Shared.inv_start ⟨⟨rfl, List.nodup_nil⟩, ⟨fun _ => ?_⟩⟩ fun _ _ => trivial) hrun
  rw [or_iff_right List.not_mem_nil]

end

/-! A user who logs in with the old password while it is changed, and a reset token that
is sent twice. -/

namespace CredentialDemo

def now : Instant := { date := ⟨2026, 3, 1⟩, millis := 0 }

def hashing : Hashing where
  verify passwordHash plainPassword := passwordHash = "#" ++ plainPassword
  hash _ plainPassword := "#" ++ plainPassword
  hashResetToken token := token
  toLowerCase s := s

def access : AccessDb where
  users := .ofRows [{ id := 1, email := "user@shop", passwordHash := "#old-password-1" }]

def tokens : Table PasswordResetToken :=
  .ofRows [{ tokenHash := "t", userId := 1, expiresAt := now }]

def calls : ℕ → Call
  | 0 => .login "user@shop" "old-password-1" now
  | 1 => .changePassword 1 "old-password-1" "new-password-2" "" now
  | 2 => .resetPassword "t" "reset-password-3" "" now
  | _ => .resetPassword "t" "reset-password-4" "" now

/-- The save of process `i`. -/
def save (i : ℕ) : List (ℕ × Label) := [(i, .reread), (i, .update), (i, .commit)]

def reset (i : ℕ) : List (ℕ × Label) := [(i, .update), (i, .updateToken), (i, .commit)]

def inTurn : List (ℕ × Label) :=
  [(0, .read)] ++ save 0 ++ [(1, .read)] ++ save 1 ++ [(2, .read)] ++ reset 2 ++ [(3, .read)]

def overtaken : List (ℕ × Label) := [(0, .read), (1, .read)] ++ save 1 ++ save 0

def sentTwice : List (ℕ × Label) := [(2, .read), (3, .read)] ++ reset 2 ++ reset 3

def passwordHash (s : Shared CredentialDb Lock Phase) : Option String :=
  (s.db.access.users.find? 1).map (·.passwordHash)

end CredentialDemo

open CredentialDemo in
theorem change_is_final_iff_in_turn :
    ∃ s, (machine hashing calls).Run (.start { access, resetTokens := tokens } .called) inTurn s ∧
      s.db.resets = ["t"] ∧
      ((∀ ks, ks <+: inTurn → ∀ s₁,
          (machine hashing calls).Run (.start { access, resetTokens := tokens } .called) ks s₁ →
            Final s₁.db) ↔
        (machine hashing calls).RunWith (Settled calls)
          (.start { access, resetTokens := tokens } .called) inTurn s) := by
  obtain ⟨s, hrun, hs⟩ := Machine.exists_runWith (machine hashing calls) (fun _ _ => True)
    (.start { access, resetTokens := tokens } .called) inTurn (fun s => s.db.resets = ["t"])
    (by decide +kernel)
  exact ⟨s, hrun, by simpa using hs, change_is_final_iff hashing calls access tokens hrun⟩

open CredentialDemo in
theorem old_password_comes_back :
    (∃ s, (machine hashing calls).Run (.start { access, resetTokens := tokens } .called) overtaken s ∧
      passwordHash s = some "#old-password-1" ∧ s.db.revived = true) ∧
    ∃ s, (machine hashing calls).Run (.start { access, resetTokens := tokens } .called) sentTwice s ∧
      s.db.resets = ["t", "t"] := by
  constructor
  · obtain ⟨s, hrun, hs⟩ := Machine.exists_runWith (machine hashing calls) (fun _ _ => True)
      (.start { access, resetTokens := tokens } .called) overtaken
      (fun s => decide (passwordHash s = some "#old-password-1") && s.db.revived) (by decide +kernel)
    simp only [Bool.and_eq_true, decide_eq_true_eq] at hs
    exact ⟨s, hrun, hs⟩
  · obtain ⟨s, hrun, hs⟩ := Machine.exists_runWith (machine hashing calls) (fun _ _ => True)
      (.start { access, resetTokens := tokens } .called) sentTwice
      (fun s => s.db.resets = ["t", "t"]) (by decide +kernel)
    exact ⟨s, hrun, by simpa using hs⟩

end Credentials

end FashionErp
