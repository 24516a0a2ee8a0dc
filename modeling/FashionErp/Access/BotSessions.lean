/-
`BotSessionService.getSession`: a token for an allow-listed bot, new or out of an encrypted cache.

The row of the user is locked from its read to the end of the transaction, so the credentials that
a call reads are the current ones when it answers.
-/
import FashionErp.Access.Credentials
import FashionErp.Lib.Json

namespace FashionErp.BotSessions

open Lib

/-- What `jsonwebtoken` has signed. Times are in seconds, `iatMs` in milliseconds. -/
structure JwtPayload where
  sub : Uuid
  jti : String
  iatMs : Option ℤ
  iat : ℤ
  exp : ℤ
  deriving DecidableEq

/-- `payload.iatMs ?? payload.iat * 1000`. -/
def JwtPayload.issuedAt (payload : JwtPayload) : ℤ := payload.iatMs.getD (payload.iat * 1000)

/-- The functions of Node and its packages, with the keys derived from `jwtSecret`. -/
structure Platform extends Hashing where
  /-- HMAC-SHA256 under the key `credential-proof`, as hexadecimal digits. -/
  hmac : String → String
  /-- AES-256-GCM under the key `encryption`: the tag and the ciphertext. -/
  cipher : (iv : List UInt8) → (aad plain : String) → List UInt8 × List UInt8
  decipher : (iv tag : List UInt8) → (aad : String) → (encrypted : List UInt8) → Option String
  toBase64 : List UInt8 → String
  fromBase64 : String → List UInt8
  signJwt : JwtPayload → String
  verifyJwt : ℤ → String → Option JwtPayload

structure AuthConfig where
  /-- In seconds. -/
  jwtAccessTokenExpiresIn : ℤ
  authRateLimitMaxAttempts : ℕ
  botSessionAllowedEmails : List String

def EXPIRY_MARGIN_SECONDS : ℤ := 30

/-! ## Credentials and their key -/

/-- `user.passwordChangedAt?.getTime()`. -/
def changedAt (user : User) : Option ℤ :=
  user.passwordChangedAt.map fun t => t.date.daysSinceEpoch * 86400000 + t.millis

structure Credential where
  id : Uuid
  email : String
  passwordHash : String
  passwordChangedAt : Option ℤ
  password : String

def credential (user : User) (password : String) : Credential :=
  ⟨user.id, user.email, user.passwordHash, changedAt user, password⟩

def Credential.json (c : Credential) : Json ℤ :=
  .array [.string (String.ofList (intText c.id)), .string c.email, .string c.passwordHash,
    match c.passwordChangedAt with
    | some time => .number time
    | none => .null,
    .string c.password]

theorem Credential.json_injective : Function.Injective Credential.json := by
  intro c d h
  obtain ⟨id, email, hash, time, password⟩ := c
  obtain ⟨id', email', hash', time', password'⟩ := d
  simp only [json, Json.array.injEq, List.cons.injEq, Json.string.injEq, String.ofList_inj] at h
  obtain ⟨hid, rfl, rfl, htime, rfl, -⟩ := h
  obtain rfl : id = id' := Int.ofNat.inj (NumberText.text_injective hid)
  have htimes : time = time' := by
    cases time <;> cases time' <;> simp_all
  rw [htimes]

section

variable (plat : Platform) (auth : AuthConfig)

def cacheKey (c : Credential) : String :=
  "erp:cache:auth:bot-session:v1:" ++ plat.hmac (Json.stringify c.json none)

theorem cacheKey_injective (hhmac : Function.Injective plat.hmac) :
    Function.Injective (cacheKey plat) := by
  intro c d h
  have htext : Json.stringify c.json none = Json.stringify d.json none :=
    hhmac ((String.append_right_inj _).1 h)
  exact Credential.json_injective (Json.chars_inj (String.ofList_inj.1 htext))

end

/-! ## The cache -/

section

variable (plat : Platform)

def encrypt (token key : String) (iv : List UInt8) : String :=
  plat.toBase64 (iv ++ (plat.cipher iv key token).1 ++ (plat.cipher iv key token).2)

/-- What `readCachedToken` deciphers. -/
def decryptCached (key : String) : Option (Json ℤ) → Option String
  | some (.string value) =>
    if (plat.fromBase64 value).length < 29 then none
    else plat.decipher ((plat.fromBase64 value).take 12)
      (((plat.fromBase64 value).drop 12).take 16) key ((plat.fromBase64 value).drop 28)
  | _ => none

def Stale (user : User) (now : ℤ) (payload : JwtPayload) : Prop :=
  payload.sub ≠ user.id ∨ payload.exp * 1000 ≤ now + EXPIRY_MARGIN_SECONDS * 1000 ∨
    ∃ time ∈ changedAt user, payload.issuedAt < time

instance (user : User) (now : ℤ) (payload : JwtPayload) : Decidable (Stale user now payload) :=
  inferInstanceAs (Decidable (_ ∨ _ ∨ _))

def readCachedToken (value : Option (Json ℤ)) (key : String) (user : User) (now : ℤ) :
    Option String :=
  (decryptCached plat key value).bind fun token =>
    (plat.verifyJwt now token).bind fun payload =>
      if Stale user now payload then none else some token

end

/-! ## Sessions beside each other -/

structure Issue where
  credential : Credential
  token : String
  payload : JwtPayload

structure SessionDb where
  access : AccessDb
  issues : List Issue := []

/-- A call of `getSession`, or any other write of a user: a new password, a lock, a deactivation. -/
inductive Call
  | getSession (email password ip : String)
  | writeUser (id : Uuid) (write : User → User)

inductive Refusal
  | unauthorized (message : String)
  | tooManyRequests
  | unavailable
  /-- `verifyAccessToken` throws. -/
  | jwt
  deriving DecidableEq

inductive Source
  | fresh
  | cache (now : ℤ)
  deriving DecidableEq

/-- Where a call stands; `attempts` are the counters it has increased. -/
inductive Phase
  | called
  /-- The email is not allow-listed. -/
  | denied
  /-- There is no active user. -/
  | refused
  | locked (user : User)
  /-- The cache has no token for the call. -/
  | missed (user : User)
  | admitted (user : User) (attempts : List String)
  | issued (user : User) (token : String) (payload : JwtPayload) (attempts : List String)
  | serving (user : User) (token : String) (now : ℤ)
  | returned (user : User) (token : String) (source : Source) (attempts : List String)
  | failed (error : Refusal) (attempts : List String)
  /-- Another write has its row. -/
  | writing
  | written
  deriving DecidableEq

/-- The steps, with what the clock, the cache and the random generator answer. -/
inductive Label
  | lock
  | get (value : Option (Json ℤ)) (now : ℤ)
  /-- `increment` answers a count, or nothing while Redis is away. -/
  | consume (count : Option ℕ)
  | issue (jti : String) (now : ℤ)
  | finish (login : Instant) (now : ℤ)
  | commit
  | write

section

variable (plat : Platform) (auth : AuthConfig)

/-- AES-GCM is unforgeable: what deciphers under a key was put into the cache under it. -/
def Genuine (db : SessionDb) (key : String) (value : Option (Json ℤ)) : Prop :=
  ∀ token ∈ decryptCached plat key value,
    ∃ e ∈ db.issues, cacheKey plat e.credential = key ∧ e.token = token

instance (db : SessionDb) (key : String) (value : Option (Json ℤ)) :
    Decidable (Genuine plat db key value) :=
  inferInstanceAs (Decidable (∀ token ∈ _, ∃ e ∈ _, _ ∧ _))

/-- `email.trim().toLowerCase()`. -/
def normalizedEmail (email : String) : String := plat.toLowerCase (trim email)

/-- The counter of `consumeAttempt`, which ordinary logins share. -/
def attemptKey (ip email : String) : String :=
  "erp:security:auth-rate-limit:login:" ++ ip ++ ":" ++ normalizedEmail plat email

def consumeAttempt (key : String) (count : Option ℕ)
    (next : List String → Move SessionDb Uuid Phase) : Move SessionDb Uuid Phase :=
  match count with
  | none => .leave (.failed .unavailable [])
  | some count =>
    if count > auth.authRateLimitMaxAttempts then .leave (.failed .tooManyRequests [key])
    else next [key]

def invalid : Refusal := .unauthorized "Invalid email or password"

/-- The payload of `signAccessToken`. -/
def accessPayload (userId : Uuid) (jti : String) (now : ℤ) : JwtPayload where
  sub := userId
  jti := jti
  iatMs := some now
  iat := now / 1000
  exp := now / 1000 + auth.jwtAccessTokenExpiresIn

def ttl (payload : JwtPayload) (now : ℤ) : ℤ :=
  (payload.exp * 1000 - now) / 1000 - EXPIRY_MARGIN_SECONDS

def writeUser (id : Uuid) (write : User → User) (access : AccessDb) : AccessDb :=
  match access.users.find? id with
  | none => access
  | some user => { access with users := access.users.save { write user with id := id } }

/-- What `getSession` writes at its end: the login, and the token into the cache. -/
def finishIssue (user : User) (password token : String) (payload : JwtPayload) (login : Instant)
    (now : ℤ) (db : SessionDb) : SessionDb where
  access := writeUser user.id (fun row => { row with lastLoginAt := some login }) db.access
  issues := if ttl payload now > 0 then db.issues ++ [⟨credential user password, token, payload⟩]
    else db.issues

/-- The moves of `getSession`. -/
def sessionMove (email password ip : String) :
    Label → Phase → SessionDb → Option (Move SessionDb Uuid Phase)
  | .lock, .called, db =>
    if normalizedEmail plat email ∉ auth.botSessionAllowedEmails then some (.goto .denied)
    else match Credentials.findByEmail db.access (normalizedEmail plat email) with
      | none => some (.goto .refused)
      | some user =>
        if user.status = .Active then some (.acquire user.id (.locked user))
        else some (.acquire user.id .refused)
  | .consume count, .denied, _ =>
    some (consumeAttempt auth (attemptKey plat ip email) count fun attempts =>
      .leave (.failed invalid attempts))
  | .consume count, .refused, _ =>
    some (consumeAttempt auth (attemptKey plat ip email) count fun attempts =>
      .leave (.failed invalid attempts))
  | .get value now, .locked user, db =>
    if Genuine plat db (cacheKey plat (credential user password)) value then
      match readCachedToken plat value (cacheKey plat (credential user password)) user now with
      | some token => some (.goto (.serving user token now))
      | none => some (.goto (.missed user))
    else none
  | .commit, .serving user token now, _ =>
    some (.leave (.returned user token (.cache now) []))
  | .consume count, .missed user, _ =>
    some (consumeAttempt auth (attemptKey plat ip email) count fun attempts =>
      .goto (.admitted user attempts))
  -- here the password would be verified
  | .issue jti now, .admitted user attempts, _ =>
    match plat.verifyJwt now (plat.signJwt (accessPayload auth user.id jti now)) with
    | none => some (.leave (.failed .jwt attempts))
    | some payload =>
      if ∃ time ∈ changedAt user, payload.issuedAt < time then
        some (.leave (.failed (.unauthorized "Invalid or expired session") attempts))
      else
        some (.goto
          (.issued user (plat.signJwt (accessPayload auth user.id jti now)) payload attempts))
  | .finish login now, .issued user token payload attempts, db =>
    some (.commit (finishIssue user password token payload login now db)
      (.returned user token .fresh attempts))
  | _, _, _ => none

def writeMove (id : Uuid) (write : User → User) :
    Label → Phase → SessionDb → Option (Move SessionDb Uuid Phase)
  | .lock, .called, _ => some (.acquire id .writing)
  | .write, .writing, db =>
    some (.commit { db with access := writeUser id write db.access } .written)
  | _, _, _ => none

def protocol (call : ℕ → Call) : Protocol SessionDb Uuid Phase Label := fun i l p db =>
  match call i with
  | .getSession email password ip => sessionMove plat auth email password ip l p db
  | .writeUser id write => writeMove id write l p db

/-- Every order of the steps of the calls, the locks of the user rows among them. -/
def machine (call : ℕ → Call) : Machine (Shared SessionDb Uuid Phase) (ℕ × Label) :=
  concurrent (protocol plat auth call)

/-! ## The claim and the condition -/

def IssuedTo (user : User) (token : String) (now : ℤ) (e : Issue) : Prop :=
  e.token = token ∧ e.token = plat.signJwt e.payload ∧ e.credential.id = user.id ∧
    (∀ time ∈ changedAt user, time ≤ e.payload.issuedAt) ∧ now + 30000 < e.payload.exp * 1000

structure Proves (db : SessionDb) (email password ip : String) (user : User) (token : String)
    (source : Source) (attempts : List String) : Prop where
  allowed : normalizedEmail plat email ∈ auth.botSessionAllowedEmails
  current : db.access.users.find? user.id = some user
  email_eq : user.email = normalizedEmail plat email
  active : user.status = .Active
  live : user.deleted = false
  verifies : plat.verify user.passwordHash password = true
  cached : ∀ now, source = .cache now → ∃ e ∈ db.issues, IssuedTo plat user token now e
  quota : source = .fresh → attempts = [attemptKey plat ip email]

def Phase.Answered : Phase → Prop
  | returned .. | failed .. => True
  | _ => False

/-- What an answer says, when it is given: a token is one that proves the password, and a
refusal has counted unless there was no counter. -/
def Answers (db : SessionDb) (email password ip : String) : Phase → Prop
  | .returned user token source attempts =>
    Proves plat auth db email password ip user token source attempts
  | .failed error attempts =>
    attempts = [attemptKey plat ip email] ∨ (error = .unavailable ∧ attempts = [])
  | _ => True

def Kept (call : ℕ → Call) (s s' : Shared SessionDb Uuid Phase) : Prop :=
  ∀ i email password ip, call i = .getSession email password ip → ¬ (s.phase i).Answered →
    Answers plat auth s.db email password ip (s'.phase i)

/-- The condition on a step. A token that is issued is for a password that verifies. -/
def Verified (call : ℕ → Call) (s : Shared SessionDb Uuid Phase) : ℕ × Label → Prop
  | (i, .finish ..) =>
    match call i, s.phase i with
    | .getSession _ password _, .issued user _ _ _ => plat.verify user.passwordHash password = true
    | _, _ => True
  | _ => True

instance (call : ℕ → Call) (s : Shared SessionDb Uuid Phase) (l : ℕ × Label) :
    Decidable (Verified plat call s l) := by
  unfold Verified
  split
  · split <;> infer_instance
  · infer_instance

end

/-! ## What the calls rely on -/

section

variable (plat : Platform) (auth : AuthConfig)

def IssuesVerified (db : SessionDb) : Prop :=
  ∀ e ∈ db.issues, plat.verify e.credential.passwordHash e.credential.password = true ∧
    e.token = plat.signJwt e.payload

structure Chosen (held : Uuid → Prop) (db : SessionDb) (email : String) (user : User) : Prop where
  held : held user.id
  allowed : normalizedEmail plat email ∈ auth.botSessionAllowedEmails
  current : db.access.users.find? user.id = some user
  email_eq : user.email = normalizedEmail plat email
  active : user.status = .Active
  live : user.deleted = false

def SessionOk (email password ip : String) (held : Uuid → Prop) (db : SessionDb) : Phase → Prop
  | .locked user | .missed user => Chosen plat auth held db email user
  | .admitted user attempts =>
    Chosen plat auth held db email user ∧ attempts = [attemptKey plat ip email]
  | .issued user token payload attempts =>
    Chosen plat auth held db email user ∧ attempts = [attemptKey plat ip email] ∧
      token = plat.signJwt payload
  | .serving user token now =>
    Chosen plat auth held db email user ∧ plat.verify user.passwordHash password = true ∧
      ∃ e ∈ db.issues, IssuedTo plat user token now e
  | _ => True

def PhaseOk (call : ℕ → Call) (held : Uuid → Prop) (db : SessionDb) (i : ℕ) (p : Phase) : Prop :=
  match call i with
  | .getSession email password ip => SessionOk plat auth email password ip held db p
  | .writeUser id _ => p = .writing → held id

/-- What a commit leaves to the calls that hold other rows. -/
structure Stands (held : Uuid → Prop) (db db' : SessionDb) : Prop where
  users : ∀ id, held id → db'.access.users.find? id = db.access.users.find? id
  issues : ∀ e ∈ db.issues, e ∈ db'.issues

end

section

variable {plat : Platform} {auth : AuthConfig} {call : ℕ → Call} {held : Uuid → Prop}
  {db db' : SessionDb} {email password ip : String} {user : User}

theorem Chosen.stands (h : Chosen plat auth held db email user) (hs : Stands held db db') :
    Chosen plat auth held db' email user where
  held := h.held
  allowed := h.allowed
  current := (hs.users user.id h.held).trans h.current
  email_eq := h.email_eq
  active := h.active
  live := h.live

theorem PhaseOk.stands {i : ℕ} {p : Phase} (h : PhaseOk plat auth call held db i p)
    (hs : Stands held db db') : PhaseOk plat auth call held db' i p := by
  unfold PhaseOk at h ⊢
  split at h
  · cases p with
    | locked user => exact Chosen.stands h hs
    | missed user => exact Chosen.stands h hs
    | admitted user attempts => exact ⟨h.1.stands hs, h.2⟩
    | issued user token payload attempts => exact ⟨h.1.stands hs, h.2⟩
    | serving user token now =>
      obtain ⟨hchosen, hverify, e, he, hissued⟩ := h
      exact ⟨hchosen.stands hs, hverify, e, hs.issues e he, hissued⟩
    | _ => exact trivial
  · exact h

theorem find?_writeUser {id other : Uuid} (write : User → User) (access : AccessDb)
    (hne : id ≠ other) :
    (writeUser id write access).users.find? other = access.users.find? other := by
  unfold writeUser
  split
  · rfl
  · exact Table.find?_save_ne _ _ _ hne

/-- A token out of the cache was issued to the user, for the password presented. -/
theorem readCachedToken_spec {value : Option (Json ℤ)} {now : ℤ} {token : String}
    (hhmac : Function.Injective plat.hmac)
    (hjwt : ∀ now payload payload', plat.verifyJwt now (plat.signJwt payload) = some payload' →
      payload' = payload)
    (hdb : IssuesVerified plat db)
    (hgenuine : Genuine plat db (cacheKey plat (credential user password)) value)
    (hread : readCachedToken plat value (cacheKey plat (credential user password)) user now =
      some token) :
    plat.verify user.passwordHash password = true ∧
      ∃ e ∈ db.issues, IssuedTo plat user token now e := by
  obtain ⟨token', hdecrypt, hread⟩ := Option.bind_eq_some_iff.1 hread
  obtain ⟨payload, hverify, hread⟩ := Option.bind_eq_some_iff.1 hread
  obtain ⟨hstale, htoken⟩ := Option.ite_none_left_eq_some.1 hread
  obtain rfl := Option.some.inj htoken
  obtain ⟨e, he, hkey, rfl⟩ := hgenuine token' hdecrypt
  obtain ⟨hpassword, hsigned⟩ := hdb e he
  have hcredential : e.credential = credential user password := cacheKey_injective plat hhmac hkey
  have hpayload : payload = e.payload := hjwt now e.payload payload (hsigned ▸ hverify)
  subst hpayload
  unfold Stale EXPIRY_MARGIN_SECONDS at hstale
  refine ⟨?_, e, he, rfl, hsigned, ?_, fun time htime => ?_, ?_⟩
  · rw [hcredential] at hpassword
    exact hpassword
  · rw [hcredential]
    rfl
  · by_contra hlt
    exact hstale (.inr (.inr ⟨time, htime, not_le.1 hlt⟩))
  · by_contra hle
    exact hstale (.inr (.inl (by omega)))

end

/-! ## The steps -/

section

variable {plat : Platform} {auth : AuthConfig} {call : ℕ → Call}
  {s : Shared SessionDb Uuid Phase} {i : ℕ} {l : Label} {m : Move SessionDb Uuid Phase}
  {email password ip : String}

def Good (plat : Platform) (auth : AuthConfig) (call : ℕ → Call) (s : Shared SessionDb Uuid Phase)
    (i : ℕ) (email password ip : String) (m : Move SessionDb Uuid Phase) : Prop :=
  Shared.MoveOk (IssuesVerified plat) (PhaseOk plat auth call) (s.Holds i) s.db i m ∧
    Answers plat auth s.db email password ip m.dest

theorem phaseOk_iff (hcall : call i = .getSession email password ip) {held : Uuid → Prop}
    {db : SessionDb} {p : Phase} :
    PhaseOk plat auth call held db i p ↔ SessionOk plat auth email password ip held db p := by
  unfold PhaseOk
  rw [hcall]

theorem good_goto (hcall : call i = .getSession email password ip) {p : Phase}
    (h : SessionOk plat auth email password ip (s.Holds i) s.db p)
    (hanswer : Answers plat auth s.db email password ip p) :
    Good plat auth call s i email password ip (.goto p) :=
  ⟨(phaseOk_iff hcall).2 h, hanswer⟩

theorem good_failed (hcall : call i = .getSession email password ip) (error : Refusal) :
    Good plat auth call s i email password ip
      (.leave (.failed error [attemptKey plat ip email])) :=
  ⟨(phaseOk_iff hcall).2 trivial, .inl rfl⟩

theorem good_consumeAttempt (hcall : call i = .getSession email password ip) {count : Option ℕ}
    {next : List String → Move SessionDb Uuid Phase}
    (hnext : Good plat auth call s i email password ip (next [attemptKey plat ip email])) :
    Good plat auth call s i email password ip
      (consumeAttempt auth (attemptKey plat ip email) count next) := by
  unfold consumeAttempt
  split
  · exact ⟨(phaseOk_iff hcall).2 trivial, .inr ⟨rfl, rfl⟩⟩
  · split
    · exact good_failed hcall _
    · exact hnext

theorem chosen_lock {user : User}
    (hallowed : normalizedEmail plat email ∈ auth.botSessionAllowedEmails)
    (hfind : Credentials.findByEmail s.db.access (normalizedEmail plat email) = some user)
    (hactive : user.status = .Active) :
    Chosen plat auth (fun id => id = user.id ∨ s.Holds i id) s.db email user := by
  have htest := List.find?_some hfind
  simp only [decide_eq_true_eq, Bool.not_eq_true] at htest
  refine ⟨.inl rfl, hallowed, ?_, htest.1, hactive, htest.2⟩
  exact (Table.mem_rows_iff _ _).1 (List.mem_of_find?_eq_some hfind)

/-- The end of a session whose password verifies keeps what is relied on, and proves it. -/
theorem good_finish (hcall : call i = .getSession email password ip)
    (hdb : IssuesVerified plat s.db) {user : User} {token : String} {payload : JwtPayload}
    {attempts : List String} {login : Instant} {now : ℤ}
    (hphase : SessionOk plat auth email password ip (s.Holds i) s.db
      (.issued user token payload attempts))
    (hverify : plat.verify user.passwordHash password = true) :
    Good plat auth call s i email password ip
      (.commit (finishIssue user password token payload login now s.db)
        (.returned user token .fresh attempts)) := by
  obtain ⟨hchosen, hattempts, htoken⟩ := hphase
  refine ⟨⟨?_, (phaseOk_iff hcall).2 trivial⟩, ?_⟩
  · intro e he
    unfold finishIssue at he
    dsimp only at he
    split at he
    · rcases List.mem_append.1 he with he | he
      · exact hdb e he
      · obtain rfl := List.mem_singleton.1 he
        exact ⟨hverify, htoken⟩
    · exact hdb e he
  · refine ⟨hchosen.allowed, hchosen.current, hchosen.email_eq, hchosen.active, hchosen.live,
      hverify, fun now heq => ?_, fun _ => hattempts⟩
    cases heq

theorem sessionMove_good (hhmac : Function.Injective plat.hmac)
    (hjwt : ∀ now payload payload', plat.verifyJwt now (plat.signJwt payload) = some payload' →
      payload' = payload)
    (hcall : call i = .getSession email password ip) (hdb : IssuesVerified plat s.db)
    (hphase : SessionOk plat auth email password ip (s.Holds i) s.db (s.phase i))
    (hm : sessionMove plat auth email password ip l (s.phase i) s.db = some m)
    (hc : Verified plat call s (i, l)) : Good plat auth call s i email password ip m := by
  generalize hp : s.phase i = p at hm hphase
  unfold sessionMove at hm
  split at hm
  case h_1 =>
    split at hm
    · cases hm
      exact good_goto hcall trivial trivial
    · rename_i hallowed
      split at hm
      · cases hm
        exact good_goto hcall trivial trivial
      · rename_i user hfind
        split at hm
        · rename_i hactive
          cases hm
          exact ⟨(phaseOk_iff hcall).2 (chosen_lock (not_not.1 hallowed) hfind hactive), trivial⟩
        · cases hm
          exact ⟨(phaseOk_iff hcall).2 trivial, trivial⟩
  case h_2 =>
    cases hm
    exact good_consumeAttempt hcall (good_failed hcall _)
  case h_3 =>
    cases hm
    exact good_consumeAttempt hcall (good_failed hcall _)
  case h_4 value now user =>
    obtain ⟨hgenuine, hm⟩ := Option.ite_none_right_eq_some.1 hm
    split at hm
    · rename_i token hread
      cases hm
      exact good_goto hcall ⟨hphase, readCachedToken_spec hhmac hjwt hdb hgenuine hread⟩ trivial
    · cases hm
      exact good_goto hcall hphase trivial
  case h_5 user token now =>
    cases hm
    obtain ⟨hchosen, hverify, hissued⟩ := hphase
    refine ⟨(phaseOk_iff hcall).2 trivial, hchosen.allowed, hchosen.current, hchosen.email_eq,
      hchosen.active, hchosen.live, hverify, fun now' heq => ?_, fun heq => nomatch heq⟩
    obtain rfl := Source.cache.inj heq
    exact hissued
  case h_6 user =>
    cases hm
    exact good_consumeAttempt hcall (good_goto hcall ⟨hphase, rfl⟩ trivial)
  case h_7 jti now user attempts =>
    obtain ⟨hchosen, rfl⟩ := hphase
    split at hm
    · cases hm
      exact good_failed hcall _
    · rename_i payload hsigned
      split at hm
      · cases hm
        exact good_failed hcall _
      · cases hm
        refine good_goto hcall ⟨hchosen, rfl, ?_⟩ trivial
        rw [hjwt now _ payload hsigned]
  case h_8 login now user token payload attempts =>
    cases hm
    simp only [Verified, hcall, hp] at hc
    exact good_finish hcall hdb hphase hc
  case h_9 => cases hm

theorem commit_stands {db' : SessionDb} {q : Phase}
    (hphase : PhaseOk plat auth call (s.Holds i) s.db i (s.phase i))
    (hm : protocol plat auth call i l (s.phase i) s.db = some (.commit db' q))
    {held : Uuid → Prop} (hheld : ∀ id, held id → ¬ s.Holds i id) : Stands held s.db db' := by
  unfold protocol at hm
  unfold PhaseOk at hphase
  split at hm
  case h_1 email password ip hcall =>
    rw [hcall] at hphase
    dsimp only at hphase
    generalize s.phase i = p at hm hphase
    unfold sessionMove at hm
    split at hm
    case h_8 login now user token payload attempts =>
      obtain ⟨rfl, rfl⟩ := Move.commit.inj (Option.some.inj hm)
      refine ⟨fun id hid => find?_writeUser _ _ fun heq => ?_, fun e he => ?_⟩
      · exact hheld id hid (heq ▸ hphase.1.held)
      · unfold finishIssue
        dsimp only
        split
        · exact List.mem_append_left _ he
        · exact he
    case h_9 => cases hm
    -- no other move commits
    all_goals try unfold consumeAttempt at hm
    all_goals repeat' split at hm
    all_goals cases hm
  case h_2 id write hcall =>
    rw [hcall] at hphase
    dsimp only at hphase
    generalize s.phase i = p at hm hphase
    unfold writeMove at hm
    split at hm
    case h_1 => cases hm
    case h_2 =>
      obtain ⟨rfl, rfl⟩ := Move.commit.inj (Option.some.inj hm)
      refine ⟨fun other hother => find?_writeUser _ _ fun heq => ?_, fun e he => he⟩
      exact hheld other hother (heq ▸ hphase rfl)
    case h_3 => cases hm

abbrev Inv (plat : Platform) (auth : AuthConfig) (call : ℕ → Call)
    (s : Shared SessionDb Uuid Phase) : Prop :=
  s.Inv (IssuesVerified plat) (PhaseOk plat auth call)

theorem writeMove_ok {id : Uuid} {write : User → User} (hcall : call i = .writeUser id write)
    (hdb : IssuesVerified plat s.db) (hm : writeMove id write l (s.phase i) s.db = some m) :
    Shared.MoveOk (IssuesVerified plat) (PhaseOk plat auth call) (s.Holds i) s.db i m := by
  have hphase : ∀ {held : Uuid → Prop} {db : SessionDb} {p : Phase}, (p = .writing → held id) →
      PhaseOk plat auth call held db i p := by
    intro held db p h
    unfold PhaseOk
    rw [hcall]
    exact h
  generalize s.phase i = p at hm
  unfold writeMove at hm
  split at hm
  case h_1 =>
    cases hm
    exact hphase fun _ => .inl rfl
  case h_2 =>
    cases hm
    exact ⟨hdb, hphase fun heq => by cases heq⟩
  case h_3 => cases hm

section

variable {s' : Shared SessionDb Uuid Phase}

theorem inv_step (hhmac : Function.Injective plat.hmac)
    (hjwt : ∀ now payload payload', plat.verifyJwt now (plat.signJwt payload) = some payload' →
      payload' = payload)
    (hs₀ : Inv plat auth call s) (hc : Verified plat call s (i, l))
    (hs : (machine plat auth call).step s (i, l) = some s') : Inv plat auth call s' := by
  refine hs₀.step hs (fun m hm => ?_) fun db' q hm j _ held hheld hj => ?_
  · have hphase := hs₀.phase i
    unfold protocol at hm
    split at hm
    case h_1 email password ip hcall =>
      exact (sessionMove_good hhmac hjwt hcall hs₀.db ((phaseOk_iff hcall).1 hphase) hm hc).1
    case h_2 id write hcall => exact writeMove_ok hcall hs₀.db hm
  · exact PhaseOk.stands hj (commit_stands (hs₀.phase i) hm hheld)

theorem kept_step (hhmac : Function.Injective plat.hmac)
    (hjwt : ∀ now payload payload', plat.verifyJwt now (plat.signJwt payload) = some payload' →
      payload' = payload)
    (hs₀ : Inv plat auth call s) (hc : Verified plat call s (i, l))
    (hs : (machine plat auth call).step s (i, l) = some s') : Kept plat auth call s s' := by
  intro j email password ip hcall hnot
  obtain ⟨m, hm, hphase⟩ := Shared.step_phase hs
  rw [hphase]
  by_cases hj : j = i
  · subst hj
    rw [Function.update_self]
    have hok := (phaseOk_iff hcall).1 (hs₀.phase j)
    unfold protocol at hm
    rw [hcall] at hm
    exact (sessionMove_good hhmac hjwt hcall hs₀.db hok hm hc).2
  · rw [Function.update_of_ne hj]
    generalize s.phase j = p at hnot
    cases p with
    | returned => exact absurd trivial hnot
    | failed => exact absurd trivial hnot
    | _ => exact trivial

theorem verified_of_kept (hs : (machine plat auth call).step s (i, l) = some s')
    (hkept : Kept plat auth call s s') : Verified plat call s (i, l) := by
  obtain ⟨m, hm, hphase⟩ := Shared.step_phase hs
  unfold Verified
  split
  case h_1 j login now heq =>
    obtain ⟨rfl, rfl⟩ := Prod.mk.inj heq
    split
    case h_1 email password ip user token payload attempts hcall hp =>
      have hanswer := hkept i email password ip hcall (by rw [hp]; exact id)
      rw [hphase, Function.update_self] at hanswer
      simp only [protocol, hcall, hp, sessionMove] at hm
      cases hm
      exact hanswer.verifies
    case h_2 => exact trivial
  case h_2 => exact trivial

end

theorem runWith_verified {s' : Shared SessionDb Uuid Phase} {ls : List (ℕ × Label)}
    (h : (machine plat auth call).RunWith ((machine plat auth call).Steps (Kept plat auth call))
      s ls s') : (machine plat auth call).RunWith (Verified plat call) s ls s' := by
  induction h with
  | done s => exact .done s
  | step hkept hs _ ih => exact .step (verified_of_kept hs (hkept _ hs)) hs ih

/-- A token proves the password, and every other call counts, exactly when every token that is
issued is for a password that verifies. -/
theorem proves_iff (plat : Platform) (auth : AuthConfig) (call : ℕ → Call) (access : AccessDb)
    (hhmac : Function.Injective plat.hmac)
    (hjwt : ∀ now payload payload', plat.verifyJwt now (plat.signJwt payload) = some payload' →
      payload' = payload)
    {ls : List (ℕ × Label)} {s : Shared SessionDb Uuid Phase}
    (hrun : (machine plat auth call).Run (.start { access } .called) ls s) :
    (machine plat auth call).RunWith ((machine plat auth call).Steps (Kept plat auth call))
        (.start { access } .called) ls s ↔
      (machine plat auth call).RunWith (Verified plat call) (.start { access } .called) ls s := by
  have hstart : Inv plat auth call (.start { access } .called) := by
    refine Shared.inv_start (fun e he => absurd he List.not_mem_nil) fun i held => ?_
    unfold PhaseOk
    split
    · exact trivial
    · intro h
      cases h
  refine Machine.steps_iff_runWith (I := Inv plat auth call) (fun s l s' hs₀ hc hs => ?_)
    (fun s l s' _ hs hkept => verified_of_kept hs hkept) hstart hrun
  exact ⟨inv_step hhmac hjwt hs₀ hc hs, kept_step hhmac hjwt hs₀ hc hs⟩

end

namespace SessionDemo

def auth : AuthConfig where
  jwtAccessTokenExpiresIn := 900
  authRateLimitMaxAttempts := 10
  botSessionAllowedEmails := ["bot@shop"]

def bot : User := { id := 1, email := "bot@shop", passwordHash := "#right-password-1" }

def access : AccessDb where
  users := .ofRows [bot]

def login : Instant := { date := ⟨1970, 1, 1⟩, millis := 1000000 }

def payload : JwtPayload := accessPayload auth 1 "j" 1000000

def plat : Platform where
  verify passwordHash plainPassword := passwordHash = "#" ++ plainPassword
  hash _ plainPassword := "#" ++ plainPassword
  hashResetToken token := token
  toLowerCase s := s
  hmac text := text
  cipher _ _ _ := (List.replicate 16 7, [1])
  decipher _ tag aad encrypted :=
    if tag = List.replicate 16 7 ∧ encrypted = [1] ∧ aad = "erp:cache:auth:bot-session:v1:" ++
        Json.stringify (credential bot "right-password-1").json none then some "token"
    else none
  toBase64 bytes := String.ofList (bytes.map fun b => Char.ofNat b.toNat)
  fromBase64 text := text.toList.map fun c => c.toNat.toUInt8
  signJwt p := if p = payload then "token" else ""
  verifyJwt now token := if token = "token" ∧ now / 1000 < payload.exp then some payload else none

theorem verifyJwt_signJwt (now : ℤ) (p p' : JwtPayload)
    (h : plat.verifyJwt now (plat.signJwt p) = some p') : p' = p := by
  obtain ⟨⟨htoken, -⟩, hpayload⟩ := Option.ite_none_right_eq_some.1 h
  have hp : p = payload := by
    by_contra hne
    have hempty : plat.signJwt p = "" := if_neg hne
    rw [hempty] at htoken
    exact absurd htoken (by decide)
  rw [hp]
  exact (Option.some.inj hpayload).symm

def calls (i : ℕ) : Call :=
  .getSession "bot@shop" (if i = 2 then "guess" else "right-password-1") "ip"

def newSession (i : ℕ) : List (ℕ × Label) :=
  [(i, .lock), (i, .get none 1000000), (i, .consume (some 1)), (i, .issue "j" 1000000),
    (i, .finish login 1000000)]

def cachedSession (i : ℕ) : List (ℕ × Label) :=
  [(i, .lock), (i, .get (some (.string (encrypt plat "token"
    (cacheKey plat (credential bot "right-password-1")) (List.replicate 12 0)))) 1060000),
    (i, .commit)]

end SessionDemo

open SessionDemo in
theorem proves_iff_reused :
    ∃ s, (machine plat auth calls).RunWith
        ((machine plat auth calls).Steps (Kept plat auth calls)) (.start { access } .called)
        (newSession 0 ++ cachedSession 1) s ∧
      s.phase 1 = .returned { bot with lastLoginAt := some login } "token" (.cache 1060000) [] := by
  obtain ⟨s, hrun, hs⟩ := Machine.exists_runWith (machine plat auth calls) (Verified plat calls)
    (.start { access } .called) (newSession 0 ++ cachedSession 1)
    (fun s => s.phase 1 = .returned { bot with lastLoginAt := some login } "token"
      (.cache 1060000) []) (by decide +kernel)
  refine ⟨s, ?_, of_decide_eq_true hs⟩
  exact (proves_iff plat auth calls access Function.injective_id verifyJwt_signJwt hrun.run).2 hrun

open SessionDemo in
theorem guess_gets_token :
    ∃ s, (machine plat auth calls).Run (.start { access } .called) (newSession 2) s ∧
      s.phase 2 = .returned bot "token" .fresh ["erp:security:auth-rate-limit:login:ip:bot@shop"] ∧
      ¬ (machine plat auth calls).RunWith
        ((machine plat auth calls).Steps (Kept plat auth calls)) (.start { access } .called)
        (newSession 2) s := by
  obtain ⟨s, hrun, hs⟩ := Machine.exists_runWith (machine plat auth calls) (fun _ _ => True)
    (.start { access } .called) (newSession 2)
    (fun s => s.phase 2 = .returned bot "token" .fresh
      ["erp:security:auth-rate-limit:login:ip:bot@shop"]) (by decide +kernel)
  refine ⟨s, hrun.run, of_decide_eq_true hs, fun hkept => ?_⟩
  have hnone : (machine plat auth calls).execWith (Verified plat calls) (.start { access } .called)
      (newSession 2) = none := by
    rw [← Option.isNone_iff_eq_none]
    decide +kernel
  rw [Machine.runWith_iff_execWith.1 (runWith_verified hkept)] at hnone
  cases hnone

end FashionErp.BotSessions
