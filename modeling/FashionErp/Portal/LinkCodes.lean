/-
`requestLink` and `verifyLinkAndGetCustomer`, any number of calls at the same time.

A request marks the user's pending codes as consumed and inserts a new one in a second
statement.
-/
import FashionErp.Core.MasterData
import FashionErp.Lib.Column
import FashionErp.Lib.Machine
import Mathlib.Data.Fintype.Basic

namespace FashionErp

open Lib

structure TelegramLinkOtp where
  id : Uuid
  telegramUserId : String
  phone : String
  companyId : Uuid
  codeHash : String
  attemptCount : ℕ := 0
  /-- In milliseconds, as all times here. -/
  expiresAt : ℤ
  consumedAt : Option ℤ := none
  deriving DecidableEq

instance : Keyed TelegramLinkOtp Uuid := ⟨TelegramLinkOtp.id⟩

namespace LinkCodes

def OTP_EXPIRES_IN_MINUTES : ℤ := 10

def OTP_MAX_ATTEMPTS : ℕ := 5

inductive Call
  | requestLink (telegramUserId : String) (companyId : Uuid) (phone : String) (newId : Uuid)
      (code : String) (now : ℤ)
  | verifyLinkAndGetCustomer (telegramUserId code : String) (now : ℤ)

inductive Phase
  | called
  /-- `requestLink` has marked the pending codes as consumed. -/
  | superseded
  /-- The given code was evaluated; the entity is saved next. -/
  | evaluated (otp : TelegramLinkOtp)
  /-- `save` has read the row. -/
  | saving (otp seen : TelegramLinkOtp)
  | requested (code : String) (expiresAt : ℤ)
  | verified (otp : TelegramLinkOtp)
  | rejected (message : String)

inductive Label
  /-- The first statement of a call, and the evaluation of a given code. -/
  | read
  | insert
  /-- The read of `save`. -/
  | reread
  | write

/-- The committed rows, `n` calls, and what has happened: the code of every wrong guess
that was evaluated, and every code that was consumed by a verification. Rows are in the
order of `createdAt`. -/
structure State (n : ℕ) where
  companies : Table Company
  otps : Table TelegramLinkOtp
  phase : Fin n → Phase
  guesses : List Uuid
  consumed : List Uuid

variable {n : ℕ}

def ofUser (otps : Table TelegramLinkOtp) (telegramUserId : String) : List TelegramLinkOtp :=
  otps.rows.filter fun otp => otp.telegramUserId = telegramUserId

/-- `findOne({ where: { telegramUserId, consumedAt: IsNull() }, order: { createdAt: 'DESC' } })`. -/
def findPending (otps : Table TelegramLinkOtp) (telegramUserId : String) : Option TelegramLinkOtp :=
  ((ofUser otps telegramUserId).filter fun otp => otp.consumedAt = none).getLast?

/-- `update({ telegramUserId, consumedAt: IsNull() }, { consumedAt: now })`. -/
def supersede (otps : Table TelegramLinkOtp) (telegramUserId : String) (now : ℤ) :
    Table TelegramLinkOtp :=
  otps.mapRows
    (fun otp =>
      if otp.telegramUserId = telegramUserId ∧ otp.consumedAt = none then
        { otp with consumedAt := some now }
      else otp)
    fun otp => by split <;> rfl

/-- The write of `save(otp)` after it has read `seen`: the two columns a verification
changes. -/
def saveOtp (otps : Table TelegramLinkOtp) (otp seen : TelegramLinkOtp) : Table TelegramLinkOtp :=
  otps.mapRows
    (fun row =>
      if row.id = otp.id then
        { row with
          attemptCount := mergeCol otp.attemptCount seen.attemptCount row.attemptCount
          consumedAt := mergeCol otp.consumedAt seen.consumedAt row.consumedAt }
      else row)
    fun row => by split <;> rfl

def State.goto (s : State n) (i : Fin n) (p : Phase) : State n :=
  { s with phase := Function.update s.phase i p }

def checkPending (otps : Table TelegramLinkOtp) (telegramUserId : String) (now : ℤ) :
    Except String TelegramLinkOtp :=
  match findPending otps telegramUserId with
  | none => .error "No pending verification for this Telegram account — request a new code"
  | some otp =>
    if otp.expiresAt < now then .error "Verification code has expired"
    else if OTP_MAX_ATTEMPTS ≤ otp.attemptCount then
      .error "Too many incorrect attempts — request a new code"
    else .ok otp

def evaluate (hashOtpCode : String → String) (s : State n) (i : Fin n)
    (telegramUserId code : String) (now : ℤ) : State n :=
  match checkPending s.otps telegramUserId now with
  | .error message => s.goto i (.rejected message)
  | .ok otp =>
    if hashOtpCode code ≠ otp.codeHash then
      { s.goto i (.evaluated { otp with attemptCount := otp.attemptCount + 1 }) with
        guesses := otp.id :: s.guesses }
    else s.goto i (.evaluated { otp with consumedAt := some now })

/-- `findActiveByIdOrNull` and the update of `requestLink`. -/
def beginRequest (s : State n) (i : Fin n) (telegramUserId : String) (companyId : Uuid) (now : ℤ) :
    State n :=
  match (s.companies.find? companyId).filter fun c => c.status = .Active && !c.deleted with
  | none => s.goto i (.rejected "companyId does not reference an active company")
  | some _ => { s.goto i .superseded with otps := supersede s.otps telegramUserId now }

/-- The code `requestLink` creates. -/
def newOtp (hashOtpCode : String → String) (telegramUserId : String) (companyId : Uuid)
    (phone : String) (newId : Uuid) (code : String) (now : ℤ) : TelegramLinkOtp :=
  { id := newId, telegramUserId, phone := trim phone, companyId, codeHash := hashOtpCode code
    expiresAt := now + OTP_EXPIRES_IN_MINUTES * 60000 }

/-- The insert of `requestLink`; a duplicate id fails it. -/
def insertOtp (s : State n) (i : Fin n) (otp : TelegramLinkOtp) (code : String) : State n :=
  if (s.otps.find? otp.id).isSome then s.goto i (.rejected "ER_DUP_ENTRY")
  else { s.goto i (.requested code otp.expiresAt) with otps := s.otps.save otp }

def writeOtp (s : State n) (i : Fin n) (otp seen : TelegramLinkOtp) : State n :=
  match otp.consumedAt with
  | none =>
    { s.goto i (.rejected "Incorrect verification code") with otps := saveOtp s.otps otp seen }
  | some _ =>
    { s.goto i (.verified otp) with
      otps := saveOtp s.otps otp seen
      consumed := otp.id :: s.consumed }

def step (hashOtpCode : String → String) (call : Call) (s : State n) (i : Fin n) :
    Label → Phase → Option (State n)
  | .read, .called => some <|
    match call with
    | .requestLink telegramUserId companyId _ _ _ now =>
      beginRequest s i telegramUserId companyId now
    | .verifyLinkAndGetCustomer telegramUserId code now =>
      evaluate hashOtpCode s i telegramUserId code now
  | .insert, .superseded =>
    match call with
    | .requestLink telegramUserId companyId phone newId code now => some <|
      insertOtp s i (newOtp hashOtpCode telegramUserId companyId phone newId code now) code
    | .verifyLinkAndGetCustomer .. => none
  | .reread, .evaluated otp =>
    (s.otps.find? otp.id).map fun seen => s.goto i (.saving otp seen)
  | .write, .saving otp seen => some (writeOtp s i otp seen)
  | _, _ => none

def machine (hashOtpCode : String → String) (call : Fin n → Call) :
    Machine (State n) (Fin n × Label) where
  step s l := step hashOtpCode (call l.1) s l.1 l.2 (s.phase l.1)

def start (n : ℕ) (companies : Table Company) (otps : Table TelegramLinkOtp) : State n :=
  { companies, otps, phase := fun _ => .called, guesses := [], consumed := [] }

/-! ## The property, and when it holds -/

def Newest (otps : Table TelegramLinkOtp) : Prop :=
  ∀ otp ∈ otps.rows, otp.consumedAt = none → (ofUser otps otp.telegramUserId).getLast? = some otp

instance (otps : Table TelegramLinkOtp) : Decidable (Newest otps) :=
  inferInstanceAs (Decidable (∀ otp ∈ otps.rows, _))

/-- The property: at most `OTP_MAX_ATTEMPTS` wrong codes are evaluated against a code,
it is consumed at most once, and the one unconsumed code of a user is the newest. -/
structure Safe (s : State n) : Prop where
  attempts : ∀ id, s.guesses.count id ≤ OTP_MAX_ATTEMPTS
  once : s.consumed.Nodup
  newest : Newest s.otps

def Phase.entity : Phase → Option TelegramLinkOtp
  | evaluated otp => some otp
  | saving otp _ => some otp
  | _ => none

def Phase.Guesses (p : Phase) (id : Uuid) : Prop :=
  ∃ otp ∈ p.entity, otp.id = id ∧ otp.consumedAt = none

/-- A call has evaluated the right code, and not saved it. -/
def Phase.Consumes (p : Phase) (id : Uuid) : Prop :=
  ∃ otp ∈ p.entity, otp.id = id ∧ otp.consumedAt ≠ none

instance (p : Phase) (id : Uuid) : Decidable (p.Guesses id) :=
  inferInstanceAs (Decidable (∃ otp ∈ p.entity, _))

instance (p : Phase) (id : Uuid) : Decidable (p.Consumes id) :=
  inferInstanceAs (Decidable (∃ otp ∈ p.entity, _))

def EvaluatesAlone (hashOtpCode : String → String) (s : State n) (telegramUserId code : String)
    (now : ℤ) : Prop :=
  ∀ otp ∈ (checkPending s.otps telegramUserId now).toOption,
    if hashOtpCode code ≠ otp.codeHash then ∀ j, ¬ (s.phase j).Guesses otp.id
    else ∀ j, ¬ (s.phase j).Consumes otp.id

instance (hashOtpCode : String → String) (s : State n) (telegramUserId code : String) (now : ℤ) :
    Decidable (EvaluatesAlone hashOtpCode s telegramUserId code now) :=
  inferInstanceAs (Decidable (∀ otp ∈ (checkPending s.otps telegramUserId now).toOption, _))

/-- What keeps the codes safe. Codes are evaluated alone; the save of a wrong guess
finds its code still unconsumed; and a code is inserted while its user has none that is
unconsumed. -/
def Careful (hashOtpCode : String → String) (call : Fin n → Call) (s : State n)
    (l : Fin n × Label) : Prop :=
  match l.2, s.phase l.1, call l.1 with
  | .read, .called, .verifyLinkAndGetCustomer telegramUserId code now =>
    EvaluatesAlone hashOtpCode s telegramUserId code now
  | .reread, .evaluated otp, _ =>
    otp.consumedAt = none → ∀ seen ∈ s.otps.find? otp.id, seen.consumedAt = none
  | .insert, .superseded, .requestLink telegramUserId .. =>
    findPending s.otps telegramUserId = none
  | _, _, _ => True

instance (hashOtpCode : String → String) (call : Fin n → Call) (s : State n) (l : Fin n × Label) :
    Decidable (Careful hashOtpCode call s l) := by
  unfold Careful
  split <;> infer_instance

/-! ## What a call is about to save -/

@[simp] theorem guesses_evaluated {otp : TelegramLinkOtp} {id : Uuid} :
    (Phase.evaluated otp).Guesses id ↔ otp.id = id ∧ otp.consumedAt = none := by
  simp [Phase.Guesses, Phase.entity]

@[simp] theorem guesses_saving {otp seen : TelegramLinkOtp} {id : Uuid} :
    (Phase.saving otp seen).Guesses id ↔ otp.id = id ∧ otp.consumedAt = none := by
  simp [Phase.Guesses, Phase.entity]

@[simp] theorem consumes_evaluated {otp : TelegramLinkOtp} {id : Uuid} :
    (Phase.evaluated otp).Consumes id ↔ otp.id = id ∧ otp.consumedAt ≠ none := by
  simp [Phase.Consumes, Phase.entity]

@[simp] theorem consumes_saving {otp seen : TelegramLinkOtp} {id : Uuid} :
    (Phase.saving otp seen).Consumes id ↔ otp.id = id ∧ otp.consumedAt ≠ none := by
  simp [Phase.Consumes, Phase.entity]

variable {p : Phase}

theorem not_guesses_of_idle (hp : p.entity = none) (id : Uuid) : ¬ p.Guesses id := by
  rintro ⟨otp, hotp, -⟩
  rw [hp] at hotp
  cases hotp

theorem not_consumes_of_idle (hp : p.entity = none) (id : Uuid) : ¬ p.Consumes id := by
  rintro ⟨otp, hotp, -⟩
  rw [hp] at hotp
  cases hotp

/-! ## What the statements do -/

variable {otps : Table TelegramLinkOtp} {f : TelegramLinkOtp → TelegramLinkOtp}

theorem Newest.mapRows (h : Newest otps) (hid : ∀ row, (f row).id = row.id)
    (huser : ∀ row, (f row).telegramUserId = row.telegramUserId)
    (hconsumed : ∀ row ∈ otps.rows, (f row).consumedAt = none → row.consumedAt = none) :
    Newest (otps.mapRows f hid) := by
  intro otp hmem hnone
  obtain ⟨row, hrow, rfl⟩ := List.mem_map.1 hmem
  have hlast := h row hrow (hconsumed row hrow hnone)
  have hofUser : ofUser (otps.mapRows f hid) row.telegramUserId =
      (ofUser otps row.telegramUserId).map f := by
    unfold ofUser Table.mapRows
    rw [List.filter_map]
    congr 1
    refine List.filter_congr fun other _ => ?_
    rw [Function.comp_apply, huser]
  rw [huser, hofUser, List.getLast?_map, hlast, Option.map_some]

variable {telegramUserId : String}

theorem mem_ofUser {otp : TelegramLinkOtp} :
    otp ∈ ofUser otps telegramUserId ↔ otp ∈ otps.rows ∧ otp.telegramUserId = telegramUserId := by
  simp [ofUser]

theorem mem_of_findPending
    {otp : TelegramLinkOtp} (h : findPending otps telegramUserId = some otp) :
    otp ∈ otps.rows ∧ otp.consumedAt = none := by
  have hmem := List.mem_of_getLast? h
  rw [List.mem_filter, mem_ofUser] at hmem
  exact ⟨hmem.1.1, of_decide_eq_true hmem.2⟩

theorem consumed_of_findPending
    (h : findPending otps telegramUserId = none) {otp : TelegramLinkOtp} (hmem : otp ∈ otps.rows)
    (hnone : otp.consumedAt = none) : otp.telegramUserId ≠ telegramUserId := by
  intro huser
  unfold findPending at h
  rw [List.getLast?_eq_none_iff, List.filter_eq_nil_iff] at h
  exact h otp (mem_ofUser.2 ⟨hmem, huser⟩) (decide_eq_true hnone)

theorem of_checkPending {now : ℤ}
    {otp : TelegramLinkOtp} (h : checkPending otps telegramUserId now = .ok otp) :
    otp ∈ otps.rows ∧ otp.consumedAt = none ∧ otp.attemptCount < OTP_MAX_ATTEMPTS := by
  unfold checkPending at h
  split at h
  · cases h
  · rename_i found hfound
    split at h
    · cases h
    · split at h
      · cases h
      · rename_i hleft
        cases h
        obtain ⟨hmem, hnone⟩ := mem_of_findPending hfound
        exact ⟨hmem, hnone, not_le.1 hleft⟩

theorem Newest.save_new (h : Newest otps) {otp : TelegramLinkOtp}
    (hfresh : otps.find? otp.id = none) (hnone : findPending otps otp.telegramUserId = none) :
    Newest (otps.save otp) := by
  have hrows : (otps.save otp).rows = otps.rows ++ [otp] := Table.rows_save_new hfresh
  have hofUser : ∀ telegramUserId, ofUser (otps.save otp) telegramUserId =
      ofUser otps telegramUserId ++ [otp].filter fun row => row.telegramUserId = telegramUserId := by
    intro telegramUserId
    unfold ofUser
    rw [hrows, List.filter_append]
  intro row hmem hpending
  rw [hrows, List.mem_append, List.mem_singleton] at hmem
  rw [hofUser]
  rcases hmem with hmem | rfl
  · have hne := consumed_of_findPending hnone hmem hpending
    rw [List.filter_cons_of_neg (by simpa using hne.symm), List.filter_nil, List.append_nil]
    exact h row hmem hpending
  · rw [List.filter_cons_of_pos (by simp), List.filter_nil, List.getLast?_concat]

/-! ## The invariant -/

/-- An entity on its way to its save: a wrong guess counts one more attempt than its row
has, if that is unconsumed still, and a right one is for a code that was not used. -/
structure Pending (otps : Table TelegramLinkOtp) (guesses consumed : List Uuid)
    (otp : TelegramLinkOtp) : Prop where
  found : (otps.find? otp.id).isSome
  wrong : otp.consumedAt = none → ∀ row ∈ otps.find? otp.id, row.consumedAt = none →
    otp.attemptCount = row.attemptCount + 1 ∧ guesses.count otp.id ≤ otp.attemptCount
  right : otp.consumedAt ≠ none → otp.id ∉ consumed

structure Reread (otps : Table TelegramLinkOtp) (otp seen : TelegramLinkOtp) : Prop where
  wrong : otp.consumedAt = none → seen.consumedAt = none ∧
    ∀ row ∈ otps.find? otp.id, row.consumedAt = none → seen.attemptCount = row.attemptCount
  right : seen.consumedAt ≠ none → ∀ row ∈ otps.find? otp.id, row.consumedAt ≠ none

def PhaseOk (otps : Table TelegramLinkOtp) (guesses consumed : List Uuid) : Phase → Prop
  | .evaluated otp => Pending otps guesses consumed otp
  | .saving otp seen => Pending otps guesses consumed otp ∧ Reread otps otp seen
  | _ => True

/-- The invariant: the property; the codes that were guessed or used are rows; every
guess against an unconsumed row is counted or about to be; used codes are consumed; and
the saves that are under way. -/
structure Inv (s : State n) : Prop where
  safe : Safe s
  known : ∀ id, id ∈ s.guesses ∨ id ∈ s.consumed → (s.otps.find? id).isSome
  counted : ∀ row ∈ s.otps.rows, row.consumedAt = none →
    (∀ i, ¬ (s.phase i).Guesses row.id) → s.guesses.count row.id ≤ row.attemptCount
  used : ∀ row ∈ s.otps.rows, row.id ∈ s.consumed → row.consumedAt ≠ none
  phases : ∀ i, PhaseOk s.otps s.guesses s.consumed (s.phase i)
  guessing : ∀ i j id, (s.phase i).Guesses id → (s.phase j).Guesses id → i = j
  consuming : ∀ i j id, (s.phase i).Consumes id → (s.phase j).Consumes id → i = j

theorem phaseOk_of_idle (s : State n) (hp : p.entity = none) :
    PhaseOk s.otps s.guesses s.consumed p := by
  cases p with
  | evaluated | saving => cases hp
  | _ => trivial

theorem unique_update {P : Phase → Prop} {phase : Fin n → Phase} {i : Fin n}
    (h : ∀ j k, P (phase j) → P (phase k) → j = k) (hp : P p → ∀ j, j ≠ i → ¬ P (phase j)) :
    ∀ j k, P (Function.update phase i p j) → P (Function.update phase i p k) → j = k := by
  intro j k hj hk
  by_cases hji : j = i
  · subst hji
    by_cases hkj : k = j
    · exact hkj.symm
    · rw [Function.update_self] at hj
      rw [Function.update_of_ne hkj] at hk
      exact absurd hk (hp hj k hkj)
  · rw [Function.update_of_ne hji] at hj
    by_cases hki : k = i
    · subst hki
      rw [Function.update_self] at hk
      exact absurd hj (hp hk j hji)
    · rw [Function.update_of_ne hki] at hk
      exact h j k hj hk

variable {s : State n}

theorem Inv.goto (h : Inv s) {i : Fin n} (hp : PhaseOk s.otps s.guesses s.consumed p)
    (hcounted : ∀ row ∈ s.otps.rows, row.consumedAt = none → (s.phase i).Guesses row.id →
      ¬ p.Guesses row.id → s.guesses.count row.id ≤ row.attemptCount)
    (hguessing : ∀ id, p.Guesses id → ∀ j, j ≠ i → ¬ (s.phase j).Guesses id)
    (hconsuming : ∀ id, p.Consumes id → ∀ j, j ≠ i → ¬ (s.phase j).Consumes id) :
    Inv (s.goto i p) := by
  refine ⟨⟨h.safe.attempts, h.safe.once, h.safe.newest⟩, h.known, fun row hrow hnone hquiet => ?_,
    h.used, ?_, fun j k id => ?_, fun j k id => ?_⟩
  · have hp' : ¬ p.Guesses row.id := by
      have hi := hquiet i
      change ¬ (Function.update s.phase i p i).Guesses row.id at hi
      rwa [Function.update_self] at hi
    by_cases hold : (s.phase i).Guesses row.id
    · exact hcounted row hrow hnone hold hp'
    · refine h.counted row hrow hnone fun j => ?_
      by_cases hji : j = i
      · subst hji
        exact hold
      · have hj := hquiet j
        change ¬ (Function.update s.phase i p j).Guesses row.id at hj
        rwa [Function.update_of_ne hji] at hj
  · exact forall_update (P := fun _ => PhaseOk s.otps s.guesses s.consumed) hp fun j _ => h.phases j
  · exact unique_update (P := fun q => q.Guesses id) (fun j k => h.guessing j k id)
      (hguessing id) j k
  · exact unique_update (P := fun q => q.Consumes id) (fun j k => h.consuming j k id)
      (hconsuming id) j k

theorem Inv.idle (h : Inv s) {i : Fin n} (hold : (s.phase i).entity = none)
    (hp : p.entity = none) : Inv (s.goto i p) :=
  h.goto (phaseOk_of_idle s hp) (fun row _ _ hguess => absurd hguess (not_guesses_of_idle hold row.id))
    (fun id hguess => absurd hguess (not_guesses_of_idle hp id))
    (fun id hconsume => absurd hconsume (not_consumes_of_idle hp id))

theorem Inv.advance (h : Inv s)
    (hid : ∀ row, (f row).id = row.id) (huser : ∀ row, (f row).telegramUserId = row.telegramUserId)
    (hsame : ∀ row ∈ s.otps.rows, (f row).consumedAt = none → f row = row) :
    Inv { s with otps := s.otps.mapRows f hid } := by
  have hfind : ∀ {id row'}, row' ∈ (s.otps.mapRows f hid).find? id →
      ∃ row ∈ s.otps.find? id, f row = row' := by
    intro id row' hrow'
    rw [Table.find?_mapRows] at hrow'
    obtain ⟨row, hrow, heq⟩ := Option.map_eq_some_iff.1 hrow'
    exact ⟨row, hrow, heq⟩
  have hconsumed : ∀ row ∈ s.otps.rows, (f row).consumedAt = none → row.consumedAt = none := by
    intro row hrow hnone
    rwa [hsame row hrow hnone] at hnone
  have hsome : ∀ id, (s.otps.find? id).isSome → ((s.otps.mapRows f hid).find? id).isSome := by
    intro id hfound
    rwa [Table.find?_mapRows, Option.isSome_map]
  have hpending : ∀ {otp}, Pending s.otps s.guesses s.consumed otp →
      Pending (s.otps.mapRows f hid) s.guesses s.consumed otp := by
    intro otp hotp
    refine ⟨hsome _ hotp.found, fun hwrong row' hrow' hnone => ?_, hotp.right⟩
    obtain ⟨row, hrow, rfl⟩ := hfind hrow'
    have heq := hsame row (Table.mem_of_find? hrow) hnone
    rw [heq] at hnone ⊢
    exact hotp.wrong hwrong row hrow hnone
  refine ⟨⟨h.safe.attempts, h.safe.once, h.safe.newest.mapRows hid huser hconsumed⟩,
    fun id hmem => hsome id (h.known id hmem), fun row' hrow' hnone hquiet => ?_,
    fun row' hrow' hmem hnone => ?_, fun i => ?_, h.guessing, h.consuming⟩
  · obtain ⟨row, hrow, rfl⟩ := List.mem_map.1 hrow'
    have heq := hsame row hrow hnone
    rw [heq] at hnone hquiet ⊢
    exact h.counted row hrow hnone hquiet
  · obtain ⟨row, hrow, rfl⟩ := List.mem_map.1 hrow'
    rw [hid] at hmem
    exact h.used row hrow hmem (hconsumed row hrow hnone)
  · have hi := h.phases i
    change PhaseOk _ _ _ (s.phase i)
    cases hphase : s.phase i with
    | evaluated otp =>
      rw [hphase] at hi
      exact hpending hi
    | saving otp seen =>
      rw [hphase] at hi
      obtain ⟨hotp, hseen⟩ := hi
      refine ⟨hpending hotp, fun hwrong => ⟨(hseen.wrong hwrong).1, fun row' hrow' hnone => ?_⟩,
        fun hright row' hrow' hnone => ?_⟩
      · obtain ⟨row, hrow, rfl⟩ := hfind hrow'
        have heq := hsame row (Table.mem_of_find? hrow) hnone
        rw [heq] at hnone ⊢
        exact (hseen.wrong hwrong).2 row hrow hnone
      · obtain ⟨row, hrow, rfl⟩ := hfind hrow'
        exact hseen.right hright row hrow (hconsumed row (Table.mem_of_find? hrow) hnone)
    | _ => trivial

/-! ## One step -/

theorem Inv.guess (h : Inv s) {i : Fin n} {otp : TelegramLinkOtp}
    (hphase : s.phase i = .evaluated otp) (hwrong : otp.consumedAt = none)
    (hcount : s.guesses.count otp.id < otp.attemptCount) (hmax : otp.attemptCount ≤ OTP_MAX_ATTEMPTS) :
    Inv { s with guesses := otp.id :: s.guesses } := by
  have hi : (s.phase i).Guesses otp.id := by
    rw [hphase, guesses_evaluated]
    exact ⟨rfl, hwrong⟩
  have hpending : ∀ j other, other ∈ (s.phase j).entity → Pending s.otps s.guesses s.consumed other →
      Pending s.otps (otp.id :: s.guesses) s.consumed other := by
    intro j other hother hok
    refine ⟨hok.found, fun hnone row hrow hrowNone => ?_, hok.right⟩
    obtain ⟨hattempt, hle⟩ := hok.wrong hnone row hrow hrowNone
    refine ⟨hattempt, ?_⟩
    by_cases hid : otp.id = other.id
    · -- another call with a wrong guess of this code is this call
      have hj : (s.phase j).Guesses otp.id := ⟨other, hother, hid.symm, hnone⟩
      obtain rfl := h.guessing j i otp.id hj hi
      rw [hphase] at hother
      cases hother
      rw [List.count_cons_self]
      omega
    · rwa [List.count_cons_of_ne hid]
  refine ⟨⟨fun id => ?_, h.safe.once, h.safe.newest⟩, fun id hmem => ?_,
    fun row hrow hnone hquiet => ?_, h.used, fun j => ?_, h.guessing, h.consuming⟩
  · by_cases hid : otp.id = id
    · subst hid
      rw [List.count_cons_self]
      omega
    · rw [List.count_cons_of_ne hid]
      exact h.safe.attempts id
  · rw [List.mem_cons] at hmem
    rcases hmem with (rfl | hmem) | hmem
    · have hok := h.phases i
      rw [hphase] at hok
      exact hok.found
    · exact h.known id (.inl hmem)
    · exact h.known id (.inr hmem)
  · have hid : otp.id ≠ row.id := by
      intro hid
      rw [hid] at hi
      exact hquiet i hi
    rw [List.count_cons_of_ne hid]
    exact h.counted row hrow hnone hquiet
  · have hok := h.phases j
    change PhaseOk _ _ _ (s.phase j)
    cases hj : s.phase j with
    | evaluated other =>
      rw [hj] at hok
      exact hpending j other (by rw [hj]; rfl) hok
    | saving other seen =>
      rw [hj] at hok
      exact ⟨hpending j other (by rw [hj]; rfl) hok.1, hok.2⟩
    | _ => trivial

theorem Inv.consume (h : Inv s) {i : Fin n} {otp seen : TelegramLinkOtp}
    (hphase : s.phase i = .saving otp seen) (hright : otp.consumedAt ≠ none)
    (hrow : ∀ row ∈ s.otps.find? otp.id, row.consumedAt ≠ none) :
    Inv { s.goto i (.verified otp) with consumed := otp.id :: s.consumed } := by
  have hi := h.phases i
  rw [hphase] at hi
  have hconsumes : (s.phase i).Consumes otp.id := by
    rw [hphase, consumes_saving]
    exact ⟨rfl, hright⟩
  have hgone := h.goto (i := i) (p := .verified otp) trivial
    (fun row _ _ hguess _ => by
      rw [hphase, guesses_saving] at hguess
      exact absurd hguess.2 hright)
    (fun id hguess => absurd hguess (not_guesses_of_idle rfl id))
    (fun id hconsume => absurd hconsume (not_consumes_of_idle rfl id))
  have hpending : ∀ j other, other ∈ ((s.goto i (.verified otp)).phase j).entity →
      Pending s.otps s.guesses s.consumed other →
      Pending s.otps s.guesses (otp.id :: s.consumed) other := by
    intro j other hother hok
    refine ⟨hok.found, hok.wrong, fun hother' hmem => ?_⟩
    rcases List.mem_cons.1 hmem with hid | hmem
    · -- another call with the right code for this one would be this call
      change other ∈ (Function.update s.phase i (.verified otp) j).entity at hother
      by_cases hji : j = i
      · subst hji
        rw [Function.update_self] at hother
        cases hother
      · rw [Function.update_of_ne hji] at hother
        exact hji (h.consuming j i otp.id ⟨other, hother, hid, hother'⟩ hconsumes)
    · exact hok.right hother' hmem
  refine ⟨⟨h.safe.attempts, List.nodup_cons.2 ⟨hi.1.right hright, h.safe.once⟩, h.safe.newest⟩,
    fun id hmem => ?_, hgone.counted, fun row hmem hused => ?_, fun j => ?_, hgone.guessing,
    hgone.consuming⟩
  · rw [List.mem_cons] at hmem
    rcases hmem with hmem | rfl | hmem
    · exact h.known id (.inl hmem)
    · exact hi.1.found
    · exact h.known id (.inr hmem)
  · rcases List.mem_cons.1 hused with hid | hused
    · have hfind : s.otps.find? row.id = some row := (Table.mem_rows_iff s.otps row).1 hmem
      rw [hid] at hfind
      exact hrow row hfind
    · exact h.used row hmem hused
  · have hok := hgone.phases j
    change PhaseOk s.otps s.guesses (otp.id :: s.consumed) ((s.goto i (.verified otp)).phase j)
    cases hj : (s.goto i (.verified otp)).phase j with
    | evaluated other =>
      rw [hj] at hok
      exact hpending j other (by rw [hj]; rfl) hok
    | saving other seen =>
      rw [hj] at hok
      exact ⟨hpending j other (by rw [hj]; rfl) hok.1, hok.2⟩
    | _ => trivial

variable {hashOtpCode : String → String}

theorem inv_evaluate {i : Fin n}
    {code : String} {now : ℤ} (h : Inv s) (hcalled : s.phase i = .called)
    (halone : EvaluatesAlone hashOtpCode s telegramUserId code now) :
    Inv (evaluate hashOtpCode s i telegramUserId code now) := by
  have hidle : (s.phase i).entity = none := by rw [hcalled]; rfl
  unfold evaluate
  unfold EvaluatesAlone at halone
  cases hcheck : checkPending s.otps telegramUserId now with
  | error message => exact h.idle hidle rfl
  | ok otp =>
    rw [hcheck] at halone
    obtain ⟨hmem, hnone, hleft⟩ := of_checkPending hcheck
    have hfind : s.otps.find? otp.id = some otp := (Table.mem_rows_iff s.otps otp).1 hmem
    have hfound : (s.otps.find? otp.id).isSome := by rw [hfind]; rfl
    have halone := halone otp rfl
    dsimp only
    split
    · -- a wrong code, and no other wrong guess of it is under way
      rename_i hne
      rw [if_pos hne] at halone
      have hcounted := h.counted otp hmem hnone halone
      have hgone := h.goto (i := i) (p := .evaluated { otp with attemptCount := otp.attemptCount + 1 })
        ⟨hfound, fun _ row hrow _ => by
          obtain rfl : otp = row := Option.some.inj (hfind.symm.trans hrow)
          exact ⟨rfl, Nat.le_succ_of_le hcounted⟩, fun hright => absurd hnone hright⟩
        (fun row _ _ hguess => absurd hguess (not_guesses_of_idle hidle row.id))
        (fun id hguess j _ => by
          obtain ⟨rfl, -⟩ := guesses_evaluated.1 hguess
          exact halone j)
        (fun id hconsume => absurd hnone (consumes_evaluated.1 hconsume).2)
      have hphase : (s.goto i (.evaluated { otp with attemptCount := otp.attemptCount + 1 })).phase i =
          .evaluated { otp with attemptCount := otp.attemptCount + 1 } := Function.update_self ..
      exact @Inv.guess n _ hgone i { otp with attemptCount := otp.attemptCount + 1 } hphase hnone
        (Nat.lt_succ_of_le hcounted) hleft
    · rename_i heq
      rw [if_neg heq] at halone
      refine h.goto ⟨hfound, fun hwrong => (by cases hwrong), fun _ hused => h.used otp hmem hused hnone⟩
        (fun row _ _ hguess => absurd hguess (not_guesses_of_idle hidle row.id))
        (fun id hguess => (by cases (guesses_evaluated.1 hguess).2))
        (fun id hconsume j _ => ?_)
      obtain ⟨rfl, -⟩ := consumes_evaluated.1 hconsume
      exact halone j

theorem inv_beginRequest {i : Fin n} (telegramUserId : String) (companyId : Uuid)
    (now : ℤ) (h : Inv s) (hcalled : s.phase i = .called) :
    Inv (beginRequest s i telegramUserId companyId now) := by
  have hidle : (s.phase i).entity = none := by rw [hcalled]; rfl
  unfold beginRequest
  split
  · exact h.idle hidle rfl
  · refine (h.idle (p := .superseded) hidle rfl).advance _ (fun row => ?_) fun row _ hnone => ?_
    · split <;> rfl
    · split at hnone
      · cases hnone
      · rename_i hother
        rw [if_neg hother]

theorem inv_insertOtp {i : Fin n} {otp : TelegramLinkOtp} (code : String) (h : Inv s)
    (hsuperseded : s.phase i = .superseded) (hnew : otp.consumedAt = none)
    (hnone : findPending s.otps otp.telegramUserId = none) : Inv (insertOtp s i otp code) := by
  have hidle : (s.phase i).entity = none := by rw [hsuperseded]; rfl
  unfold insertOtp
  split
  · exact h.idle hidle rfl
  · rename_i hfound
    have hfresh : s.otps.find? otp.id = none := Option.not_isSome_iff_eq_none.1 hfound
    have hgone := h.idle (i := i) (p := .requested code otp.expiresAt) hidle rfl
    have hunknown : ∀ {id}, (s.otps.find? id).isSome → otp.id ≠ id := by
      rintro id hsome rfl
      rw [hfresh] at hsome
      cases hsome
    have hfind : ∀ {id}, (s.otps.find? id).isSome → (s.otps.save otp).find? id = s.otps.find? id :=
      fun hsome => Table.find?_save_ne _ _ _ (hunknown hsome)
    have hpending : ∀ {other}, Pending s.otps s.guesses s.consumed other →
        Pending (s.otps.save otp) s.guesses s.consumed other := by
      intro other hok
      refine ⟨by rw [hfind hok.found]; exact hok.found, ?_, hok.right⟩
      rw [hfind hok.found]
      exact hok.wrong
    refine ⟨⟨h.safe.attempts, h.safe.once, h.safe.newest.save_new hfresh hnone⟩, fun id hmem => ?_,
      fun row hmem hrowNone hquiet => ?_, fun row hmem hused => ?_, fun j => ?_, hgone.guessing,
      hgone.consuming⟩
    · have hknown := h.known id hmem
      rwa [show (s.otps.save otp).find? id = _ from hfind hknown]
    · rcases (Table.mem_save _ _ _).1 hmem with rfl | ⟨hmem, -⟩
      · -- nobody has guessed a code that was not there
        have hzero : s.guesses.count row.id = 0 := by
          rw [List.count_eq_zero]
          exact fun hguessed => hunknown (h.known row.id (.inl hguessed)) rfl
        show s.guesses.count row.id ≤ row.attemptCount
        rw [hzero]
        exact Nat.zero_le _
      · exact hgone.counted row hmem hrowNone hquiet
    · rcases (Table.mem_save _ _ _).1 hmem with rfl | ⟨hmem, -⟩
      · exact absurd rfl (hunknown (h.known row.id (.inr hused)))
      · exact h.used row hmem hused
    · have hok := hgone.phases j
      change PhaseOk (s.otps.save otp) s.guesses s.consumed ((s.goto i _).phase j)
      cases hj : (s.goto i (.requested code otp.expiresAt)).phase j with
      | evaluated other =>
        rw [hj] at hok
        exact hpending hok
      | saving other seen =>
        rw [hj] at hok
        refine ⟨hpending hok.1, ?_, ?_⟩
        · rw [hfind hok.1.found]
          exact hok.2.wrong
        · rw [hfind hok.1.found]
          exact hok.2.right
      | _ => trivial

theorem inv_reread {i : Fin n} {otp seen : TelegramLinkOtp} (h : Inv s)
    (hphase : s.phase i = .evaluated otp) (hseen : s.otps.find? otp.id = some seen)
    (hcareful : otp.consumedAt = none → seen.consumedAt = none) :
    Inv (s.goto i (.saving otp seen)) := by
  have hi := h.phases i
  rw [hphase] at hi
  refine h.goto ⟨hi, fun hwrong => ⟨hcareful hwrong, fun row hrow _ => ?_⟩, fun hright row hrow => ?_⟩
    (fun row _ _ hguess hdone => ?_) (fun id hguess j hji hj => ?_) (fun id hconsume j hji hj => ?_)
  · obtain rfl : seen = row := Option.some.inj (hseen.symm.trans hrow)
    rfl
  · obtain rfl : seen = row := Option.some.inj (hseen.symm.trans hrow)
    exact hright
  · rw [hphase, guesses_evaluated] at hguess
    exact absurd (guesses_saving.2 hguess) hdone
  · refine hji (h.guessing j i id hj ?_)
    rw [hphase, guesses_evaluated]
    exact guesses_saving.1 hguess
  · refine hji (h.consuming j i id hj ?_)
    rw [hphase, consumes_evaluated]
    exact consumes_saving.1 hconsume

theorem saveOtp_wrong {otp seen : TelegramLinkOtp}
    (hotp : otp.consumedAt = none) (hseen : seen.consumedAt = none) {id : Uuid}
    {row' : TelegramLinkOtp} (hrow' : (saveOtp otps otp seen).find? id = some row') :
    ∃ row ∈ otps.find? id, row'.consumedAt = row.consumedAt ∧
      (id ≠ otp.id → row' = row) ∧
      (id = otp.id → row'.attemptCount =
        mergeCol otp.attemptCount seen.attemptCount row.attemptCount) := by
  unfold saveOtp at hrow'
  rw [Table.find?_mapRows] at hrow'
  obtain ⟨row, hrow, rfl⟩ := Option.map_eq_some_iff.1 hrow'
  have hkey : row.id = id := Table.key_of_find? hrow
  refine ⟨row, hrow, ?_, fun hne => ?_, fun heq => ?_⟩
  · split
    · exact mergeCol_of_eq (hotp.trans hseen.symm) _
    · rfl
  · rw [if_neg (hkey ▸ hne)]
  · rw [if_pos (hkey.trans heq)]

theorem inv_write_wrong {i : Fin n} {otp seen : TelegramLinkOtp} (message : String)
    (h : Inv s) (hphase : s.phase i = .saving otp seen) (hwrong : otp.consumedAt = none) :
    Inv { s.goto i (.rejected message) with otps := saveOtp s.otps otp seen } := by
  have hi := h.phases i
  rw [hphase] at hi
  obtain ⟨hotp, hreread⟩ := hi
  obtain ⟨hseen, hsame⟩ := hreread.wrong hwrong
  have hguesses : (s.phase i).Guesses otp.id := by
    rw [hphase, guesses_saving]
    exact ⟨rfl, hwrong⟩
  have hsome : ∀ {id}, (s.otps.find? id).isSome → ((saveOtp s.otps otp seen).find? id).isSome := by
    intro id hfound
    unfold saveOtp
    rwa [Table.find?_mapRows, Option.isSome_map]
  -- every other entity that is under way is one of another code, or the right one
  have hother : ∀ j other, ((s.goto i (.rejected message)).phase j).entity = some other →
      other.consumedAt = none → other.id ≠ otp.id := by
    intro j other hj hnone hid
    change (Function.update s.phase i (.rejected message) j).entity = _ at hj
    by_cases hji : j = i
    · subst hji
      rw [Function.update_self] at hj
      cases hj
    · rw [Function.update_of_ne hji] at hj
      exact hji (h.guessing j i otp.id ⟨other, hj, hid, hnone⟩ hguesses)
  have hpending : ∀ j other, ((s.goto i (.rejected message)).phase j).entity = some other →
      Pending s.otps s.guesses s.consumed other →
      Pending (saveOtp s.otps otp seen) s.guesses s.consumed other := by
    intro j other hj hok
    refine ⟨hsome hok.found, fun hnone row' hrow' hrowNone => ?_, hok.right⟩
    obtain ⟨row, hrow, hconsumedAt, heq, -⟩ := saveOtp_wrong hwrong hseen hrow'
    rw [heq (hother j other hj hnone)] at hrowNone ⊢
    exact hok.wrong hnone row hrow hrowNone
  have hreread : ∀ j other read, ((s.goto i (.rejected message)).phase j).entity = some other →
      Reread s.otps other read → Reread (saveOtp s.otps otp seen) other read := by
    intro j other read hj hok
    refine ⟨fun hnone => ⟨(hok.wrong hnone).1, fun row' hrow' hrowNone => ?_⟩,
      fun hread row' hrow' => ?_⟩
    · obtain ⟨row, hrow, hconsumedAt, heq, -⟩ := saveOtp_wrong hwrong hseen hrow'
      rw [heq (hother j other hj hnone)] at hrowNone ⊢
      exact (hok.wrong hnone).2 row hrow hrowNone
    · obtain ⟨row, hrow, hconsumedAt, -, -⟩ := saveOtp_wrong hwrong hseen hrow'
      rw [hconsumedAt]
      exact hok.right hread row hrow
  have hphases : ∀ j, PhaseOk s.otps s.guesses s.consumed ((s.goto i (.rejected message)).phase j) :=
    forall_update (P := fun _ => PhaseOk s.otps s.guesses s.consumed) trivial fun j _ => h.phases j
  refine ⟨⟨h.safe.attempts, h.safe.once, ?_⟩, fun id hmem => hsome (h.known id hmem),
    fun row' hmem hnone hquiet => ?_, fun row' hmem hused => ?_, fun j => ?_, fun j k id => ?_,
    fun j k id => ?_⟩
  · refine h.safe.newest.mapRows (fun row => by split <;> rfl) (fun row => by split <;> rfl)
      fun row _ hnone => ?_
    split at hnone
    · exact (mergeCol_of_eq (hwrong.trans hseen.symm) row.consumedAt).symm.trans hnone
    · exact hnone
  · have hrow' : (saveOtp s.otps otp seen).find? row'.id = some row' :=
      (Table.mem_rows_iff _ row').1 hmem
    obtain ⟨row, hrow, hconsumedAt, hne, heq⟩ := saveOtp_wrong hwrong hseen hrow'
    rw [hconsumedAt] at hnone
    by_cases hid : row'.id = otp.id
    · -- the guess is counted now
      rw [hid] at hrow
      obtain ⟨hattempt, hcount⟩ := hotp.wrong hwrong row hrow hnone
      rw [heq hid, hsame row hrow hnone, mergeCol_same, hid]
      exact hcount
    · have hmemRow := Table.mem_of_find? hrow
      have hsameRow := hne hid
      subst hsameRow
      refine h.counted row' hmemRow hnone fun j => ?_
      by_cases hji : j = i
      · subst hji
        rw [hphase, guesses_saving]
        exact fun hguess => hid hguess.1.symm
      · have hj := hquiet j
        change ¬ (Function.update s.phase i (.rejected message) j).Guesses row'.id at hj
        rwa [Function.update_of_ne hji] at hj
  · have hrow' : (saveOtp s.otps otp seen).find? row'.id = some row' :=
      (Table.mem_rows_iff _ row').1 hmem
    obtain ⟨row, hrow, hconsumedAt, -, -⟩ := saveOtp_wrong hwrong hseen hrow'
    have hkey : row.id = row'.id := Table.key_of_find? hrow
    rw [hconsumedAt]
    exact h.used row (Table.mem_of_find? hrow) (hkey ▸ hused)
  · have hok := hphases j
    change PhaseOk (saveOtp s.otps otp seen) s.guesses s.consumed ((s.goto i _).phase j)
    cases hj : (s.goto i (.rejected message)).phase j with
    | evaluated other =>
      rw [hj] at hok
      exact hpending j other (by rw [hj]; rfl) hok
    | saving other read =>
      rw [hj] at hok
      exact ⟨hpending j other (by rw [hj]; rfl) hok.1, hreread j other read (by rw [hj]; rfl) hok.2⟩
    | _ => trivial
  · exact unique_update (P := fun q => q.Guesses id) (fun j k => h.guessing j k id)
      (fun hguess => absurd hguess (not_guesses_of_idle rfl id)) j k
  · exact unique_update (P := fun q => q.Consumes id) (fun j k => h.consuming j k id)
      (fun hconsume => absurd hconsume (not_consumes_of_idle rfl id)) j k

theorem inv_write_right {i : Fin n} {otp seen : TelegramLinkOtp} (h : Inv s)
    (hphase : s.phase i = .saving otp seen) (hright : otp.consumedAt ≠ none) :
    Inv { s.goto i (.verified otp) with
      otps := saveOtp s.otps otp seen
      consumed := otp.id :: s.consumed } := by
  have hi := h.phases i
  rw [hphase] at hi
  have hconsumed : ∀ row ∈ s.otps.find? otp.id,
      mergeCol otp.consumedAt seen.consumedAt row.consumedAt ≠ none := by
    intro row hrow
    rcases eq_or_ne otp.consumedAt seen.consumedAt with heq | hne
    · rw [mergeCol_of_eq heq]
      exact hi.2.right (heq ▸ hright) row hrow
    · rw [mergeCol_of_ne hne]
      exact hright
  have hsaved : Inv { s with otps := saveOtp s.otps otp seen } := by
    refine h.advance _ (fun row => by split <;> rfl) fun row hrow hnone => ?_
    split at hnone
    · rename_i hid
      refine absurd hnone (hconsumed row ?_)
      have hfind : s.otps.find? row.id = some row := (Table.mem_rows_iff s.otps row).1 hrow
      rwa [hid] at hfind
    · rename_i hid
      rw [if_neg hid]
  refine hsaved.consume (i := i) hphase hright fun row' hrow' => ?_
  unfold saveOtp at hrow'
  rw [Table.find?_mapRows] at hrow'
  obtain ⟨row, hrow, rfl⟩ := Option.map_eq_some_iff.1 hrow'
  rw [if_pos (show row.id = otp.id from Table.key_of_find? hrow)]
  exact hconsumed row hrow

theorem inv_step {call : Fin n → Call} {s' : State n}
    {l : Fin n × Label} (h : Inv s) (hcareful : Careful hashOtpCode call s l)
    (hs : (machine hashOtpCode call).step s l = some s') : Inv s' := by
  obtain ⟨i, l⟩ := l
  change step hashOtpCode (call i) s i l (s.phase i) = some s' at hs
  unfold Careful at hcareful
  dsimp only at hcareful
  cases hphase : s.phase i with
  | called =>
    rw [hphase] at hs hcareful
    cases l with
    | read =>
      cases hcall : call i with
      | requestLink telegramUserId companyId phone newId code now =>
        rw [hcall] at hs
        cases hs
        exact inv_beginRequest telegramUserId companyId now h hphase
      | verifyLinkAndGetCustomer telegramUserId code now =>
        rw [hcall] at hs hcareful
        cases hs
        exact inv_evaluate h hphase hcareful
    | insert | reread | write => cases hs
  | superseded =>
    rw [hphase] at hs hcareful
    cases l with
    | insert =>
      cases hcall : call i with
      | requestLink telegramUserId companyId phone newId code now =>
        rw [hcall] at hs hcareful
        cases hs
        exact inv_insertOtp code h hphase rfl hcareful
      | verifyLinkAndGetCustomer => rw [hcall] at hs; cases hs
    | read | reread | write => cases hs
  | evaluated otp =>
    rw [hphase] at hs hcareful
    cases l with
    | reread =>
      obtain ⟨seen, hseen, rfl⟩ := Option.map_eq_some_iff.1 hs
      exact inv_reread h hphase hseen fun hwrong => hcareful hwrong seen hseen
    | read | insert | write => cases hs
  | saving otp seen =>
    rw [hphase] at hs
    cases l with
    | write =>
      cases hs
      unfold writeOtp
      split
      · rename_i hwrong
        exact inv_write_wrong _ h hphase hwrong
      · rename_i consumedAt hright
        exact inv_write_right h hphase (by rw [hright]; exact Option.some_ne_none _)
    | read | insert | reread => cases hs
  | requested | verified | rejected =>
    rw [hphase] at hs
    cases l <;> cases hs

/-- No code can be tried too often or used twice, in every run whose steps are
careful: of all wrong codes at most `OTP_MAX_ATTEMPTS` are evaluated against one, it is
consumed once, and the one unconsumed code of a user is the newest. -/
theorem codes_are_safe (hashOtpCode : String → String) (call : Fin n → Call)
    (companies : Table Company) {otps : Table TelegramLinkOtp} (hnewest : Newest otps)
    {ls : List (Fin n × Label)} {s : State n}
    (hrun : (machine hashOtpCode call).RunWith (Careful hashOtpCode call)
      (start n companies otps) ls s) : Safe s := by
  have hstart : Inv (start n companies otps) := by
    refine ⟨⟨fun id => ?_, List.nodup_nil, hnewest⟩, fun id hmem => ?_, fun row _ _ _ => ?_,
      fun row _ hused => ?_, fun i => trivial, fun i j id hi => ?_, fun i j id hi => ?_⟩
    · show List.count id [] ≤ _
      rw [List.count_nil]
      exact Nat.zero_le _
    · rcases hmem with hmem | hmem <;> exact absurd hmem List.not_mem_nil
    · show List.count row.id [] ≤ _
      rw [List.count_nil]
      exact Nat.zero_le _
    · exact absurd hused List.not_mem_nil
    · exact absurd hi (not_guesses_of_idle rfl id)
    · exact absurd hi (not_consumes_of_idle rfl id)
  exact (hrun.invariant hstart fun _ _ _ h hcareful hs => inv_step h hcareful hs).safe

/-! One user: two requests, six wrong guesses and two right ones. -/

namespace LinkDemo

def companies : Table Company := .ofRows [{ id := 1, status := .Active, baseCurrency := "MMK" }]

def calls : Fin 10 → Call
  | 0 => .requestLink "700" 1 "09 1" 11 "123456" 0
  | 1 => .requestLink "700" 1 "09 1" 12 "654321" 0
  | 2 | 3 | 4 | 5 | 6 | 7 => .verifyLinkAndGetCustomer "700" "000000" 1
  | 8 | 9 => .verifyLinkAndGetCustomer "700" "123456" 2

/-- A call of `requestLink` from its first statement to its last. -/
def request (i : Fin 10) : List (Fin 10 × Label) := [(i, .read), (i, .insert)]

def verify (i : Fin 10) : List (Fin 10 × Label) := [(i, .read), (i, .reread), (i, .write)]

def inTurn : List (Fin 10 × Label) := request 0 ++ verify 2 ++ verify 8

def sixGuesses : List (Fin 10 × Label) :=
  request 0 ++ [(2, .read), (3, .read), (4, .read), (5, .read), (6, .read), (7, .read)]

def usedTwice : List (Fin 10 × Label) :=
  request 0 ++ [(2, .read)] ++ verify 8 ++ [(2, .reread), (2, .write)] ++ verify 9

def twoRequests : List (Fin 10 × Label) :=
  [(0, .read), (1, .read), (0, .insert), (1, .insert)]

end LinkDemo

open LinkDemo in
theorem codes_are_safe_inTurn : Newest .empty ∧
    ∃ s, (machine id calls).RunWith (Careful id calls) (start 10 companies .empty) inTurn s ∧
      (s.guesses = [11] ∧ s.consumed = [11]) ∧ Safe s := by
  have h : Newest .empty := by decide +kernel
  obtain ⟨s, hrun, hs⟩ := Machine.exists_runWith (machine id calls) (Careful id calls)
    (start 10 companies .empty) inTurn (fun s => s.guesses = [11] ∧ s.consumed = [11])
    (by decide +kernel)
  exact ⟨h, s, hrun, by simpa using hs, codes_are_safe id calls companies h hrun⟩

open LinkDemo in
theorem codes_not_safe :
    (∃ s, (machine id calls).Run (start 10 companies .empty) sixGuesses s ∧
      OTP_MAX_ATTEMPTS < s.guesses.count 11) ∧
    (∃ s, (machine id calls).Run (start 10 companies .empty) usedTwice s ∧ ¬ s.consumed.Nodup) ∧
    ∃ s, (machine id calls).Run (start 10 companies .empty) twoRequests s ∧ ¬ Newest s.otps := by
  refine ⟨?_, ?_, ?_⟩
  · obtain ⟨s, hrun, hs⟩ := Machine.exists_runWith (machine id calls) (fun _ _ => True)
      (start 10 companies .empty) sixGuesses (fun s => OTP_MAX_ATTEMPTS < s.guesses.count 11)
      (by decide +kernel)
    exact ⟨s, hrun, of_decide_eq_true hs⟩
  · obtain ⟨s, hrun, hs⟩ := Machine.exists_runWith (machine id calls) (fun _ _ => True)
      (start 10 companies .empty) usedTwice (fun s => ¬ s.consumed.Nodup) (by decide +kernel)
    exact ⟨s, hrun, of_decide_eq_true hs⟩
  · obtain ⟨s, hrun, hs⟩ := Machine.exists_runWith (machine id calls) (fun _ _ => True)
      (start 10 companies .empty) twoRequests (fun s => ¬ Newest s.otps) (by decide +kernel)
    exact ⟨s, hrun, of_decide_eq_true hs⟩

end LinkCodes

end FashionErp
