/-
Whose phone a customer carries: `requestLink`, `verifyLinkAndGetCustomer` and
`updateMyInfo`, any number of calls at the same time.

A verification that has consumed its code looks for an ACTIVE customer of the code's phone,
creates one if there is none, and writes the user's link.
-/
import FashionErp.Portal.CustomerOrders
import FashionErp.Portal.LinkCodes

namespace FashionErp.LinkedPhones

open Lib

inductive Call
  | link (call : LinkCodes.Call) (newCustomerId : Uuid) (customerCode : String)
  | updateMyInfo (telegramUserId : String) (name phone : Option String)

/-- The user of a `LinkCodes` call. -/
def userOf : LinkCodes.Call → String
  | .requestLink telegramUserId .. => telegramUserId
  | .verifyLinkAndGetCustomer telegramUserId .. => telegramUserId

def Call.telegramUserId : Call → String
  | link call _ _ => userOf call
  | updateMyInfo telegramUserId _ _ => telegramUserId

/-- Where a call stands once its code is consumed, or an `updateMyInfo`. -/
inductive Phase
  | waiting
  /-- No ACTIVE customer has the phone. -/
  | missing
  /-- `CustomersService.create` has made its checks. -/
  | creating
  | identified (customerId : Uuid)
  | inserting (link : CustomerTelegramLink)
  /-- The user's link is changed in memory and saved next. -/
  | relinking (link : CustomerTelegramLink)
  | overwriting (link seen : CustomerTelegramLink)
  | linked
  /-- `updateMyInfo` has read the customer of the user's link. -/
  | resolved (customer : Customer)
  | editing (customer : Customer)
  | saving (customer seen : Customer)
  | updated
  | rejected (message : String)

inductive Label
  | code (l : LinkCodes.Label)
  /-- `findActiveByPhone`, and the row it returns: any of those that match. -/
  | lookup (found : Option Uuid)
  | checkCreate
  | insertCustomer
  | findLink
  | insertLink
  | rereadLink
  | writeLink
  | readLinked
  | readCustomer
  | rereadCustomer
  | writeCustomer

/-- The committed rows, `n` calls, and the company and the phone of every customer that a
verification has created. -/
structure State (n : ℕ) where
  codes : LinkCodes.State n
  customers : Table Customer
  links : Table CustomerTelegramLink
  phase : Fin n → Phase
  created : List (Uuid × String)

variable {n : ℕ}

def State.goto (s : State n) (i : Fin n) (p : Phase) : State n :=
  { s with phase := Function.update s.phase i p }

def consumedCode (s : State n) (i : Fin n) : Option TelegramLinkOtp :=
  match s.codes.phase i with
  | .verified otp => some otp
  | _ => none

/-- The customer is one that `findActiveByPhone` finds for the code. -/
def Matches (otp : TelegramLinkOtp) (customer : Customer) : Prop :=
  customer.companyId = otp.companyId ∧ customer.phone = some otp.phone ∧
    customer.status = .Active ∧ customer.deleted = false

instance (otp : TelegramLinkOtp) (customer : Customer) : Decidable (Matches otp customer) :=
  inferInstanceAs (Decidable (_ ∧ _))

/-- `findActiveByPhone`. -/
def lookup (s : State n) (i : Fin n) (otp : TelegramLinkOtp) : Option Uuid → Option (State n)
  | some id =>
    if ∃ customer ∈ s.customers.find? id, Matches otp customer then
      some (s.goto i (.identified id))
    else none
  | none =>
    if ∃ customer ∈ s.customers.rows, Matches otp customer then none
    else some (s.goto i .missing)

/-- The checks of `CustomersService.create`. -/
def checkCreate (s : State n) (i : Fin n) (otp : TelegramLinkOtp) (customerCode : String) : State n :=
  match (s.codes.companies.find? otp.companyId).filter fun c => c.status = .Active && !c.deleted with
  | none => s.goto i (.rejected "companyId does not reference an active company")
  | some _ =>
    if ∃ c ∈ s.customers.rows, c.companyId = otp.companyId ∧ c.customerCode = customerCode ∧
        c.deleted = false then
      s.goto i (.rejected "Customer code already exists for this company")
    else s.goto i .creating

/-- The customer `findOrCreateCustomerByPhone` creates. -/
def newCustomer (otp : TelegramLinkOtp) (newCustomerId : Uuid) (customerCode : String) : Customer where
  id := newCustomerId
  companyId := otp.companyId
  customerCode := customerCode
  name := "Telegram Customer " ++ otp.phone
  phone := some otp.phone
  receivableAccountId := none
  status := .Active

def Insertable (customers : Table Customer) (customer : Customer) : Prop :=
  customers.find? customer.id = none ∧
    ∀ c ∈ customers.rows,
      ¬ (c.companyId = customer.companyId ∧ c.customerCode = customer.customerCode)

instance (customers : Table Customer) (customer : Customer) :
    Decidable (Insertable customers customer) :=
  inferInstanceAs (Decidable (_ ∧ _))

/-- The insert of `CustomersService.create`. -/
def insertCustomer (s : State n) (i : Fin n) (otp : TelegramLinkOtp) (customer : Customer) : State n :=
  if Insertable s.customers customer then
    { s.goto i (.identified customer.id) with
      customers := s.customers.save customer
      created := (otp.companyId, otp.phone) :: s.created }
  else s.goto i (.rejected "ER_DUP_ENTRY")

def findLink (s : State n) (i : Fin n) (telegramUserId : String) (customerId : Uuid) : State n :=
  match s.links.find? telegramUserId with
  | none => s.goto i (.inserting { telegramUserId, customerId, status := .Active })
  | some link => s.goto i (.relinking { link with customerId, status := .Active })

def putLink (s : State n) (i : Fin n) (link : CustomerTelegramLink) : State n :=
  if (s.customers.find? link.customerId).isSome then
    { s.goto i .linked with links := s.links.save link }
  else s.goto i (.rejected "ER_NO_REFERENCED_ROW_2")

def insertLink (s : State n) (i : Fin n) (link : CustomerTelegramLink) : State n :=
  if (s.links.find? link.telegramUserId).isSome then s.goto i (.rejected "ER_DUP_ENTRY")
  else putLink s i link

/-- `save`: the row with the columns in which the entity differs from what was read. -/
def mergeLink (link seen row : CustomerTelegramLink) : CustomerTelegramLink :=
  { row with
    customerId := mergeCol link.customerId seen.customerId row.customerId
    status := mergeCol link.status seen.status row.status }

/-- `getLinkedCustomerOrThrow`. -/
def readLinked (s : State n) (i : Fin n) (telegramUserId : String) : State n :=
  match (s.links.find? telegramUserId).filter fun link => link.status = .Active with
  | none => s.goto i (.rejected "This Telegram account is not linked to a customer — verify your phone number first")
  | some link =>
    match (s.customers.find? link.customerId).filter fun c => !c.deleted with
    | none => s.goto i (.rejected "TypeError")
    | some customer => s.goto i (.resolved customer)

/-- `CustomersService.update`, up to its save. -/
def readCustomer (s : State n) (i : Fin n) (customer : Customer) (name phone : Option String) :
    State n :=
  match (s.customers.find? customer.id).filter fun c =>
      c.companyId = customer.companyId && !c.deleted with
  | none => s.goto i (.rejected "Customer not found")
  | some found =>
    s.goto i (.editing
      { found with
        name := name.getD found.name
        phone := phone.elim found.phone some })

/-- `save` of a customer. -/
def mergeCustomer (customer seen row : Customer) : Customer :=
  { row with
    name := mergeCol customer.name seen.name row.name
    phone := mergeCol customer.phone seen.phone row.phone }

def step (hashOtpCode : String → String) (call : Call) (s : State n) (i : Fin n) :
    Label → Phase → Option (State n)
  | .code l, .waiting =>
    match call with
    | .link call _ _ =>
      (LinkCodes.step hashOtpCode call s.codes i l (s.codes.phase i)).map fun codes =>
        { s with codes }
    | .updateMyInfo .. => none
  | .lookup found, .waiting => (consumedCode s i).bind fun otp => lookup s i otp found
  | .checkCreate, .missing =>
    match call with
    | .link _ _ customerCode =>
      (consumedCode s i).map fun otp => checkCreate s i otp customerCode
    | .updateMyInfo .. => none
  | .insertCustomer, .creating =>
    match call with
    | .link _ newCustomerId customerCode =>
      (consumedCode s i).map fun otp =>
        insertCustomer s i otp (newCustomer otp newCustomerId customerCode)
    | .updateMyInfo .. => none
  | .findLink, .identified customerId => some (findLink s i call.telegramUserId customerId)
  | .insertLink, .inserting link => some (insertLink s i link)
  | .rereadLink, .relinking link =>
    (s.links.find? link.telegramUserId).map fun seen => s.goto i (.overwriting link seen)
  | .writeLink, .overwriting link seen =>
    (s.links.find? link.telegramUserId).map fun row => putLink s i (mergeLink link seen row)
  | .readLinked, .waiting =>
    match call with
    | .link .. => none
    | .updateMyInfo telegramUserId _ _ => some (readLinked s i telegramUserId)
  | .readCustomer, .resolved customer =>
    match call with
    | .link .. => none
    | .updateMyInfo _ name phone => some (readCustomer s i customer name phone)
  | .rereadCustomer, .editing customer =>
    (s.customers.find? customer.id).map fun seen => s.goto i (.saving customer seen)
  | .writeCustomer, .saving customer seen =>
    (s.customers.find? customer.id).map fun row =>
      { s.goto i .updated with customers := s.customers.save (mergeCustomer customer seen row) }
  | _, _ => none

def machine (hashOtpCode : String → String) (call : Fin n → Call) :
    Machine (State n) (Fin n × Label) where
  step s l := step hashOtpCode (call l.1) s l.1 l.2 (s.phase l.1)

def start (n : ℕ) (companies : Table Company) (otps : Table TelegramLinkOtp) : State n :=
  { codes := LinkCodes.start n companies otps
    customers := .empty
    links := .empty
    phase := fun _ => .waiting
    created := [] }

/-! ## The property, and when it holds -/

def Verified (codes : LinkCodes.State n) (telegramUserId : String) (phone : Option String) : Prop :=
  ∃ otp ∈ codes.otps.rows, otp.id ∈ codes.consumed ∧ otp.telegramUserId = telegramUserId ∧
    phone = some otp.phone

instance (codes : LinkCodes.State n) (telegramUserId : String) (phone : Option String) :
    Decidable (Verified codes telegramUserId phone) :=
  inferInstanceAs (Decidable (∃ otp ∈ codes.otps.rows, _))

/-- The property: verifications create at most one customer for a phone of a company,
and a user with an active link has consumed a code for the phone its customer carries. -/
structure Safe (s : State n) : Prop where
  once : s.created.Nodup
  verified : ∀ link ∈ s.links.rows, link.status = .Active →
    ∀ customer ∈ s.customers.find? link.customerId,
      Verified s.codes link.telegramUserId customer.phone

/-- A link that call `i` is about to write leads to a customer that carries the phone of the
call's code still, or another one the user has verified. -/
def StillCarries (s : State n) (i : Fin n) (link : CustomerTelegramLink) : Prop :=
  link.status = .Active → ∀ customer ∈ s.customers.find? link.customerId,
    (∃ otp ∈ consumedCode s i, customer.phone = some otp.phone) ∨
      Verified s.codes link.telegramUserId customer.phone

instance (s : State n) (i : Fin n) (link : CustomerTelegramLink) :
    Decidable (StillCarries s i link) :=
  inferInstanceAs (Decidable (_ → ∀ customer ∈ s.customers.find? link.customerId, _))

/-- What keeps phones with those who verified them. A customer is created for a phone
that no verification has created one for; a link is written while its customer carries a
phone its user has verified; and a customer's phone is written only if every user linked to
the customer has consumed a code for it. -/
def Guarded (call : Fin n → Call) (s : State n) (l : Fin n × Label) : Prop :=
  match l.2, s.phase l.1, call l.1 with
  | .insertCustomer, .creating, .link _ newCustomerId customerCode =>
    ∀ otp ∈ consumedCode s l.1,
      Insertable s.customers (newCustomer otp newCustomerId customerCode) →
        (otp.companyId, otp.phone) ∉ s.created
  | .insertLink, .inserting link, _ =>
    s.links.find? link.telegramUserId = none → StillCarries s l.1 link
  | .writeLink, .overwriting link seen, _ =>
    ∀ row ∈ s.links.find? link.telegramUserId, StillCarries s l.1 (mergeLink link seen row)
  | .writeCustomer, .saving customer seen, _ =>
    ∀ row ∈ s.customers.find? customer.id, ∀ link ∈ s.links.rows, link.status = .Active →
      link.customerId = customer.id →
        Verified s.codes link.telegramUserId (mergeCustomer customer seen row).phone
  | _, _, _ => True

instance (call : Fin n → Call) (s : State n) (l : Fin n × Label) : Decidable (Guarded call s l) := by
  unfold Guarded
  split <;> infer_instance

/-! ## The codes -/

structure Extends (codes codes' : LinkCodes.State n) : Prop where
  rows : ∀ row ∈ codes.otps.rows, ∃ row' ∈ codes'.otps.rows, row'.id = row.id ∧
    row'.telegramUserId = row.telegramUserId ∧ row'.phone = row.phone
  consumed : ∀ id ∈ codes.consumed, id ∈ codes'.consumed

variable {codes codes' : LinkCodes.State n} {i : Fin n} {s s' : State n} {call : Fin n → Call}

theorem Extends.of_same (hotps : codes'.otps = codes.otps)
    (hconsumed : codes'.consumed = codes.consumed) : Extends codes codes' where
  rows row hrow := ⟨row, by rw [hotps]; exact hrow, rfl, rfl, rfl⟩
  consumed id hid := by rw [hconsumed]; exact hid

theorem Extends.of_mapRows {f : TelegramLinkOtp → TelegramLinkOtp}
    (hid : ∀ row, (f row).id = row.id) (huser : ∀ row, (f row).telegramUserId = row.telegramUserId)
    (hphone : ∀ row, (f row).phone = row.phone) (hotps : codes'.otps = codes.otps.mapRows f hid)
    (hconsumed : ∀ id ∈ codes.consumed, id ∈ codes'.consumed) : Extends codes codes' where
  rows row hrow := by
    rw [hotps]
    exact ⟨f row, List.mem_map_of_mem hrow, hid row, huser row, hphone row⟩
  consumed := hconsumed

variable {telegramUserId : String}

theorem Verified.extend {phone : Option String}
    (h : Verified codes telegramUserId phone) (hext : Extends codes codes') :
    Verified codes' telegramUserId phone := by
  obtain ⟨otp, hotp, hconsumed, huser, hphone⟩ := h
  obtain ⟨row, hrow, hid, huser', hphone'⟩ := hext.rows otp hotp
  refine ⟨row, hrow, ?_, huser'.trans huser, ?_⟩
  · rw [hid]
    exact hext.consumed otp.id hconsumed
  · rw [hphone, hphone']

def Tracked (codes : LinkCodes.State n) (telegramUserId : String) : LinkCodes.Phase → Prop
  | .evaluated otp | .saving otp _ => ∃ row ∈ codes.otps.rows, row.id = otp.id ∧
      row.telegramUserId = telegramUserId ∧ row.phone = otp.phone
  | .verified otp => Verified codes telegramUserId (some otp.phone)
  | _ => True

theorem Tracked.extend {p : LinkCodes.Phase}
    (h : Tracked codes telegramUserId p) (hext : Extends codes codes') :
    Tracked codes' telegramUserId p := by
  have hissued : ∀ otp : TelegramLinkOtp, (∃ row ∈ codes.otps.rows, row.id = otp.id ∧
      row.telegramUserId = telegramUserId ∧ row.phone = otp.phone) →
      ∃ row ∈ codes'.otps.rows, row.id = otp.id ∧ row.telegramUserId = telegramUserId ∧
        row.phone = otp.phone := by
    rintro otp ⟨row, hrow, hid, huser, hphone⟩
    obtain ⟨row', hrow', hid', huser', hphone'⟩ := hext.rows row hrow
    exact ⟨row', hrow', hid'.trans hid, huser'.trans huser, hphone'.trans hphone⟩
  cases p with
  | evaluated otp => exact hissued otp h
  | saving otp seen => exact hissued otp h
  | verified otp => exact Verified.extend h hext
  | _ => trivial

structure Adds (codes : LinkCodes.State n) (i : Fin n) (telegramUserId : String)
    (codes' : LinkCodes.State n) : Prop where
  extended : Extends codes codes'
  phase : ∃ p, codes'.phase = Function.update codes.phase i p ∧ Tracked codes' telegramUserId p

theorem adds_evaluate (hashOtpCode : String → String) (codes : LinkCodes.State n) (i : Fin n)
    (telegramUserId code : String) (now : ℤ) :
    Adds codes i telegramUserId
      (LinkCodes.evaluate hashOtpCode codes i telegramUserId code now) := by
  unfold LinkCodes.evaluate
  cases hcheck : LinkCodes.checkPending codes.otps telegramUserId now with
  | error message => exact ⟨.of_same rfl rfl, _, rfl, trivial⟩
  | ok otp =>
    have hmem : otp ∈ codes.otps.rows ∧ otp.telegramUserId = telegramUserId := by
      unfold LinkCodes.checkPending at hcheck
      split at hcheck
      · cases hcheck
      · rename_i found hfound
        split at hcheck
        · cases hcheck
        · split at hcheck
          · cases hcheck
          · cases hcheck
            exact LinkCodes.mem_ofUser.1 (List.mem_filter.1 (List.mem_of_getLast? hfound)).1
    dsimp only
    split
    · refine ⟨.of_same rfl rfl, _, rfl, ?_⟩
      exact ⟨otp, hmem.1, rfl, hmem.2, rfl⟩
    · refine ⟨.of_same rfl rfl, _, rfl, ?_⟩
      exact ⟨otp, hmem.1, rfl, hmem.2, rfl⟩

theorem adds_beginRequest (codes : LinkCodes.State n) (i : Fin n) (telegramUserId : String)
    (companyId : Uuid) (now : ℤ) :
    Adds codes i telegramUserId (LinkCodes.beginRequest codes i telegramUserId companyId now) := by
  unfold LinkCodes.beginRequest
  split
  · exact ⟨.of_same rfl rfl, _, rfl, trivial⟩
  · refine ⟨.of_mapRows (fun row => ?_) (fun row => ?_) (fun row => ?_) rfl (fun _ hid => hid), _, rfl, trivial⟩
    · split <;> rfl
    · split <;> rfl
    · split <;> rfl

theorem adds_insertOtp (codes : LinkCodes.State n) (i : Fin n) (telegramUserId : String)
    (otp : TelegramLinkOtp) (code : String) :
    Adds codes i telegramUserId (LinkCodes.insertOtp codes i otp code) := by
  unfold LinkCodes.insertOtp
  split
  · exact ⟨.of_same rfl rfl, _, rfl, trivial⟩
  · rename_i hfound
    have hfresh : codes.otps.find? otp.id = none := Option.not_isSome_iff_eq_none.1 hfound
    refine ⟨⟨fun row hrow => ⟨row, ?_, rfl, rfl, rfl⟩, fun _ hid => hid⟩, _, rfl, trivial⟩
    refine (Table.mem_save _ _ _).2 (.inr ⟨hrow, fun hkey => ?_⟩)
    exact Table.find?_eq_none.1 hfresh row hrow hkey

variable {otp : TelegramLinkOtp}

theorem adds_writeOtp {seen : TelegramLinkOtp}
    (hissued : Tracked codes telegramUserId (.saving otp seen)) :
    Adds codes i telegramUserId (LinkCodes.writeOtp codes i otp seen) := by
  have hsaved : ∀ codes' : LinkCodes.State n, codes'.otps = LinkCodes.saveOtp codes.otps otp seen →
      (∀ id ∈ codes.consumed, id ∈ codes'.consumed) → Extends codes codes' := by
    intro codes' hotps hconsumed
    refine .of_mapRows _ (fun row => ?_) (fun row => ?_) hotps hconsumed
    · split <;> rfl
    · split <;> rfl
  unfold LinkCodes.writeOtp
  split
  · exact ⟨hsaved _ rfl fun _ hid => hid, _, rfl, trivial⟩
  · have hext := hsaved
      { codes.goto i (.verified otp) with
        otps := LinkCodes.saveOtp codes.otps otp seen
        consumed := otp.id :: codes.consumed }
      rfl fun id hid => List.mem_cons_of_mem _ hid
    refine ⟨hext, _, rfl, ?_⟩
    obtain ⟨row, hrow, hid, huser, hphone⟩ := hissued
    obtain ⟨row', hrow', hid', huser', hphone'⟩ := hext.rows row hrow
    refine ⟨row', hrow', ?_, huser'.trans huser, ?_⟩
    · rw [hid', hid]
      exact List.mem_cons_self
    · rw [hphone', hphone]

variable {hashOtpCode : String → String}

theorem adds_step {call : LinkCodes.Call} {l : LinkCodes.Label}
    (htracked : Tracked codes (userOf call) (codes.phase i))
    (hs : LinkCodes.step hashOtpCode call codes i l (codes.phase i) = some codes') :
    Adds codes i (userOf call) codes' := by
  unfold LinkCodes.step at hs
  split at hs
  case h_1 =>
    cases hs
    cases call with
    | requestLink => exact adds_beginRequest ..
    | verifyLinkAndGetCustomer => exact adds_evaluate ..
  case h_2 =>
    cases call with
    | requestLink =>
      cases hs
      exact adds_insertOtp ..
    | verifyLinkAndGetCustomer => cases hs
  case h_3 otp hphase =>
    rw [hphase] at htracked
    obtain ⟨seen, -, rfl⟩ := Option.map_eq_some_iff.1 hs
    exact ⟨.of_same rfl rfl, _, rfl, htracked⟩
  case h_4 otp seen hphase =>
    rw [hphase] at htracked
    cases hs
    exact adds_writeOtp htracked
  case h_5 => cases hs

/-! ## One step -/

def Phase.link : Phase → Option CustomerTelegramLink
  | inserting link | relinking link | overwriting link _ => some link
  | _ => none

/-- What every reachable state satisfies: links refer to customers, calls work on codes
of their users, and write their users' links. -/
structure Base (call : Fin n → Call) (s : State n) : Prop where
  references : ∀ link ∈ s.links.rows, (s.customers.find? link.customerId).isSome
  tracked : ∀ i, Tracked s.codes (call i).telegramUserId (s.codes.phase i)
  own : ∀ i, ∀ link ∈ (s.phase i).link, link.telegramUserId = (call i).telegramUserId

/-- What a step of call `i` can do, and the condition under which it keeps the
property. -/
inductive Does (s : State n) (i : Fin n) (telegramUserId : String) : State n → Prop → Prop
  | idle {p : Phase} (hown : ∀ link ∈ p.link, link.telegramUserId = telegramUserId) :
    Does s i telegramUserId (s.goto i p) True
  | code {codes : LinkCodes.State n} (hadds : Adds s.codes i telegramUserId codes) :
    Does s i telegramUserId { s with codes } True
  | create {otp : TelegramLinkOtp} {customer : Customer}
    (hfresh : Insertable s.customers customer) :
    Does s i telegramUserId
      { s.goto i (.identified customer.id) with
        customers := s.customers.save customer
        created := (otp.companyId, otp.phone) :: s.created }
      ((otp.companyId, otp.phone) ∉ s.created)
  | write {link : CustomerTelegramLink} (hown : link.telegramUserId = telegramUserId) :
    Does s i telegramUserId (putLink s i link) (StillCarries s i link)
  | edit {customer row : Customer} (hrow : s.customers.find? customer.id = some row) :
    Does s i telegramUserId
      { s.goto i .updated with customers := s.customers.save customer }
      (∀ link ∈ s.links.rows, link.status = .Active → link.customerId = customer.id →
        Verified s.codes link.telegramUserId customer.phone)

theorem not_mem_link {p : Phase} (hp : p.link = none) :
    ∀ link ∈ p.link, link.telegramUserId = telegramUserId := by
  rw [hp]
  exact fun _ hlink => by cases hlink

theorem Does.of_goto (h : ∃ p, s' = s.goto i p ∧ p.link = none) :
    Does s i telegramUserId s' True := by
  obtain ⟨p, rfl, hp⟩ := h
  exact .idle (not_mem_link hp)

theorem lookup_goto {found : Option Uuid}
    (h : lookup s i otp found = some s') : ∃ p, s' = s.goto i p ∧ p.link = none := by
  unfold lookup at h
  split at h
  · split at h
    · exact ⟨_, (Option.some.inj h).symm, rfl⟩
    · cases h
  · split at h
    · cases h
    · exact ⟨_, (Option.some.inj h).symm, rfl⟩

theorem checkCreate_goto (s : State n) (i : Fin n) (otp : TelegramLinkOtp) (customerCode : String) :
    ∃ p, checkCreate s i otp customerCode = s.goto i p ∧ p.link = none := by
  unfold checkCreate
  split
  · exact ⟨_, rfl, rfl⟩
  · split
    · exact ⟨_, rfl, rfl⟩
    · exact ⟨_, rfl, rfl⟩

theorem readLinked_goto (s : State n) (i : Fin n) (telegramUserId : String) :
    ∃ p, readLinked s i telegramUserId = s.goto i p ∧ p.link = none := by
  unfold readLinked
  split
  · exact ⟨_, rfl, rfl⟩
  · split
    · exact ⟨_, rfl, rfl⟩
    · exact ⟨_, rfl, rfl⟩

theorem readCustomer_goto (s : State n) (i : Fin n) (customer : Customer) (name phone : Option String) :
    ∃ p, readCustomer s i customer name phone = s.goto i p ∧ p.link = none := by
  unfold readCustomer
  split
  · exact ⟨_, rfl, rfl⟩
  · exact ⟨_, rfl, rfl⟩

theorem findLink_does (s : State n) (i : Fin n) (telegramUserId : String) (customerId : Uuid) :
    Does s i telegramUserId (findLink s i telegramUserId customerId) True := by
  unfold findLink
  split
  · refine .idle fun link hlink => ?_
    cases hlink
    rfl
  · rename_i found hfound
    refine .idle fun link hlink => ?_
    cases hlink
    exact Table.key_of_find? hfound

theorem does_step {l : Fin n × Label} (h : Base call s)
    (hs : (machine hashOtpCode call).step s l = some s') :
    ∃ C, Does s l.1 (call l.1).telegramUserId s' C ∧ (Guarded call s l ↔ C) := by
  obtain ⟨i, l⟩ := l
  change step hashOtpCode (call i) s i l (s.phase i) = some s' at hs
  have hown := h.own i
  unfold Guarded
  dsimp only
  cases hphase : s.phase i with
  | waiting =>
    rw [hphase] at hs
    cases l with
    | code l =>
      cases hcall : call i with
      | link c newCustomerId customerCode =>
        rw [hcall] at hs
        have htracked := h.tracked i
        rw [hcall] at htracked
        obtain ⟨codes, hcodes, rfl⟩ := Option.map_eq_some_iff.1 hs
        exact ⟨True, .code (adds_step htracked hcodes), Iff.rfl⟩
      | updateMyInfo => rw [hcall] at hs; cases hs
    | lookup found =>
      obtain ⟨otp, -, hlookup⟩ := Option.bind_eq_some_iff.1 hs
      exact ⟨True, .of_goto (lookup_goto hlookup), Iff.rfl⟩
    | readLinked =>
      cases hcall : call i with
      | link => rw [hcall] at hs; cases hs
      | updateMyInfo telegramUserId name phone =>
        rw [hcall] at hs
        cases hs
        exact ⟨True, .of_goto (readLinked_goto ..), Iff.rfl⟩
    | _ => cases hs
  | missing =>
    rw [hphase] at hs
    cases l with
    | checkCreate =>
      cases hcall : call i with
      | link c newCustomerId customerCode =>
        rw [hcall] at hs
        obtain ⟨otp, -, rfl⟩ := Option.map_eq_some_iff.1 hs
        exact ⟨True, .of_goto (checkCreate_goto ..), Iff.rfl⟩
      | updateMyInfo => rw [hcall] at hs; cases hs
    | _ => cases hs
  | creating =>
    rw [hphase] at hs
    cases l with
    | insertCustomer =>
      cases hcall : call i with
      | link c newCustomerId customerCode =>
        rw [hcall] at hs
        obtain ⟨otp, hotp, rfl⟩ := Option.map_eq_some_iff.1 hs
        unfold insertCustomer
        split
        · rename_i hfresh
          refine ⟨_, .create hfresh, fun hguarded => hguarded otp hotp hfresh, ?_⟩
          intro hnew other hother _
          obtain rfl := Option.some.inj (hotp.symm.trans hother)
          exact hnew
        · rename_i hused
          refine ⟨True, .of_goto ⟨_, rfl, rfl⟩, iff_of_true ?_ trivial⟩
          intro other hother hfresh
          obtain rfl := Option.some.inj (hotp.symm.trans hother)
          exact absurd hfresh hused
      | updateMyInfo => rw [hcall] at hs; cases hs
    | _ => cases hs
  | identified customerId =>
    rw [hphase] at hs
    cases l with
    | findLink =>
      cases hs
      exact ⟨True, findLink_does .., Iff.rfl⟩
    | _ => cases hs
  | inserting link =>
    rw [hphase] at hs hown
    have hlink := hown link rfl
    cases l with
    | insertLink =>
      cases hs
      unfold insertLink
      split
      · rename_i hfound
        refine ⟨True, .of_goto ⟨_, rfl, rfl⟩, iff_of_true (fun hnone => ?_) trivial⟩
        rw [hnone] at hfound
        cases hfound
      · rename_i hfound
        have hnone := Option.not_isSome_iff_eq_none.1 hfound
        exact ⟨_, .write hlink, fun hguarded => hguarded hnone, fun hcarries _ => hcarries⟩
    | _ => cases hs
  | relinking link =>
    rw [hphase] at hs hown
    cases l with
    | rereadLink =>
      obtain ⟨seen, -, rfl⟩ := Option.map_eq_some_iff.1 hs
      exact ⟨True, .idle hown, Iff.rfl⟩
    | _ => cases hs
  | overwriting link seen =>
    rw [hphase] at hs hown
    cases l with
    | writeLink =>
      obtain ⟨row, hrow, rfl⟩ := Option.map_eq_some_iff.1 hs
      have hkey : row.telegramUserId = link.telegramUserId := Table.key_of_find? hrow
      refine ⟨_, .write (hkey.trans (hown link rfl)), fun hguarded => hguarded row hrow, ?_⟩
      intro hcarries other hother
      obtain rfl := Option.some.inj (hrow.symm.trans hother)
      exact hcarries
    | _ => cases hs
  | resolved customer =>
    rw [hphase] at hs
    cases l with
    | readCustomer =>
      cases hcall : call i with
      | link => rw [hcall] at hs; cases hs
      | updateMyInfo telegramUserId name phone =>
        rw [hcall] at hs
        cases hs
        exact ⟨True, .of_goto (readCustomer_goto ..), Iff.rfl⟩
    | _ => cases hs
  | editing customer =>
    rw [hphase] at hs
    cases l with
    | rereadCustomer =>
      obtain ⟨seen, -, rfl⟩ := Option.map_eq_some_iff.1 hs
      exact ⟨True, .of_goto ⟨_, rfl, rfl⟩, Iff.rfl⟩
    | _ => cases hs
  | saving customer seen =>
    rw [hphase] at hs
    cases l with
    | writeCustomer =>
      obtain ⟨row, hrow, rfl⟩ := Option.map_eq_some_iff.1 hs
      have hid : row.id = customer.id := Table.key_of_find? hrow
      have hfound : s.customers.find? (mergeCustomer customer seen row).id = some row := by
        show s.customers.find? row.id = some row
        rw [hid]
        exact hrow
      refine ⟨_, .edit hfound, fun hguarded link hlink hactive hof => ?_, ?_⟩
      · exact hguarded row hrow link hlink hactive (hof.trans hid)
      · intro hverified other hother link hlink hactive hof
        obtain rfl := Option.some.inj (hrow.symm.trans hother)
        exact hverified link hlink hactive (hof.trans hid.symm)
    | _ => cases hs
  | linked | updated | rejected =>
    rw [hphase] at hs
    cases l <;> cases hs

/-! ## What a step keeps -/

theorem Base.goto {p : Phase} (h : Base call s)
    (hown : ∀ link ∈ p.link, link.telegramUserId = (call i).telegramUserId) :
    Base call (s.goto i p) where
  references := h.references
  tracked := h.tracked
  own := forall_update (P := fun j p => ∀ link ∈ Phase.link p,
    link.telegramUserId = (call j).telegramUserId) hown fun j _ => h.own j

theorem references_save (h : Base call s) (customer : Customer) :
    ∀ link ∈ s.links.rows, ((s.customers.save customer).find? link.customerId).isSome := by
  intro link hlink
  rw [Table.find?_save]
  split
  · rfl
  · exact h.references link hlink

theorem base_step {C : Prop} (h : Base call s) (hdoes : Does s i (call i).telegramUserId s' C) :
    Base call s' := by
  cases hdoes with
  | idle hown => exact h.goto hown
  | @code codes hadds =>
    obtain ⟨p, hphase, htracked⟩ := hadds.phase
    refine ⟨h.references, ?_, h.own⟩
    show ∀ j, Tracked codes (call j).telegramUserId (codes.phase j)
    rw [hphase]
    exact forall_update (P := fun j p => Tracked codes (call j).telegramUserId p) htracked
      fun j _ => (h.tracked j).extend hadds.extended
  | @create otp customer hfresh =>
    have hmoved := h.goto (i := i) (not_mem_link (p := .identified customer.id) rfl)
    exact ⟨references_save h customer, hmoved.tracked, hmoved.own⟩
  | @write link hown =>
    unfold putLink
    split
    · rename_i hfound
      have hmoved := h.goto (i := i) (not_mem_link (p := .linked) rfl)
      refine ⟨?_, hmoved.tracked, hmoved.own⟩
      exact Table.forall_save h.references hfound
    · exact h.goto (not_mem_link rfl)
  | @edit customer row hrow =>
    have hmoved := h.goto (i := i) (not_mem_link (p := .updated) rfl)
    exact ⟨references_save h customer, hmoved.tracked, hmoved.own⟩

theorem safe_create_iff {customer : Customer} (h : Base call s)
    (hsafe : Safe s) (hfresh : Insertable s.customers customer) :
    Safe { s.goto i (.identified customer.id) with
      customers := s.customers.save customer
      created := (otp.companyId, otp.phone) :: s.created } ↔
      (otp.companyId, otp.phone) ∉ s.created := by
  constructor
  · intro hafter
    exact (List.nodup_cons.1 hafter.once).1
  · intro hnew
    refine ⟨List.nodup_cons.2 ⟨hnew, hsafe.once⟩, ?_⟩
    intro link hlink hactive found hfound
    have hfound : (s.customers.save customer).find? link.customerId = some found := hfound
    rw [Table.find?_save] at hfound
    split at hfound
    · rename_i hid
      have hreferred := h.references link hlink
      rw [← hid] at hreferred
      rw [show s.customers.find? (Keyed.key customer) = none from hfresh.1] at hreferred
      cases hreferred
    · exact hsafe.verified link hlink hactive found hfound

theorem safe_putLink_iff {link : CustomerTelegramLink} (h : Base call s) (hsafe : Safe s)
    (hown : link.telegramUserId = (call i).telegramUserId) :
    Safe (putLink s i link) ↔ StillCarries s i link := by
  unfold putLink
  by_cases hfound : (s.customers.find? link.customerId).isSome
  · rw [if_pos hfound]
    constructor
    · intro hafter hactive customer hcustomer
      have hmem : link ∈ (s.links.save link).rows := (Table.mem_save _ _ _).2 (.inl rfl)
      exact .inr (hafter.verified link hmem hactive customer hcustomer)
    · intro hcarries
      refine ⟨hsafe.once, ?_⟩
      intro other hother hactive customer hcustomer
      rcases (Table.mem_save _ _ _).1 hother with rfl | ⟨hother, -⟩
      · rcases hcarries hactive customer hcustomer with ⟨otp, hotp, hphone⟩ | hverified
        · -- the code the call has consumed is its user's
          have htracked := h.tracked i
          unfold consumedCode at hotp
          split at hotp
          · rename_i consumed hphase
            cases hotp
            rw [hphase] at htracked
            show Verified s.codes other.telegramUserId customer.phone
            rw [hown, hphone]
            exact htracked
          · cases hotp
        · exact hverified
      · exact hsafe.verified other hother hactive customer hcustomer
  · rw [if_neg hfound]
    have hnone := Option.not_isSome_iff_eq_none.1 hfound
    refine iff_of_true ⟨hsafe.once, hsafe.verified⟩ ?_
    intro _ customer hcustomer
    rw [hnone] at hcustomer
    cases hcustomer

theorem safe_edit_iff {customer : Customer} (hsafe : Safe s) :
    Safe { s.goto i .updated with customers := s.customers.save customer } ↔
      ∀ link ∈ s.links.rows, link.status = .Active → link.customerId = customer.id →
        Verified s.codes link.telegramUserId customer.phone := by
  constructor
  · intro hafter link hlink hactive hof
    refine hafter.verified link hlink hactive customer ?_
    show (s.customers.save customer).find? link.customerId = some customer
    rw [hof]
    exact Table.find?_save_self ..
  · intro hverified
    refine ⟨hsafe.once, ?_⟩
    intro link hlink hactive found hfound
    have hfound : (s.customers.save customer).find? link.customerId = some found := hfound
    rw [Table.find?_save] at hfound
    split at hfound
    · rename_i hid
      cases hfound
      exact hverified link hlink hactive hid.symm
    · exact hsafe.verified link hlink hactive found hfound

theorem safe_step_iff {C : Prop} (h : Base call s) (hsafe : Safe s)
    (hdoes : Does s i (call i).telegramUserId s' C) : Safe s' ↔ C := by
  cases hdoes with
  | idle => exact iff_of_true ⟨hsafe.once, hsafe.verified⟩ trivial
  | code hadds =>
    refine iff_of_true ⟨hsafe.once, ?_⟩ trivial
    intro link hlink hactive customer hcustomer
    exact (hsafe.verified link hlink hactive customer hcustomer).extend hadds.extended
  | create hfresh => exact safe_create_iff h hsafe hfresh
  | write hown => exact safe_putLink_iff h hsafe hown
  | edit => exact safe_edit_iff hsafe

/-- Links belong to their users: a link refers to a customer, and while only others make their
calls, in whatever order, the link of a user stays as it is. -/
theorem links_are_own (hashOtpCode : String → String) (call : Fin n → Call)
    (companies : Table Company) (otps : Table TelegramLinkOtp) {telegramUserId : String}
    {ls ls' : List (Fin n × Label)} {s s' : State n}
    (hrun : (machine hashOtpCode call).Run (start n companies otps) ls s)
    (hothers : (machine hashOtpCode call).RunWith
      (fun _ l => (call l.1).telegramUserId ≠ telegramUserId) s ls' s') :
    s'.links.find? telegramUserId = s.links.find? telegramUserId ∧
      ∀ link ∈ s'.links.rows, (s'.customers.find? link.customerId).isSome := by
  have hstart : Base call (start n companies otps) := by
    refine ⟨?_, fun i => trivial, fun i => not_mem_link rfl⟩
    intro link hlink
    cases hlink
  have hbase : Base call s := hrun.invariant hstart fun _ _ _ h _ hs => by
    obtain ⟨C, hdoes, -⟩ := does_step h hs
    exact base_step h hdoes
  suffices hkept : Base call s' ∧ s'.links.find? telegramUserId = s.links.find? telegramUserId by
    exact ⟨hkept.2, hkept.1.references⟩
  refine hothers.invariant (I := fun t => Base call t ∧
    t.links.find? telegramUserId = s.links.find? telegramUserId) ⟨hbase, rfl⟩ ?_
  rintro s₁ ⟨i, l⟩ s₂ ⟨h, hsame⟩ hother hs
  obtain ⟨C, hdoes, -⟩ := does_step h hs
  refine ⟨base_step h hdoes, Eq.trans ?_ hsame⟩
  cases hdoes with
  | write hown =>
    unfold putLink
    split
    · refine (Table.find?_save _ _ _).trans (if_neg fun hkey => hother ?_)
      exact hown.symm.trans hkey
    · rfl
  | _ => rfl

/-! Two users: each requests a code for the same phone and verifies it, and the first one
edits the profile. -/

namespace PhoneDemo

def companies : Table Company := .ofRows [{ id := 1, status := .Active, baseCurrency := "MMK" }]

def calls : Fin 6 → Call
  | 0 => .link (.requestLink "700" 1 "09 1" 11 "123456" 0) 21 "CUST-1"
  | 1 => .link (.verifyLinkAndGetCustomer "700" "123456" 1) 22 "CUST-2"
  | 2 => .updateMyInfo "700" (some "Ma Hla") none
  | 3 => .updateMyInfo "700" none (some "09 2")
  | 4 => .link (.requestLink "800" 1 "09 1" 12 "654321" 0) 23 "CUST-3"
  | 5 => .link (.verifyLinkAndGetCustomer "800" "654321" 1) 24 "CUST-4"

def request (i : Fin 6) : List (Fin 6 × Label) := [(i, .code .read), (i, .code .insert)]

def verify (i : Fin 6) : List (Fin 6 × Label) :=
  [(i, .code .read), (i, .code .reread), (i, .code .write), (i, .lookup none)]

def create (i : Fin 6) : List (Fin 6 × Label) :=
  [(i, .checkCreate), (i, .insertCustomer), (i, .findLink), (i, .insertLink)]

def edit (i : Fin 6) : List (Fin 6 × Label) :=
  [(i, .readLinked), (i, .readCustomer), (i, .rereadCustomer), (i, .writeCustomer)]

def nameEdited : List (Fin 6 × Label) := request 0 ++ verify 1 ++ create 1 ++ edit 2

def phoneEdited : List (Fin 6 × Label) := request 0 ++ verify 1 ++ create 1 ++ edit 3

def bothMiss : List (Fin 6 × Label) :=
  request 0 ++ request 4 ++ verify 1 ++ verify 5 ++ create 1 ++ create 5

end PhoneDemo

open PhoneDemo in
theorem links_are_own_second_user :
    ∃ s s' : State 6, (machine id calls).Run (start 6 companies .empty) (request 0 ++ verify 1 ++ create 1) s ∧
      (s'.links.find? "800").isSome ∧ s'.links.find? "700" = s.links.find? "700" := by
  let second : List (Fin 6 × Label) := request 4 ++
    [(5, .code .read), (5, .code .reread), (5, .code .write), (5, .lookup (some 22)), (5, .findLink),
      (5, .insertLink)]
  let C (_ : State 6) (l : Fin 6 × Label) := (calls l.1).telegramUserId ≠ "700"
  obtain ⟨s, hrun, hs⟩ := Machine.exists_runWith (machine id calls) (fun _ _ => True)
    (start 6 companies .empty) (request 0 ++ verify 1 ++ create 1)
    (fun s => ((machine id calls).execWith C s second).any fun s' => (s'.links.find? "800").isSome)
    (by decide +kernel)
  obtain ⟨s', hothers, hlinked⟩ := Machine.exists_runWith (machine id calls) C s second _ hs
  exact ⟨s, s', hrun, hlinked, (links_are_own id calls companies .empty hrun hothers).1⟩

end FashionErp.LinkedPhones
