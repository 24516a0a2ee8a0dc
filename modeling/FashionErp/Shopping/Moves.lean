/-
What one call of the engine can do to an order in the making.

`Deal` is the part of a session an order is made of: the cart, the submission and the
contact data.
-/
import FashionErp.Shopping.Shopping

namespace FashionErp

namespace Shopping

/-! ## Calls that return -/

@[simp] theorem except_bind_eq_ok {α β : Type} {x : Except Fault α} {f : α → Except Fault β}
    {b : β} : (x >>= f) = .ok b ↔ ∃ a, x = .ok a ∧ f a = .ok b := by
  constructor
  · intro h
    cases x with
    | error e => cases h
    | ok a => exact ⟨a, rfl, h⟩
  · rintro ⟨a, rfl, hf⟩
    exact hf

@[simp] theorem except_pure_eq_ok {α : Type} {a b : α} :
    (pure a : Except Fault α) = .ok b ↔ a = b := Except.ok.injEq a b ▸ Iff.rfl

@[simp] theorem orTypeError_eq_ok {α : Type} {o : Option α} {a : α} :
    orTypeError o = .ok a ↔ o = some a := by
  cases o with
  | none => simp [orTypeError]
  | some b => simp [orTypeError]

/-! ## What an order is made of -/

structure Deal where
  cart : List CartLine
  currency : Option String
  submission : Option Submission
  customerId : Option String
  name : Option String
  phone : Option String
  address : Option String
  profileDirty : Bool

def Shopper.deal (s : Shopper) : Deal :=
  ⟨s.cart, s.currency, s.submission, s.customerId, s.name, s.phone, s.address, s.profileDirty⟩

/-- What stays of a context from one request of an update to the next. -/
structure Thread where
  userId : String
  username : Option String
  eventId : String
  submissionId : Option String
  hops : ℕ

def Context.thread (c : Context) : Thread :=
  ⟨c.userId, c.username, c.eventId, c.submissionId, c.hops⟩

abbrev ordersPath : String := "/customer-portal/orders"

theorem detailPath_ne (id : String) : detailPath id ≠ ordersPath := by
  intro h
  have hprefix : "/customer-portal/catalog/".toList <+: (detailPath id).toList := by
    unfold detailPath
    rw [String.toList_append]
    exact List.prefix_append _ _
  rw [h] at hprefix
  revert hprefix
  decide

def Op.browses : Op → Bool
  | .validateCart | .profile | .createOrder => false
  | _ => true

def Button.submits (b : Button) : Prop := "cart:submit:".toList <+: b.data.toList

instance (b : Button) : Decidable b.submits := inferInstanceAs (Decidable (_ <+: _))

def Message.submits (m : Message) : Prop := ∃ row ∈ m.buttons, ∃ b ∈ row, b.submits

instance (m : Message) : Decidable m.submits :=
  inferInstanceAs (Decidable (∃ row ∈ m.buttons, ∃ b ∈ row, b.submits))

def NoSubmit (buttons : List (List Button)) : Prop := ∀ row ∈ buttons, ∀ b ∈ row, ¬ b.submits

theorem noSubmit_rows {buttons : List Button} (h : ∀ b ∈ buttons, ¬ b.submits) :
    NoSubmit (rows buttons) := by
  intro row hrow b hb
  obtain ⟨i, -, rfl⟩ := List.mem_map.1 hrow
  exact h b (List.mem_of_mem_drop (List.mem_of_mem_take hb))

def ValidQuantity (n : ℕ) : Prop := 1 ≤ n ∧ n ≤ MAX_QUANTITY

structure Context.Amounts (c : Context) : Prop where
  amount : c.op = some .quantity → ValidQuantity c.amount
  items : ∀ item ∈ c.legacyItems, ValidQuantity item.quantity

structure View where
  deal : Deal
  stage : Option Stage
  c : Context

def Turn.view (t : Turn) : View := ⟨t.s.deal, t.s.stage, t.c⟩

/-- The turn asks for nothing but the catalog, the account or the assistant, and shows
no checkout. -/
structure Plain (v v' : View) : Prop where
  stage : v'.stage = v.stage ∨ v'.stage ≠ some .checkout
  thread : v'.c.thread = v.c.thread
  pending : ∀ r, v'.c.request = some r → (v.c.request = some r ∧ v'.c.op = v.c.op) ∨
    ((∃ op, v'.c.op = some op ∧ op.browses) ∧ r.path ≠ ordersPath)
  messages : ∀ m ∈ v'.c.messages, m ∈ v.c.messages ∨ ¬ m.submits
  amounts : v.c.Amounts → v'.c.Amounts

/-- The turn leaves alone what an order is made of. -/
structure Quiet (v v' : View) : Prop extends Plain v v' where
  deal : v'.deal = v.deal

variable {v' : View} {t t' : Turn} {now : ℕ} {data : Option String}

theorem Plain.trans {v v'' : View} (h : Plain v v') (h' : Plain v' v'') : Plain v v'' where
  stage := by
    rcases h'.stage with hstage | hstage
    · rw [hstage]
      exact h.stage
    · exact .inr hstage
  thread := h'.thread.trans h.thread
  pending := by
    intro r hr
    rcases h'.pending r hr with ⟨hr', hop⟩ | hnew
    · rw [hop]
      exact h.pending r hr'
    · exact .inr hnew
  messages := by
    intro m hm
    rcases h'.messages m hm with hm' | hnot
    · exact h.messages m hm'
    · exact .inr hnot
  amounts := fun hamounts => h'.amounts (h.amounts hamounts)

theorem Quiet.trans {v v'' : View} (h : Quiet v v') (h' : Quiet v' v'') : Quiet v v'' where
  toPlain := h.toPlain.trans h'.toPlain
  deal := h'.deal.trans h.deal

theorem Quiet.refl (v : View) : Quiet v v where
  stage := .inl rfl
  thread := rfl
  pending := fun _ hr => .inl ⟨hr, rfl⟩
  messages := fun _ hm => .inl hm
  amounts := id
  deal := rfl

theorem Plain.ofSession {s : Shopper} (h : Plain (Turn.view { s := s, c := t.c }) v')
    (hstage : s.stage = t.s.stage ∨ s.stage ≠ some .checkout) : Plain t.view v' := by
  refine Plain.trans ?_ h
  exact {
    stage := hstage
    thread := rfl
    pending := fun _ hr => .inl ⟨hr, rfl⟩
    messages := fun _ hm => .inl hm
    amounts := id }

theorem Plain.ofContext {c : Context} (h : Plain (Turn.view { s := t.s, c := c }) v')
    (hthread : c.thread = t.c.thread) (hrequest : c.request = t.c.request) (hop : c.op = t.c.op)
    (hmessages : c.messages = t.c.messages) (hamounts : t.c.Amounts → c.Amounts) :
    Plain t.view v' := by
  refine Plain.trans ?_ h
  exact {
    stage := .inl rfl
    thread := hthread
    pending := fun _ hr => .inl ⟨hrequest ▸ hr, hop⟩
    messages := fun _ hm => .inl (hmessages ▸ hm)
    amounts := hamounts }

theorem Quiet.ofSession {s : Shopper} (h : Quiet (Turn.view { s := s, c := t.c }) v')
    (hdeal : s.deal = t.s.deal) (hstage : s.stage = t.s.stage ∨ s.stage ≠ some .checkout) :
    Quiet t.view v' where
  toPlain := h.toPlain.ofSession hstage
  deal := h.deal.trans hdeal

theorem Quiet.ofContext {c : Context} (h : Quiet (Turn.view { s := t.s, c := c }) v')
    (hthread : c.thread = t.c.thread) (hrequest : c.request = t.c.request) (hop : c.op = t.c.op)
    (hmessages : c.messages = t.c.messages) (hamounts : t.c.Amounts → c.Amounts) :
    Quiet t.view v' where
  toPlain := h.toPlain.ofContext hthread hrequest hop hmessages hamounts
  deal := h.deal

theorem quiet_say (t : Turn) (text : String) {buttons : List (List Button)}
    {photo : Option String} (h : NoSubmit buttons) : Quiet t.view (t.say text buttons photo).view where
  stage := .inl rfl
  thread := rfl
  pending := fun _ hr => by cases hr
  messages := by
    intro m hm
    rcases List.mem_append.1 hm with hm | hm
    · exact .inl hm
    · obtain rfl := List.mem_singleton.1 hm
      right
      rintro ⟨row, hrow, b, hb, hsubmits⟩
      exact h row hrow b hb hsubmits
  amounts := fun hamounts => ⟨hamounts.amount, hamounts.items⟩
  deal := rfl

variable {op : Op}

theorem quiet_request (t : Turn) {method path : String}
    {query : List (String × String)} {body : RequestBody} (hop : op.browses)
    (hpath : path ≠ ordersPath) (hamount : op = .quantity → ValidQuantity t.c.amount) :
    Quiet t.view (t.request op method path query body).view where
  stage := .inl rfl
  thread := rfl
  pending := by
    intro r hr
    cases hr
    exact .inr ⟨⟨op, rfl, hop⟩, hpath⟩
  messages := fun _ hm => by cases hm
  amounts := fun hamounts => ⟨fun h => hamount (Option.some.inj h), hamounts.items⟩
  deal := rfl

theorem quiet_detail (t : Turn) (id : String) (hop : op.browses)
    (hamount : op = .quantity → ValidQuantity t.c.amount) : Quiet t.view (t.detail id op).view :=
  quiet_request t hop (detailPath_ne id) hamount

/-! ## The helpers that only browse -/

theorem noSubmit_nil : NoSubmit [] := fun _ hrow => by cases hrow

theorem quiet_stale (t : Turn) : Quiet t.view t.stale.view := quiet_say t _ noSubmit_nil

theorem noSubmit_buy (id : String) : NoSubmit [[btn "ပြန်ရွေးမယ်" ("shop:buy:" ++ id)]] := by
  simp [NoSubmit, Button.submits]

theorem quiet_staleIn (t : Turn) : Quiet t.view t.staleIn.view := by
  apply quiet_say
  split
  · split
    · exact noSubmit_buy _
    · exact noSubmit_nil
  · exact noSubmit_nil

variable {heading : String}

theorem quiet_renderCart (h : t.renderCart now heading = .ok t') : Quiet t.view t'.view := by
  unfold Turn.renderCart at h
  dsimp only at h
  split at h
  · cases h
    refine Quiet.ofSession (quiet_say _ _ ?_) rfl (.inr nofun)
    simp [NoSubmit, browseButtons, Button.submits]
  · obtain ⟨amounts, -, h⟩ := except_bind_eq_ok.1 h
    cases h
    refine Quiet.ofSession (quiet_say _ _ ?_) rfl (.inr nofun)
    simp [NoSubmit, Button.submits]

theorem quiet_catalogCard {p : Product} {detailed : Bool} (h : t.catalogCard p detailed = .ok t') :
    Quiet t.view t'.view := by
  obtain ⟨prices, -, h⟩ := except_bind_eq_ok.1 h
  cases h
  apply quiet_say
  simp only [NoSubmit, List.mem_singleton, forall_eq]
  intro b hb
  rcases List.mem_cons.1 hb with rfl | hb
  · simp [Button.submits]
  · split at hb
    · cases hb
    · obtain rfl := List.mem_singleton.1 hb
      simp [Button.submits]

theorem quiet_discover (t : Turn) (now : ℕ) (page : Page) : Quiet t.view (t.discover now page).view := by
  unfold Turn.discover
  exact Quiet.ofSession (quiet_request _ rfl (by decide) nofun) rfl (.inr nofun)

theorem quiet_search (t : Turn) (preferences : Preferences) (now : ℕ) :
    Quiet t.view (t.search preferences now).view := by
  unfold Turn.search
  exact Quiet.ofSession (quiet_discover _ _ _) rfl (.inl rfl)

theorem quiet_discoveryControls (t : Turn) (next : Option Page) (now : ℕ) :
    Quiet t.view (t.discoveryControls next now).view := by
  unfold Turn.discoveryControls
  refine Quiet.ofSession (quiet_say _ _ (noSubmit_rows fun b hb => ?_)) rfl (.inl rfl)
  simp only [List.mem_append, List.mem_singleton] at hb
  rcases hb with (hb | hb) | rfl
  · split at hb
    · obtain rfl := List.mem_singleton.1 hb
      simp [Button.submits]
    · cases hb
  · split at hb
    · obtain rfl := List.mem_singleton.1 hb
      simp [Button.submits]
    · cases hb
  · simp [Button.submits]

theorem quiet_discoveryAction (t : Turn) (action : DiscoveryAction) (now : ℕ) :
    Quiet t.view (t.discoveryAction action now).view := by
  unfold Turn.discoveryAction
  split
  · exact quiet_say t _ noSubmit_nil
  · split
    · exact quiet_say t _ noSubmit_nil
    · cases action with
      | more =>
        dsimp only
        split
        · exact quiet_discover t now _
        · exact quiet_say t _ noSubmit_nil
      | reset =>
        dsimp only
        exact Quiet.ofSession (quiet_discover _ _ _) rfl (.inl rfl)
      | cheaper =>
        dsimp only
        split
        · split
          · exact Quiet.ofSession (quiet_discover _ _ _) rfl (.inl rfl)
          · exact quiet_say t _ noSubmit_nil
        · exact quiet_say t _ noSubmit_nil

theorem noSubmit_options (choices : List Attribute) (token : String) :
    NoSubmit (rows (choices.zipIdx.map fun (a, i) =>
      btn a.value ("shop:pick:" ++ token ++ ":" ++ toString i))) := by
  refine noSubmit_rows fun b hb => ?_
  obtain ⟨⟨a, i⟩, -, rfl⟩ := List.mem_map.1 hb
  simp [Button.submits]

section Engine

variable (lang : Language)

theorem quiet_options (t : Turn) (selection : Selection) (p : Product) (now : ℕ)
    (inspectKind : Option AttributeKind) :
    Quiet t.view (t.options lang selection p now inspectKind).view := by
  unfold Turn.options
  dsimp only
  split
  · exact Quiet.ofSession (quiet_say _ _ noSubmit_nil) rfl (.inr nofun)
  · split
    · split
      · exact quiet_say t _ noSubmit_nil
      · exact Quiet.ofSession (quiet_say _ _ (noSubmit_options _ _)) rfl (.inr nofun)
    · exact quiet_say t _ (by simp [NoSubmit, Button.submits])
    · exact Quiet.ofSession (quiet_say _ _ noSubmit_nil) rfl (.inr nofun)
    · exact quiet_say t _ noSubmit_nil

theorem quiet_askAssistant (t : Turn) : Quiet t.view (t.askAssistant lang).view := by
  unfold Turn.askAssistant
  exact Quiet.ofContext (quiet_request _ rfl (by decide) nofun) rfl rfl rfl rfl
    fun h => ⟨h.amount, h.items⟩

theorem quiet_assistantFallback (t : Turn) (now : ℕ) : Quiet t.view (t.assistantFallback lang now).view := by
  unfold Turn.assistantFallback
  apply Quiet.ofContext (c := { t.c with assistantFailed := true }) _ rfl rfl rfl rfl
    fun h => ⟨h.amount, h.items⟩
  dsimp only
  split
  · exact quiet_stale _
  · split
    · exact quiet_say _ _ noSubmit_nil
    · exact quiet_search _ _ _

theorem quiet_popular (t : Turn) (query : Option String) : Quiet t.view (t.popular lang query).view := by
  unfold Turn.popular
  refine Quiet.ofSession (Quiet.ofContext (quiet_request _ rfl (by decide) nofun)
    rfl rfl rfl rfl fun h => ⟨h.amount, h.items⟩) rfl (.inr nofun)

theorem quiet_assistantDetail (t : Turn) (hop : op.browses) (hquantity : op ≠ .quantity)
    (productId : Option String) (kind : Option AttributeKind) (now : ℕ) :
    Quiet t.view (t.assistantDetail lang op productId kind now).view := by
  unfold Turn.assistantDetail
  split
  · split
    · exact Quiet.ofContext (quiet_detail _ _ hop fun h => absurd h hquantity) rfl rfl rfl rfl
        fun h => ⟨h.amount, h.items⟩
    · exact quiet_say t _ noSubmit_nil
  · exact quiet_say t _ noSubmit_nil

theorem quiet_pickOption (t : Turn) (selection : Selection) (kind : AttributeKind)
    (chosen : Attribute) : Quiet t.view (t.pickOption selection kind chosen).view := by
  unfold Turn.pickOption
  exact Quiet.ofContext (quiet_detail _ _ rfl nofun) rfl rfl rfl rfl fun h => ⟨h.amount, h.items⟩

theorem quiet_missOption (t : Turn) (selection : Selection) (value : String) :
    Quiet t.view (t.missOption selection value).view := by
  unfold Turn.missOption
  exact Quiet.ofContext (quiet_detail _ _ rfl nofun) rfl rfl rfl rfl fun h => ⟨h.amount, h.items⟩

theorem quiet_askQuantity (t : Turn) (selection : Selection) {amount : ℕ}
    (hamount : ValidQuantity amount) : Quiet t.view (t.askQuantity selection amount).view := by
  unfold Turn.askQuantity
  exact Quiet.ofContext (quiet_detail _ _ rfl fun _ => hamount) rfl rfl rfl rfl
    fun h => ⟨fun _ => hamount, h.items⟩

theorem validate_quantity {p : Proposal} {n : ℕ} (h : validate p = some (.quantity n)) :
    ValidQuantity n := by
  unfold validate at h
  split at h
  · cases h
  · rename_i hwf
    obtain ⟨-, -, -, -, -, hquantity, -⟩ := not_not.1 hwf
    split at h
    all_goals first
      | cases h
      | (simp only [Option.map_eq_some_iff, reduceCtorEq, and_false, exists_false] at h)
    obtain ⟨m, hm, hn⟩ := h
    cases hn
    have hrange := hquantity m hm
    unfold ValidQuantity MAX_QUANTITY
    omega

theorem quiet_applyAssistant {proposal : Option Proposal}
    (h : t.applyAssistant lang proposal now = .ok t') : Quiet t.view t'.view := by
  unfold Turn.applyAssistant at h
  split at h
  · rename_i p action haction
    have haction : validate p = some action := haction
    apply Quiet.ofSession (s := remember t.s t.c.text p) _ rfl (.inl rfl)
    dsimp only at h
    cases action with
    | search query =>
      cases h
      exact quiet_search _ _ _
    | popular query =>
      cases h
      exact quiet_popular lang _ _
    | buy productId kind =>
      cases h
      exact quiet_assistantDetail lang _ rfl (by decide) _ _ _
    | options productId kind =>
      cases h
      exact quiet_assistantDetail lang _ rfl (by decide) _ _ _
    | cart => exact quiet_renderCart h
    | discovery action =>
      cases h
      exact quiet_discoveryAction _ _ _
    | reply text =>
      cases h
      exact quiet_say _ _ noSubmit_nil
    | handoff text =>
      cases h
      exact Quiet.ofSession (Quiet.ofContext (quiet_say _ _ noSubmit_nil) rfl rfl rfl rfl
        fun h => ⟨h.amount, h.items⟩) rfl (.inl rfl)
    | pick value =>
      dsimp only at h
      split at h
      · split at h
        · cases h
          exact quiet_pickOption _ _ _ _
        · cases h
          exact quiet_missOption _ _ _
      · cases h
        exact quiet_staleIn _
    | quantity amount =>
      dsimp only at h
      split at h
      · cases h
        exact quiet_askQuantity _ _ (validate_quantity haction)
      · cases h
        exact quiet_staleIn _
  · cases h
    exact quiet_assistantFallback lang _ _

/-! ## Updates -/

theorem quiet_menuCallback {parts : List String} (h : t.menuCallback lang parts now = .ok t') :
    Quiet t.view t'.view := by
  unfold Turn.menuCallback at h
  split at h
  case h_5 => exact quiet_renderCart h
  all_goals obtain rfl := except_pure_eq_ok.1 h
  · exact quiet_say _ _ (by simp [NoSubmit, Button.submits])
  · exact quiet_search _ _ _
  · exact quiet_say _ _ (by simp [NoSubmit, Button.submits])
  · exact quiet_search _ _ _
  · exact quiet_request _ rfl (by decide) nofun
  · exact quiet_say _ _ (by simp [NoSubmit, Button.submits])
  · exact quiet_stale _

theorem quiet_discoverCallback (t : Turn) (parts : List String) (now : ℕ) :
    Quiet t.view (t.discoverCallback parts now).view := by
  unfold Turn.discoverCallback
  split
  · exact quiet_stale t
  · split
    · exact quiet_stale t
    · split
      · exact quiet_discoveryAction _ _ _
      · exact quiet_discoveryAction _ _ _
      · exact quiet_discoveryAction _ _ _
      · exact quiet_stale t

theorem quiet_cardCallback (t : Turn) (id : Option String) (hop : op.browses)
    (hquantity : op ≠ .quantity) : Quiet t.view (t.cardCallback id op).view := by
  unfold Turn.cardCallback
  split
  · split
    · exact Quiet.ofContext (quiet_detail _ _ hop fun h => absurd h hquantity) rfl rfl rfl rfl
        fun h => ⟨h.amount, h.items⟩
    · exact quiet_staleIn t
  · exact quiet_staleIn t

theorem quiet_shopCallback (t : Turn) (parts : List String) (now : ℕ) :
    Quiet t.view (t.shopCallback parts now).view := by
  unfold Turn.shopCallback
  split
  · exact quiet_cardCallback t _ rfl nofun
  · exact quiet_cardCallback t _ rfl nofun
  · split
    · exact quiet_staleIn t
    · split
      · exact quiet_staleIn t
      · exact Quiet.ofSession (Quiet.ofContext (quiet_detail _ _ rfl nofun) rfl rfl rfl rfl
          fun h => ⟨h.amount, h.items⟩) rfl (.inl rfl)
  · dsimp only
    split
    · split
      · exact quiet_staleIn t
      · split
        · exact quiet_pickOption t _ _ _
        · exact quiet_stale t
    · exact quiet_staleIn t
  · exact quiet_stale t

/-- `m` is the checkout message for the cart and the currency, with the amounts the prices
come to. -/
def Message.Shows (m : Message) (cart : List CartLine) (currency : Option String) : Prop :=
  ∃ (s : Shopper) (heading token : String) (amounts : List Cents), s.cart = cart ∧
    s.currency = currency ∧ cart.mapM CartLine.amount = .ok amounts ∧
    m = { text := slice 3900 (checkoutText s heading amounts), buttons := checkoutButtons token,
          photo := none }

/-- What `checkout` leaves: the deal `d`, and either the question for the address or
the message for the cart. -/
structure CheckedOut (d : Deal) (v v' : View) : Prop where
  deal : v'.deal = d
  thread : v'.c.thread = v.c.thread
  request : v'.c.request = none
  amounts : v.c.Amounts → v'.c.Amounts
  shown : (v'.stage ≠ some .checkout ∧ ∀ m ∈ v'.c.messages, m ∈ v.c.messages ∨ ¬ m.submits) ∨
    (v'.stage = some .checkout ∧
      ∃ m, v'.c.messages = v.c.messages ++ [m] ∧ m.Shows d.cart d.currency)

theorem checkout_spec (h : t.checkout now heading = .ok t') :
    CheckedOut t.s.deal t.view t'.view := by
  unfold Turn.checkout at h
  dsimp only at h
  split at h
  · cases h
    exact {
      deal := rfl
      thread := rfl
      request := rfl
      amounts := fun h => ⟨h.amount, h.items⟩
      shown := by
        left
        refine ⟨nofun, fun m hm => ?_⟩
        rcases List.mem_append.1 hm with hm | hm
        · exact .inl hm
        · obtain rfl := List.mem_singleton.1 hm
          right
          rintro ⟨row, hrow, -⟩
          cases hrow }
  · obtain ⟨amounts, hamounts, h⟩ := except_bind_eq_ok.1 h
    cases h
    exact {
      deal := rfl
      thread := rfl
      request := rfl
      amounts := fun h => ⟨h.amount, h.items⟩
      shown := .inr ⟨rfl, _, rfl, _, heading, nonce t.s now, amounts, rfl, rfl, hamounts, rfl⟩ }

def Deal.enter (d : Deal) (field : ContactField) (value : String) : Deal :=
  match field with
  | .address => { d with address := some value }
  | .name => { d with name := some value, profileDirty := true }
  | .phone => { d with phone := some value, profileDirty := true }

theorem deal_enter (s : Shopper) (field : ContactField) (value : String) :
    (s.enter field value).deal = s.deal.enter field value := by
  cases field <;> rfl

def Context.submitting (c : Context) (first : CartLine) : Context :=
  let r : Request :=
    { method := "GET", path := detailPath first.productId, query := [("companyId", c.companyId)]
      body := {} }
  { c with
    submissionId := some c.eventId, checkIndex := 0, op := some .validateCart, request := some r
    messages := [] }

/-- What an update can do; `data` is what the pressed button holds, if it is one. -/
inductive Prepared (data : Option String) (v v' : View) : Prop
  | quiet (h : Quiet v v')
  /-- The cart is thrown away. -/
  | cleared (h : Plain v v') (hstage : v'.stage ≠ some .checkout)
      (hdeal : v'.deal = { v.deal with cart := [] })
  /-- The checkout is shown again. -/
  | checkedOut (h : CheckedOut v.deal v v')
  | entered (field : ContactField) (value : String) (hdata : data = none)
      (hstage : v.stage.bind Stage.contactField = some field)
      (hread : field.read v.c.text = some value) (h : CheckedOut (v.deal.enter field value) v v')
  | submitted (first : CartLine) (rest : List CartLine) (hcart : v.deal.cart = first :: rest)
      (hstage : v.stage = some .checkout) (hstage' : v'.stage = some .checkout)
      (hdeal : v'.deal = { v.deal with submission := some ⟨v.c.eventId, .checking⟩ })
      (hcontext : v'.c = v.c.submitting first)

theorem Prepared.ofStage {v : View} (h : Prepared data { v with stage := none } v') :
    Prepared data v v' := by
  have hleft : Quiet v { v with stage := none } :=
    ⟨⟨.inr nofun, rfl, fun _ hr => .inl ⟨hr, rfl⟩, fun _ hm => .inl hm, id⟩, rfl⟩
  cases h with
  | quiet h => exact .quiet (hleft.trans h)
  | cleared h hstage hdeal => exact .cleared (hleft.toPlain.trans h) hstage hdeal
  | checkedOut h => exact .checkedOut ⟨h.deal, h.thread, h.request, h.amounts, h.shown⟩
  | entered field value hdata hfield => cases hfield
  | submitted first rest hcons hstage => cases hstage

theorem prepared_checkout (h : t.checkout now heading = .ok t') : Prepared data t.view t'.view :=
  .checkedOut (checkout_spec h)

theorem prepared_cartCallback {parts : List String} (h : t.cartCallback parts now = .ok t') :
    Prepared data t.view t'.view := by
  unfold Turn.cartCallback at h
  split at h
  · cases h
    exact .quiet (quiet_stale t)
  · split at h
    · -- `cancel`
      cases h
      exact .cleared (Plain.ofSession (quiet_say _ _ noSubmit_nil).toPlain (.inr nofun)) nofun rfl
    · cases h
      exact .quiet (Quiet.ofSession (quiet_say _ _ noSubmit_nil) rfl (.inr nofun))
    · exact .quiet (quiet_renderCart h)
    · cases h
      exact .quiet (quiet_request _ rfl (by decide) nofun)
    · cases h
      exact .quiet (Quiet.ofSession (quiet_say _ _ noSubmit_nil) rfl (.inr nofun))
    · cases h
      exact .quiet (Quiet.ofSession (quiet_say _ _ noSubmit_nil) rfl (.inr nofun))
    · cases h
      exact .quiet (Quiet.ofSession (quiet_say _ _ noSubmit_nil) rfl (.inr nofun))
    · -- `submit`
      split at h
      · exact prepared_checkout h
      · rename_i first rest hsubmit hcart hready
        cases h
        simp only [not_or, ne_eq, not_not] at hready
        exact .submitted first rest hcart hready.1 hready.1 rfl rfl
    · cases h
      exact .quiet (quiet_stale t)

theorem prepared_callback (data : Option String) {pressed : String}
    (h : t.callback lang pressed now = .ok t') : Prepared data t.view t'.view := by
  unfold Turn.callback at h
  dsimp only at h
  split at h
  · exact .quiet (quiet_menuCallback lang h)
  · cases h
    exact .quiet (quiet_discoverCallback t _ _)
  · cases h
    exact .quiet (quiet_shopCallback t _ _)
  · exact prepared_cartCallback h
  · cases h
    exact .quiet (quiet_stale t)

theorem quiet_followup (t : Turn) (config : Config) (followup : Followup) (now : ℕ) :
    Quiet t.view (t.followup lang config followup now).view := by
  have hknown {op : Op} (id : String) (hop : op.browses) (hquantity : op ≠ .quantity) :
      Quiet t.view (Turn.detail { t with c := { t.c with optionKind := followup.kind } } id op).view :=
    Quiet.ofContext (quiet_detail _ _ hop fun h => absurd h hquantity) rfl rfl rfl rfl
      fun h => ⟨h.amount, h.items⟩
  have hunknown (text : String) :
      Quiet t.view (if config.assistantEnabled then t.askAssistant lang else t.say text).view := by
    split
    · exact quiet_askAssistant lang t
    · exact quiet_say t _ noSubmit_nil
  unfold Turn.followup
  dsimp only
  split
  · exact quiet_discoveryAction t _ _
  · exact quiet_discoveryAction t _ _
  · exact quiet_discoveryAction t _ _
  all_goals
    split
    · exact hknown _ rfl (by decide)
    · exact hunknown _

theorem quiet_answerOption {selection : Selection} (h : t.answerOption lang selection = some t') :
    Quiet t.view t'.view := by
  unfold Turn.answerOption at h
  dsimp only at h
  split at h
  · cases h
    exact quiet_pickOption t _ _ _
  · split at h
    · cases h
      exact quiet_missOption t _ _
    · cases h

theorem quiet_freeText (t : Turn) (config : Config) (now : ℕ) :
    Quiet t.view (t.freeText lang config now).view := by
  unfold Turn.freeText
  dsimp only
  split
  · exact quiet_say t _ noSubmit_nil
  · split
    · exact quiet_askAssistant lang t
    · split
      · exact quiet_request t rfl (by decide) nofun
      · exact quiet_search t _ _

theorem quiet_plainText (t : Turn) (config : Config) (now : ℕ) :
    Quiet t.view (t.plainText lang config now).view := by
  unfold Turn.plainText
  split
  · exact quiet_followup lang t _ _ _
  · split
    · split
      · rename_i n hn
        exact quiet_askQuantity t _ (quantity_bounds hn)
      · split
        · exact quiet_askAssistant lang t
        · exact quiet_say t _ noSubmit_nil
    · rename_i selection _ _
      cases hanswer : t.answerOption lang selection with
      | none => exact quiet_freeText lang t _ _
      | some t' => exact quiet_answerOption lang hanswer
    · exact quiet_freeText lang t _ _

theorem quiet_cartCommand {rest : String} (h : t.cartCommand lang rest now = .ok t') :
    Quiet t.view t'.view := by
  unfold Turn.cartCommand at h
  dsimp only at h
  split at h
  · exact quiet_renderCart h
  · cases h
    apply quiet_say
    split
    · simp [NoSubmit, Button.submits]
    · exact noSubmit_nil

theorem orderItem_quantity {part : String} {item : OrderItem} (h : orderItem part = some item) :
    ValidQuantity item.quantity := by
  unfold orderItem at h
  dsimp only at h
  split at h
  · split at h
    · obtain ⟨n, hn, rfl⟩ := Option.map_eq_some_iff.1 h
      exact quantity_bounds hn
    · cases h
  · cases h

theorem eq_map_some_of_mapM {α : Type} {l : List (Option α)} {values : List α}
    (h : l.mapM id = some values) : l = values.map some := by
  induction l generalizing values with
  | nil =>
    cases h
    rfl
  | cons o l ih =>
    simp only [List.mapM_cons, id_eq, Option.bind_eq_bind, Option.bind_eq_some_iff,
      Option.pure_def, Option.some.injEq] at h
    obtain ⟨value, rfl, rest, hrest, rfl⟩ := h
    rw [ih hrest]
    rfl

theorem orderItems_quantity {rest : String} {items : List OrderItem}
    (h : orderItems rest = some items) : ∀ item ∈ items, ValidQuantity item.quantity := by
  unfold orderItems at h
  dsimp only at h
  split at h
  · cases h
  · intro item hitem
    have hread : some item ∈ (split ',' rest).map orderItem := by
      rw [eq_map_some_of_mapM h]
      exact List.mem_map_of_mem hitem
    obtain ⟨part, -, hpart⟩ := List.mem_map.1 hread
    exact orderItem_quantity hpart

theorem quiet_orderCommand (t : Turn) (rest : String) : Quiet t.view (t.orderCommand rest).view := by
  unfold Turn.orderCommand
  split
  · rename_i first items hitems
    unfold Turn.askLegacy
    exact Quiet.ofContext (quiet_request _ rfl (by decide) nofun) rfl rfl rfl rfl
      fun h => ⟨h.amount, orderItems_quantity hitems⟩
  · exact quiet_say t _ noSubmit_nil

variable {config : Config}

theorem prepared_text (h : t.text lang config now = .ok t') : Prepared none t.view t'.view := by
  unfold Turn.text at h
  dsimp only at h
  split at h
  · cases h
    exact .quiet (quiet_say t _ (by simp [NoSubmit, Button.submits]))
  split at h
  · cases h
    exact .quiet (quiet_search t _ _)
  split at h
  · cases h
    exact .quiet (quiet_say t _ (by simp [NoSubmit, Button.submits]))
  split at h
  · cases h
    exact .quiet (quiet_say t _ (by simp [NoSubmit, Button.submits]))
  split at h
  · exact .quiet (quiet_cartCommand lang h)
  split at h
  · cases h
    exact .quiet (quiet_request t rfl (by decide) nofun)
  split at h
  · cases h
    exact .quiet (quiet_request t rfl (by decide) nofun)
  split at h
  · cases h
    exact .quiet (quiet_orderCommand t _)
  split at h
  · rename_i field hfield
    unfold Turn.enterContact at h
    split at h
    · cases h
      exact .quiet (quiet_say t _ noSubmit_nil)
    · rename_i value hvalue
      have hout := checkout_spec h
      exact .entered field value rfl hfield hvalue
        ⟨hout.deal.trans (deal_enter _ _ _), hout.thread, hout.request, hout.amounts, by
          rw [show t.view.deal = t.s.deal from rfl, ← deal_enter]
          exact hout.shown⟩
  · cases h
    exact .quiet (quiet_plainText lang t _ _)

/-- What an update does to a session it finds. -/
theorem prepare_spec (h : t.prepare lang config data now = .ok t') :
    Prepared data t.view t'.view := by
  unfold Turn.prepare at h
  dsimp only at h
  split at h
  · cases h
    exact .quiet (Quiet.refl _)
  split at h
  · cases h
    exact .quiet (Quiet.ofSession (quiet_say _ _ noSubmit_nil) rfl (.inl rfl))
  · -- The update is noted, and a selection that has been left alone is given up.
    split at h
    · rename_i pressed
      have hprepared := prepared_callback lang (some pressed) h
      split at hprepared
      · exact Prepared.ofStage hprepared
      · exact hprepared
    · have hprepared := prepared_text lang h
      split at hprepared
      · exact Prepared.ofStage hprepared
      · exact hprepared

/-- While an order is being submitted an update does nothing. -/
theorem prepare_waiting (h : t.prepare lang config data now = .ok t')
    (hwaiting : t.s.submission.isSome) (hrequest : t.c.request = none) :
    Quiet t.view t'.view ∧ t'.c.request = none := by
  unfold Turn.prepare at h
  dsimp only at h
  split at h
  · cases h
    exact ⟨Quiet.refl _, hrequest⟩
  cases h
  exact ⟨Quiet.ofSession (quiet_say _ _ noSubmit_nil) rfl (.inl rfl), rfl⟩

end Engine

end Shopping

end FashionErp
