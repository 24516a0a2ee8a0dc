/-
What the answer to a request can do to an order in the making.

`Responded` lists the moves of `respond`, each with what the answer had to say for it: a
variant that is added to the cart, an account that is linked, and the steps of a
submission, from one line to the next and on to the order.
-/
import FashionErp.Shopping.Moves

namespace FashionErp

namespace Shopping

/-! ## Lines that are added -/

/-- The product that the answer to the request of `c` prices a line of the cart by. -/
def pricedBy (lang : Language) (c : Context) (body : Option Body) : Option Product :=
  match c.op with
  | some .quantity | some .validateCart => body.bind Body.product
  | some .legacy =>
    body.bind fun b => c.legacyItems[c.legacyIndex]?.bind fun item =>
      (findSku lang (b.products.getD []) item.sku).map Prod.fst
  | _ => none

variable {p : Product} {t t' : Turn} {now : ℕ} {response : Response} {products : List Product}
  {variant : Variant}

theorem findSku_mem {lang : Language} {sku : String}
    (h : findSku lang products sku = some (p, variant)) : p ∈ products ∧ variant ∈ p.variants := by
  obtain ⟨p', hp, hfound⟩ := List.exists_of_findSome?_eq_some h
  obtain ⟨v, hv, heq⟩ := Option.map_eq_some_iff.1 hfound
  cases heq
  exact ⟨hp, List.mem_of_find?_eq_some hv⟩

/-- A variant has been put into the cart, within what is in stock. -/
structure Added (p : Product) (variant : Variant) (amount : ℕ) (v v' : View) : Prop where
  plain : Plain v v'
  stage : v'.stage ≠ some .checkout
  deal : v'.deal =
    { v.deal with cart := addLine v.deal.cart p variant amount, currency := some p.currency }
  stock : (quantityOf v.deal.cart variant.sku + amount : ℕ) ≤ variant.quantityAvailable
  quantity : quantityOf v.deal.cart variant.sku + amount ≤ MAX_QUANTITY
  currency : truthy v.deal.currency = none ∨ v.deal.cart = [] ∨ v.deal.currency = some p.currency
  lines : (v.deal.cart.find? fun line => line.sku = variant.sku) = none →
    v.deal.cart.length < MAX_LINES
  prices : ∃ amounts, (addLine v.deal.cart p variant amount).mapM CartLine.amount = .ok amounts

theorem Added.trans {amount : ℕ} {v v' v'' : View}
    (h : Added p variant amount v v') (hq : Quiet v' v'') : Added p variant amount v v'' where
  plain := h.plain.trans hq.toPlain
  stage := by
    rcases hq.stage with hstage | hstage
    · rw [hstage]
      exact h.stage
    · exact hstage
  deal := hq.deal.trans h.deal
  stock := h.stock
  quantity := h.quantity
  currency := h.currency
  lines := h.lines
  prices := h.prices

theorem renderCart_spec {heading : String} (h : t.renderCart now heading = .ok t') :
    t'.view.stage ≠ some .checkout ∧ t'.c.request = none ∧
      ∃ amounts, t.s.cart.mapM CartLine.amount = .ok amounts := by
  unfold Turn.renderCart at h
  dsimp only at h
  split at h
  · rename_i hempty
    cases h
    exact ⟨nofun, rfl, [], by rw [hempty]; rfl⟩
  · obtain ⟨amounts, hamounts, h⟩ := except_bind_eq_ok.1 h
    cases h
    exact ⟨nofun, rfl, amounts, hamounts⟩

theorem addVariant_spec {amount : ℕ} (h : t.addVariant p variant amount now = .ok t') :
    Quiet t.view t'.view ∨ Added p variant amount t.view t'.view := by
  have hsaid (text : String) :
      Quiet t.view (Turn.say { t with c := { t.c with itemAdded := false } } text).view :=
    Quiet.ofContext (quiet_say _ _ noSubmit_nil) rfl rfl rfl rfl fun h => ⟨h.amount, h.items⟩
  unfold Turn.addVariant at h
  dsimp only at h
  split at h
  · cases h
    exact .inl (hsaid _)
  split at h
  · cases h
    exact .inl (hsaid _)
  split at h
  · cases h
    exact .inl (hsaid _)
  · rename_i hstock hcurrency hlines
    right
    have hq := quiet_renderCart h
    obtain ⟨hstage, -, hprices⟩ := renderCart_spec h
    rw [not_or, not_lt, not_lt] at hstock
    exact {
      plain := ⟨.inr hstage, hq.thread, hq.pending, hq.messages,
        fun hamounts => hq.amounts ⟨hamounts.amount, hamounts.items⟩⟩
      stage := hstage
      deal := hq.deal
      stock := hstock.1
      quantity := hstock.2
      currency := by
        by_cases hnone : truthy t.s.currency = none
        · exact .inl hnone
        · by_cases hempty : t.s.cart = []
          · exact .inr (.inl hempty)
          · right
            right
            by_contra hother
            exact hcurrency ⟨Option.isSome_iff_ne_none.2 hnone, hempty, hother⟩
      lines := fun hnew => by
        by_contra hfull
        exact hlines ⟨Option.isNone_iff_eq_none.2 hnew, not_lt.1 hfull⟩
      prices := hprices }

/-! ## The customer behind the session -/

def Deal.verify (d : Deal) (body : Body) : Deal :=
  { d with
    customerId := body.customerId, name := body.customerName, phone := none, address := none
    profileDirty := false }

def Deal.checkAccount (d : Deal) (body : Body) : Deal :=
  { d with customerId := body.customerId, name := body.name, phone := body.phone }

def Deal.OtherCustomer (d : Deal) (body : Body) : Prop :=
  (truthy d.customerId).isSome ∧ (truthy body.customerId).isSome ∧ d.customerId ≠ body.customerId

instance (d : Deal) (body : Body) : Decidable (d.OtherCustomer body) :=
  inferInstanceAs (Decidable (_ ∧ _ ∧ _))

def Deal.link (d : Deal) (body : Body) : Deal :=
  let d := if d.OtherCustomer body then { d with address := none, profileDirty := false } else d
  let d := { d with customerId := body.customerId }
  if d.profileDirty then d else { d with name := body.name, phone := body.phone }

theorem deal_linkCustomer (s : Shopper) (body : Body) :
    (s.linkCustomer body).deal = s.deal.link body := by
  unfold Shopper.linkCustomer Deal.link Deal.OtherCustomer Shopper.deal
  dsimp only
  by_cases hother : (truthy s.customerId).isSome ∧ (truthy body.customerId).isSome
      ∧ s.customerId ≠ body.customerId
  · simp [hother]
  · cases hdirty : s.profileDirty with
    | true => simp [hother, hdirty]
    | false => simp [hother, hdirty]

/-! ## The steps of a submission -/

/-- The line is as the shopper has seen it: the detail has its variant, with enough in
stock and at the same price. -/
def Confirmed (line : CartLine) (p : Product) : Prop :=
  ∃ variant, line.variantIn p = some variant ∧ (line.quantity : ℤ) ≤ variant.quantityAvailable ∧
    ∃ price, cents variant.unitPrice = .ok price ∧ cents line.unitPrice = .ok price

/-- The turn asks for `r` as a step of the submission. -/
structure Asks (op : Op) (r : Request) (v v' : View) : Prop where
  stage : v'.stage = v.stage
  thread : v'.c.thread = v.c.thread
  op : v'.c.op = some op
  request : v'.c.request = some r
  messages : v'.c.messages = []
  items : v'.c.legacyItems = v.c.legacyItems

structure OrderFor (c : Context) (d : Deal) (r : Request) : Prop where
  path : r.path = ordersPath
  telegramUserId : r.body.telegramUserId = some c.userId
  telegramUsername : r.body.telegramUsername = c.username
  address : r.body.deliveryAddress = d.address
  items : r.body.items = some (orderItemsOf d.cart)

def Deal.setStatus (d : Deal) (status : SubmissionStatus) : Deal :=
  { d with submission := d.submission.map fun submission => { submission with status := status } }

/-- What an answer can do. -/
inductive Responded (lang : Language) (response : Response) (v v' : View) : Prop
  /-- A submission gets no further this way. -/
  | quiet (h : Quiet v v') (hasks : v'.c.request = none ∨ ∃ op, v.c.op = some op ∧ op.browses)
  | added (p : Product) (variant : Variant) (amount : ℕ)
      (hpriced : pricedBy lang v.c response.body = some p)
      (hvariant : variant ∈ p.variants) (hamount : v.c.Amounts → ValidQuantity amount)
      (h : Added p variant amount v v')
  | verified (b : Body) (hok : response.ok) (hbody : response.body = some b) (hop : v.c.op = some .verify) (h : Plain v v')
      (hstage : v'.stage ≠ some .checkout) (hdeal : v'.deal = v.deal.verify b)
  | accountChecked (b : Body) (hok : response.ok) (hbody : response.body = some b) (hop : v.c.op = some .checkAccount)
      (h : Plain v v') (hdeal : v'.deal = v.deal.checkAccount b)
  | linked (b : Body) (hok : response.ok) (hbody : response.body = some b) (hop : v.c.op = some .checkout)
      (h : CheckedOut (v.deal.link b) v v')
  | released (h : Plain v v') (hdeal : v'.deal = { v.deal with submission := none }) (hrequest : v'.c.request = none)
  | repriced (p : Product) (line : CartLine) (variant : Variant) (price : Cents)
      (hop : v.c.op = some .validateCart) (hok : response.ok)
      (hbody : response.body.bind Body.product = some p)
      (hline : v.deal.cart[v.c.checkIndex]? = some line) (hvariant : line.variantIn p = some variant)
      (hprice : cents variant.unitPrice = .ok price) (hother : cents line.unitPrice ≠ .ok price)
      (h : CheckedOut { v.deal with
        cart := v.deal.cart.set v.c.checkIndex { line with unitPrice := variant.unitPrice }
        submission := none } v v')
  | nextLine (p : Product) (line next : CartLine) (r : Request)
      (hop : v.c.op = some .validateCart) (hbody : response.body.bind Body.product = some p)
      (hline : v.deal.cart[v.c.checkIndex]? = some line) (hconfirmed : Confirmed line p)
      (hnext : v.deal.cart[v.c.checkIndex + 1]? = some next) (hpath : r.path = detailPath next.productId)
      (hindex : v'.c.checkIndex = v.c.checkIndex + 1) (hdeal : v'.deal = v.deal)
      (h : Asks .validateCart r v v')
  | profileAsked (p : Product) (line : CartLine) (r : Request)
      (hop : v.c.op = some .validateCart) (hbody : response.body.bind Body.product = some p)
      (hline : v.deal.cart[v.c.checkIndex]? = some line) (hconfirmed : Confirmed line p)
      (hlast : v.deal.cart[v.c.checkIndex + 1]? = none) (hdirty : v.deal.profileDirty = true)
      (hpath : r.path ≠ ordersPath) (hname : r.body.name = v.deal.name)
      (hphone : r.body.phone = v.deal.phone) (hdeal : v'.deal = v.deal) (h : Asks .profile r v v')
  | sent (p : Product) (line : CartLine) (r : Request)
      (hop : v.c.op = some .validateCart) (hbody : response.body.bind Body.product = some p)
      (hline : v.deal.cart[v.c.checkIndex]? = some line) (hconfirmed : Confirmed line p)
      (hlast : v.deal.cart[v.c.checkIndex + 1]? = none) (hdirty : v.deal.profileDirty = false)
      (horder : OrderFor v.c v.deal r)
      (hsubmission : v.deal.submission.isSome) (hdeal : v'.deal = v.deal.setStatus .sending)
      (h : Asks .createOrder r v v')
  | sentAfterProfile (r : Request) (hop : v.c.op = some .profile)
      (horder : OrderFor v.c v.deal r) (hsubmission : v.deal.submission.isSome)
      (hdeal : v'.deal = { v.deal with profileDirty := false }.setStatus .sending)
      (h : Asks .createOrder r v v')
  | uncertain (hop : v.c.op = some .createOrder) (h : Plain v v') (hrequest : v'.c.request = none)
      (hdeal : v'.deal = v.deal.setStatus .uncertain)
  | ordered (hop : v.c.op = some .createOrder) (h : Plain v v') (hrequest : v'.c.request = none)
      (hstage : v'.stage ≠ some .checkout)
      (hdeal : v'.deal = { v.deal with cart := [], submission := none })

/-! ## The branches of `respond` -/

theorem quiet_catalogCards (h : products.foldlM (fun (t : Turn) p => t.catalogCard p) t = .ok t') :
    Quiet t.view t'.view := by
  induction products generalizing t with
  | nil =>
    cases h
    exact Quiet.refl _
  | cons p products ih =>
    obtain ⟨t₁, hcard, hrest⟩ := except_bind_eq_ok.1 h
    exact (quiet_catalogCard hcard).trans (ih hrest)

theorem quiet_sayNothingFound (t : Turn) (body : Body) : Quiet t.view (t.sayNothingFound body).view := by
  unfold Turn.sayNothingFound
  split
  · exact quiet_say t _ noSubmit_nil
  split
  · exact quiet_say t _ noSubmit_nil
  split
  · exact quiet_say t _ noSubmit_nil
  · exact quiet_say t _ noSubmit_nil

theorem quiet_showProducts {body : Body}
    (h : t.showProducts products body now = .ok t') : Quiet t.view t'.view := by
  obtain ⟨t₁, hcards, h⟩ := except_bind_eq_ok.1 h
  obtain ⟨prices, -, h⟩ := except_bind_eq_ok.1 h
  cases h
  suffices hshown : Quiet t.view t₁.view by
    exact hshown.trans (Quiet.ofSession (quiet_discoveryControls _ _ _) rfl (.inl rfl))
  split at hcards
  · exact (quiet_sayNothingFound t body).trans (quiet_catalogCards hcards)
  · exact quiet_catalogCards hcards

theorem quiet_applySearch {body : Option Body} (h : t.applySearch body now = .ok t') :
    Quiet t.view t'.view := by
  unfold Turn.applySearch at h
  split at h
  · rename_i body found _
    refine Quiet.ofSession (s := t.s.noteProducts (found.take 3) now) ?_ rfl (.inr nofun)
    dsimp only at h
    split at h
    · cases h
      exact Quiet.ofContext (quiet_discover _ _ _) rfl rfl rfl rfl fun h => ⟨h.amount, h.items⟩
    · exact quiet_showProducts h
  · cases h
    exact quiet_say t _ noSubmit_nil

/-! ### The submission -/

theorem submitRequest_spec (h : t.submitRequest = .ok t') :
    t.s.submission.isSome ∧ t'.s.deal = t.s.deal.setStatus .sending ∧
      ∃ r, OrderFor t.c t.s.deal r ∧ Asks .createOrder r t.view t'.view := by
  obtain ⟨submission, hsubmission, h⟩ := except_bind_eq_ok.1 h
  rw [orTypeError_eq_ok] at hsubmission
  cases h
  refine ⟨by rw [hsubmission]; rfl, ?_, _, ⟨rfl, rfl, rfl, rfl, rfl⟩, ⟨rfl, rfl, rfl, rfl, rfl, rfl⟩⟩
  unfold Deal.setStatus
  rw [show t.s.deal.submission = some submission from hsubmission]
  rfl

theorem abortSubmission_spec (h : t.abortSubmission now = .ok t') :
    Plain t.view t'.view ∧ t'.s.deal = { t.s.deal with submission := none } ∧ t'.c.request = none := by
  have hq := quiet_renderCart h
  obtain ⟨hstage, hrequest, -⟩ := renderCart_spec h
  exact ⟨⟨.inr hstage, hq.thread, hq.pending, hq.messages, hq.amounts⟩, hq.deal,
    hrequest⟩

theorem leaveUncertain_spec {text : String} (h : t.leaveUncertain text = .ok t') :
    Plain t.view t'.view ∧ t'.c.request = none ∧ t'.s.deal = t.s.deal.setStatus .uncertain := by
  obtain ⟨submission, hsubmission, h⟩ := except_bind_eq_ok.1 h
  rw [orTypeError_eq_ok] at hsubmission
  cases h
  refine ⟨Plain.ofSession (quiet_say _ _ noSubmit_nil).toPlain (.inl rfl), rfl, ?_⟩
  unfold Deal.setStatus
  rw [show t.s.deal.submission = some submission from hsubmission]
  rfl

theorem accountPath_ne : "/customer-portal/me" ≠ ordersPath := by decide

theorem responded_lineChecked {lang : Language} {line : CartLine}
    (hop : t.c.op = some .validateCart) (hbody : response.body.bind Body.product = some p)
    (hline : t.s.cart[t.c.checkIndex]? = some line) (hconfirmed : Confirmed line p)
    (h : t.lineChecked = .ok t') : Responded lang response t.view t'.view := by
  unfold Turn.lineChecked at h
  dsimp only at h
  split at h
  · rename_i next hnext
    cases h
    exact .nextLine p line next _ hop hbody hline hconfirmed hnext rfl rfl rfl
      ⟨rfl, rfl, rfl, rfl, rfl, rfl⟩
  · rename_i hlast
    split at h
    · rename_i hdirty
      cases h
      exact .profileAsked p line _ hop hbody hline hconfirmed hlast hdirty accountPath_ne rfl rfl
        rfl ⟨rfl, rfl, rfl, rfl, rfl, rfl⟩
    · rename_i hclean
      obtain ⟨hsubmission, hdeal, r, horder, hasks⟩ := submitRequest_spec h
      exact .sent p line r hop hbody hline hconfirmed hlast (Bool.not_eq_true _ ▸ hclean)
        ⟨horder.path, horder.telegramUserId, horder.telegramUsername, horder.address, horder.items⟩
        hsubmission hdeal
        ⟨hasks.stage, hasks.thread, hasks.op, hasks.request, hasks.messages, hasks.items⟩

theorem responded_validation {lang : Language} (hop : t.c.op = some .validateCart)
    (hok : response.ok) (hbody : response.body.bind Body.product = some p)
    (h : t.applyValidation p now = .ok t') : Responded lang response t.view t'.view := by
  have habort (h : t.abortSubmission now = .ok t') : Responded lang response t.view t'.view := by
    obtain ⟨hplain, hdeal, hrequest⟩ := abortSubmission_spec h
    exact .released hplain hdeal hrequest
  unfold Turn.applyValidation at h
  split at h
  · split at h
    · exact habort h
    · cases h
  · rename_i line hline
    split at h
    · exact habort h
    · rename_i variant hvariant
      split at h
      · exact habort h
      · rename_i hstock
        obtain ⟨price, hprice, h⟩ := except_bind_eq_ok.1 h
        obtain ⟨shown, hshown, h⟩ := except_bind_eq_ok.1 h
        split at h
        · rename_i hne
          have hout := checkout_spec h
          refine .repriced p line variant price hop hok hbody hline hvariant hprice ?_
            ⟨hout.deal, hout.thread, hout.request, hout.amounts, hout.shown⟩
          rw [hshown]
          exact fun heq => hne (Except.ok.inj heq).symm
        · rename_i heq
          obtain rfl := not_not.1 heq
          exact responded_lineChecked hop hbody hline
            ⟨variant, hvariant, not_lt.1 hstock, price, hprice, hshown⟩ h

theorem responded_order {lang : Language} {b : Body} (hop : t.c.op = some .createOrder)
    (h : t.applyOrder b now = .ok t') : Responded lang response t.view t'.view := by
  unfold Turn.applyOrder at h
  split at h
  · cases h
    refine .ordered hop (Plain.ofSession (Plain.ofContext (quiet_say _ _ noSubmit_nil).toPlain
      rfl rfl rfl rfl ?_) (.inr nofun)) rfl nofun rfl
    exact fun hamounts => ⟨hamounts.amount, hamounts.items⟩
  · obtain ⟨hplain, hrequest, hdeal⟩ := leaveUncertain_spec h
    exact .uncertain hop hplain hrequest hdeal

theorem responded_failure {lang : Language} {status : ℕ} (h : t.applyFailure status = .ok t') :
    Responded lang response t.view t'.view := by
  unfold Turn.applyFailure at h
  split at h
  · rename_i hop
    obtain ⟨hplain, hrequest, hdeal⟩ := leaveUncertain_spec h
    exact .uncertain hop hplain hrequest hdeal
  · rename_i hop
    have hsaid (text : String) : Responded lang response t.view
        (Turn.say { t with s := { t.s with submission := none } } text).view :=
      .released (Plain.ofSession (quiet_say _ _ noSubmit_nil).toPlain (.inl rfl)) rfl rfl
    dsimp only at h
    split at h
    · cases h
      exact hsaid _
    split at h
    · cases h
      exact hsaid _
    · cases h
      exact hsaid _

section Engine

variable (lang : Language)

theorem quiet_openOptions (t : Turn) (op : Op) (selection : Selection) (p : Product) (now : ℕ) :
    Quiet t.view (t.openOptions lang op selection p now).view := by
  unfold Turn.openOptions
  exact Quiet.ofSession (quiet_options lang _ _ _ _ _) rfl (.inl rfl)

theorem quiet_applyOptions {op : Op} (h : t.applyOptions lang op p now = .ok t') :
    Quiet t.view t'.view := by
  refine Quiet.ofSession (s := { t.s with focused := some p.id }) ?_ rfl (.inl rfl)
  unfold Turn.applyOptions at h
  dsimp only at h
  split at h
  · cases h
    exact quiet_openOptions lang _ _ _ _ _
  · obtain ⟨budget, -, h⟩ := except_bind_eq_ok.1 h
    split at h
    · cases h
      unfold Turn.confirmBudget
      refine Quiet.ofSession (quiet_say _ _ ?_) rfl (.inr nofun)
      simp [NoSubmit, Button.submits]
    · cases h
      exact quiet_openOptions lang _ _ _ _ _

theorem quiet_applyPick (h : t.applyPick lang p now = .ok t') : Quiet t.view t'.view := by
  unfold Turn.applyPick at h
  split at h
  · cases h
    exact quiet_stale t
  split at h
  · cases h
    exact quiet_stale t
  split at h
  · cases h
  · cases h
    exact Quiet.ofSession (quiet_options lang _ _ _ _ _) rfl (.inl rfl)

theorem applyQuantity_spec (h : t.applyQuantity lang p now = .ok t') :
    Quiet t.view t'.view ∨ ∃ variant ∈ p.variants, Added p variant t.c.amount t.view t'.view := by
  unfold Turn.applyQuantity at h
  split at h
  · cases h
    exact .inl (quiet_stale t)
  split at h
  · cases h
    exact .inl (quiet_stale t)
  split at h
  · cases h
    exact .inl (quiet_say t _ noSubmit_nil)
  · rename_i variant hvariant
    split at h
    · exact (addVariant_spec h).imp_right fun hadded =>
        ⟨variant, List.mem_of_find?_eq_some hvariant, hadded⟩
    · cases h
      exact .inl (quiet_say t _ noSubmit_nil)

theorem applyLegacy_spec {body : Body} (h : t.applyLegacy lang body now = .ok t') :
    Quiet t.view t'.view ∨ ∃ p ∈ body.products.getD [], ∃ variant ∈ p.variants, ∃ item ∈ t.c.legacyItems,
      Added p variant item.quantity t.view t'.view ∧ t.c.legacyItems[t.c.legacyIndex]? = some item ∧
        findSku lang (body.products.getD []) item.sku = some (p, variant) := by
  unfold Turn.applyLegacy at h
  obtain ⟨item, hitem, h⟩ := except_bind_eq_ok.1 h
  rw [orTypeError_eq_ok] at hitem
  split at h
  · cases h
    exact .inl (quiet_say t _ noSubmit_nil)
  · rename_i p variant hfound
    obtain ⟨hp, hvariant⟩ := findSku_mem hfound
    obtain ⟨t₁, hadd, h⟩ := except_bind_eq_ok.1 h
    -- Whatever comes after the variant only asks for the next one.
    have hrest : Quiet t₁.view t'.view := by
      split at h
      · cases h
        exact Quiet.refl _
      · refine Quiet.ofContext (c := { t₁.c with legacyIndex := t₁.c.legacyIndex + 1 }) ?_
          rfl rfl rfl rfl fun h => ⟨h.amount, h.items⟩
        dsimp only at h
        split at h
        · cases h
          exact quiet_request _ rfl (by decide) nofun
        · cases h
          exact Quiet.refl _
    rcases addVariant_spec hadd with hquiet | hadded
    · exact .inl (hquiet.trans hrest)
    · exact .inr ⟨p, hp, variant, hvariant, item, List.mem_of_getElem? hitem, hadded.trans hrest,
        hitem, hfound⟩

theorem responded_success (hok : response.ok) (h : t.applySuccess lang response.body now = .ok t') :
    Responded lang response t.view t'.view := by
  unfold Turn.applySuccess at h
  dsimp only at h
  split at h
  · rename_i hop
    exact .quiet (quiet_applySearch h) (.inr ⟨_, hop, rfl⟩)
  · obtain ⟨b, hb, h⟩ := except_bind_eq_ok.1 h
    cases h
    exact .quiet (Quiet.ofSession (quiet_say _ _ noSubmit_nil) rfl (.inl rfl)) (.inl rfl)
  · rename_i hop
    obtain ⟨p, hp, h⟩ := except_bind_eq_ok.1 h
    exact .quiet (Quiet.ofSession (quiet_catalogCard h) rfl (.inl rfl)) (.inr ⟨_, hop, rfl⟩)
  · rename_i hop
    obtain ⟨p, hp, h⟩ := except_bind_eq_ok.1 h
    exact .quiet (quiet_applyOptions lang h) (.inr ⟨_, hop, rfl⟩)
  · rename_i hop
    obtain ⟨p, hp, h⟩ := except_bind_eq_ok.1 h
    exact .quiet (quiet_applyOptions lang h) (.inr ⟨_, hop, rfl⟩)
  · rename_i hop
    obtain ⟨p, hp, h⟩ := except_bind_eq_ok.1 h
    exact .quiet (quiet_applyPick lang h) (.inr ⟨_, hop, rfl⟩)
  · rename_i hop
    obtain ⟨p, hp, h⟩ := except_bind_eq_ok.1 h
    rcases applyQuantity_spec lang h with hquiet | ⟨variant, hvariant, hadded⟩
    · exact .quiet hquiet (.inr ⟨_, hop, rfl⟩)
    · refine .added p variant t.c.amount ?_ hvariant (fun hamounts => hamounts.amount hop) hadded
      unfold pricedBy
      rw [show t.view.c.op = some .quantity from hop]
      exact orTypeError_eq_ok.1 hp
  · rename_i hop
    obtain ⟨b, hb, h⟩ := except_bind_eq_ok.1 h
    rw [orTypeError_eq_ok] at hb
    rcases applyLegacy_spec lang h with
      hquiet | ⟨p, -, variant, hvariant, item, hmem, hadded, hitem, hfound⟩
    · exact .quiet hquiet (.inr ⟨_, hop, rfl⟩)
    · refine .added p variant item.quantity ?_ hvariant (fun hamounts => hamounts.items item hmem) hadded
      unfold pricedBy
      rw [show t.view.c.op = some .legacy from hop, hb, Option.bind_some,
        show t.view.c.legacyItems[t.view.c.legacyIndex]? = some item from hitem]
      simp [hfound]
  · obtain ⟨b, hb, h⟩ := except_bind_eq_ok.1 h
    cases h
    exact .quiet (quiet_say t _ noSubmit_nil) (.inl rfl)
  · rename_i hop
    obtain ⟨b, hb, h⟩ := except_bind_eq_ok.1 h
    cases h
    exact .verified b hok (orTypeError_eq_ok.1 hb) hop
      (Plain.ofSession (quiet_say _ _ noSubmit_nil).toPlain (.inr nofun)) nofun rfl
  · rename_i hop
    obtain ⟨b, hb, h⟩ := except_bind_eq_ok.1 h
    cases h
    refine .accountChecked b hok (orTypeError_eq_ok.1 hb) hop ?_ rfl
    unfold Turn.applyCheckAccount
    refine Plain.ofSession (quiet_say _ _ ?_).toPlain (.inl rfl)
    simp [NoSubmit, Button.submits]
  · rename_i hop
    obtain ⟨b, hb, h⟩ := except_bind_eq_ok.1 h
    have hout := checkout_spec h
    rw [deal_linkCustomer] at hout
    exact .linked b hok (orTypeError_eq_ok.1 hb) hop
      ⟨hout.deal, hout.thread, hout.request, hout.amounts, hout.shown⟩
  · rename_i hop
    obtain ⟨p, hp, h⟩ := except_bind_eq_ok.1 h
    exact responded_validation hop hok (orTypeError_eq_ok.1 hp) h
  · rename_i hop
    obtain ⟨hsubmission, hdeal, r, horder, hasks⟩ := submitRequest_spec h
    exact .sentAfterProfile r hop
      ⟨horder.path, horder.telegramUserId, horder.telegramUsername, horder.address, horder.items⟩
      hsubmission hdeal
      ⟨hasks.stage, hasks.thread, hasks.op, hasks.request, hasks.messages, hasks.items⟩
  · rename_i hop
    obtain ⟨b, hb, h⟩ := except_bind_eq_ok.1 h
    exact responded_order hop h
  · cases h
    exact .quiet (quiet_say t _ noSubmit_nil) (.inl rfl)
  · cases h
    exact .quiet (quiet_say t _ noSubmit_nil) (.inl rfl)

/-- What the answer to a request does to a session it finds. -/
theorem respond_spec (h : t.respond lang response now = .ok t') :
    Responded lang response t.view t'.view := by
  unfold Turn.respond at h
  split at h
  · -- The hop limit gives up a submission that is still checking.
    cases h
    dsimp only
    split
    · exact .released (Plain.ofSession (quiet_say _ _ noSubmit_nil).toPlain (.inl rfl)) rfl rfl
    · exact .quiet (quiet_say t _ noSubmit_nil) (.inl rfl)
  split at h
  · cases h
    exact .quiet (quiet_stale t) (.inl rfl)
  split at h
  · rename_i hop
    split at h
    · exact .quiet (quiet_applyAssistant lang h) (.inr ⟨_, hop, rfl⟩)
    · cases h
      exact .quiet (quiet_assistantFallback lang t now) (.inr ⟨_, hop, rfl⟩)
  split at h
  · exact responded_failure h
  · rename_i hok
    have hresponded := responded_success lang (not_not.1 hok) h
    exact hresponded

end Engine

end Shopping

end FashionErp
