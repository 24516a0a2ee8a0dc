/-
What the assistant can do for a shopper: ask the catalog what to show, and nothing more.

Whatever the assistant answers, and however the request for it fails, the engine asks for a search,
for what sells best, or for a product whose card the shopper has seen or is choosing of
(`Request.Browses`), and leaves alone what an order is made of.
-/
import FashionErp.Shopping.Calls

namespace FashionErp

open Lib

namespace Shopping

/-! ## What the assistant asks for -/

/-- The request looks at the catalog: a search, what sells best, or one of the `known` products. -/
structure Request.Browses (known : String → Prop) (r : Request) : Prop where
  method : r.method = "GET"
  path : r.path = "/customer-portal/catalog/discover" ∨
    r.path = "/customer-portal/catalog/popular" ∨ ∃ id, known id ∧ r.path = detailPath id

def Shopper.Knows (s : Shopper) (id : String) : Prop :=
  id ∈ s.cards ∨ ∃ selection ∈ s.selection, selection.productId = id

def Turn.Browses (known : String → Prop) (t : Turn) : Prop :=
  ∀ r ∈ t.c.request, r.Browses known

variable {known : String → Prop} {t t' : Turn} {now : ℕ} {response : Response} {sku : String}

theorem browses_none (h : t.c.request = none) : t.Browses known := by
  intro r hr
  rw [h] at hr
  cases hr

theorem browses_discover (t : Turn) (now : ℕ) (page : Page) : (t.discover now page).Browses known := by
  rintro r hr
  cases hr
  exact ⟨rfl, .inl rfl⟩

theorem browses_search (t : Turn) (preferences : Preferences) (now : ℕ) :
    (t.search preferences now).Browses known :=
  browses_discover _ _ _

theorem browses_discoveryAction (t : Turn) (action : DiscoveryAction) (now : ℕ) :
    (t.discoveryAction action now).Browses known := by
  unfold Turn.discoveryAction
  split
  · exact browses_none rfl
  split
  · exact browses_none rfl
  cases action with
  | more =>
    dsimp only
    split
    · exact browses_discover _ _ _
    · exact browses_none rfl
  | reset => exact browses_discover _ _ _
  | cheaper =>
    dsimp only
    split
    · split
      · exact browses_discover _ _ _
      · exact browses_none rfl
    · exact browses_none rfl

theorem browses_detail (t : Turn) {id : String} (op : Op) (h : known id) :
    (t.detail id op).Browses known := by
  rintro r hr
  cases hr
  exact ⟨rfl, .inr (.inr ⟨id, h, rfl⟩)⟩

theorem browses_assistantDetail (lang : Language) (t : Turn) (op : Op) (productId : Option String)
    (kind : Option AttributeKind) (now : ℕ) :
    (t.assistantDetail lang op productId kind now).Browses t.s.Knows := by
  unfold Turn.assistantDetail
  split
  · rename_i id _
    split
    · rename_i hissued
      -- The product has a card in the session.
      refine browses_detail _ _ (.inl (List.mem_append_left _ ?_))
      obtain ⟨card, hcard, hid⟩ := List.any_eq_true.1 hissued
      exact List.mem_map.2 ⟨card, hcard, of_decide_eq_true hid⟩
    · exact browses_none rfl
  · exact browses_none rfl

section Engine

variable (lang : Language)

theorem browses_assistantFallback (t : Turn) (now : ℕ) : (t.assistantFallback lang now).Browses known := by
  unfold Turn.assistantFallback
  dsimp only
  split
  · exact browses_none rfl
  · split
    · exact browses_none rfl
    · exact browses_search _ _ _

/-- A proposal asks for nothing but the catalog. -/
theorem browses_applyAssistant {proposal : Option Proposal}
    (h : t.applyAssistant lang proposal now = .ok t') : t'.Browses t.s.Knows := by
  unfold Turn.applyAssistant at h
  split at h
  · rename_i p action _
    -- What the assistant has said is noted, which neither shows nor selects anything.
    change t'.Browses (remember t.s t.c.text p).Knows
    dsimp only at h
    cases action with
    | search query =>
      cases h
      exact browses_search _ _ _
    | popular query =>
      cases h
      rintro r hr
      cases hr
      exact ⟨rfl, .inr (.inl rfl)⟩
    | buy productId kind =>
      cases h
      exact browses_assistantDetail lang _ _ _ _ _
    | options productId kind =>
      cases h
      exact browses_assistantDetail lang _ _ _ _ _
    | cart => exact browses_none (renderCart_spec h).2.1
    | discovery action =>
      cases h
      exact browses_discoveryAction _ _ _
    | reply text =>
      cases h
      exact browses_none rfl
    | handoff text =>
      cases h
      exact browses_none rfl
    | pick value =>
      dsimp only at h
      split at h
      · rename_i selection _ hselection
        split at h
        · cases h
          exact browses_detail _ _ (.inr ⟨selection, hselection, rfl⟩)
        · cases h
          exact browses_detail _ _ (.inr ⟨selection, hselection, rfl⟩)
      · cases h
        exact browses_none rfl
    | quantity amount =>
      dsimp only at h
      split at h
      · rename_i selection _ hselection
        cases h
        exact browses_detail _ _ (.inr ⟨selection, hselection, rfl⟩)
      · cases h
        exact browses_none rfl
  · cases h
    exact browses_assistantFallback lang _ _

/-- What the answer of the assistant comes to, whatever it is. -/
theorem respond_assistant (hop : t.c.op = some .assistant) (hhops : t.c.hops ≤ MAX_LINES + 5)
    (h : t.respond lang response now = .ok t') : t'.Browses t.s.Knows ∧ Quiet t.view t'.view := by
  unfold Turn.respond at h
  rw [if_neg (Nat.not_lt.2 hhops)] at h
  split at h
  · cases h
    exact ⟨browses_none rfl, quiet_stale t⟩
  split at h
  · exact ⟨browses_applyAssistant lang h, quiet_applyAssistant lang h⟩
  · cases h
    exact ⟨browses_assistantFallback lang t now, quiet_assistantFallback lang t now⟩

/-- The session has selected the variant of the product, which is still within its limits. -/
structure Shopper.Selected (s : Shopper) (p : Product) (selection : Selection) (variant : Variant) :
    Prop where
  current : s.selection = some selection
  product : selection.productId = p.id
  offered : variant ∈ p.variants
  chosen : selection.variantId = some variant.id
  picked : selection.picked variant
  eligible : (eligibleVariants lang p selection.filters true).any fun v => v.id = variant.id

theorem applyQuantity_selected {p : Product} (h : t.applyQuantity lang p now = .ok t') :
    Quiet t.view t'.view ∨ ∃ selection variant, t.s.Selected lang p selection variant ∧
      Added p variant t.c.amount t.view t'.view := by
  unfold Turn.applyQuantity at h
  split at h
  · cases h
    exact .inl (quiet_stale t)
  · rename_i selection hselection
    split at h
    · cases h
      exact .inl (quiet_stale t)
    · rename_i hsame
      rw [not_or, not_not, not_not] at hsame
      split at h
      · cases h
        exact .inl (quiet_say t _ noSubmit_nil)
      · rename_i variant hvariant
        split at h
        · rename_i heligible
          have hfound := List.find?_some hvariant
          rw [decide_eq_true_eq] at hfound
          refine (addVariant_spec h).imp_right fun hadded => ⟨selection, variant, ?_, hadded⟩
          exact ⟨hselection, hsame.2, List.mem_of_find?_eq_some hvariant, hfound.1.symm, hfound.2,
            heligible⟩
        · cases h
          exact .inl (quiet_say t _ noSubmit_nil)

end Engine

/-! ## What is in a cart -/

theorem quantityOf_cons (line : CartLine) (cart : List CartLine) (sku : String) :
    quantityOf (line :: cart) sku = if line.sku = sku then line.quantity else quantityOf cart sku := by
  unfold quantityOf
  rw [List.find?_cons]
  by_cases h : line.sku = sku
  · rw [if_pos h, decide_eq_true h]
    rfl
  · rw [if_neg h, decide_eq_false h]

theorem quantityOf_updateLine_ne {sku' unitPrice : String} {total : ℕ} (h : sku' ≠ sku)
    (cart : List CartLine) :
    quantityOf (updateLine sku unitPrice total cart) sku' = quantityOf cart sku' := by
  induction cart with
  | nil => rfl
  | cons line rest ih =>
    unfold updateLine
    split
    · rename_i hline
      have hne : line.sku ≠ sku' := by
        rw [hline]
        exact h.symm
      rw [quantityOf_cons, quantityOf_cons, if_neg hne, if_neg hne]
    · rw [quantityOf_cons, quantityOf_cons, ih]

theorem quantityOf_append_ne {line : CartLine} (h : line.sku ≠ sku) (cart : List CartLine) :
    quantityOf (cart ++ [line]) sku = quantityOf cart sku := by
  induction cart with
  | nil => rw [List.nil_append, quantityOf_cons, if_neg h]
  | cons first rest ih => rw [List.cons_append, quantityOf_cons, quantityOf_cons, ih]

theorem quantityOf_addLine_ne {p : Product} {variant : Variant} (h : sku ≠ variant.sku)
    (cart : List CartLine) (amount : ℕ) :
    quantityOf (addLine cart p variant amount) sku = quantityOf cart sku := by
  unfold addLine
  split
  · exact quantityOf_updateLine_ne h cart
  · exact quantityOf_append_ne h.symm cart

theorem quantityOf_reprice {cart : List CartLine} {i : ℕ} {line : CartLine} (h : cart[i]? = some line)
    (unitPrice sku : String) :
    quantityOf (cart.set i { line with unitPrice := unitPrice }) sku = quantityOf cart sku := by
  induction cart generalizing i with
  | nil => rfl
  | cons first rest ih =>
    cases i with
    | zero =>
      rw [List.getElem?_cons_zero] at h
      cases h
      rw [List.set_cons_zero, quantityOf_cons, quantityOf_cons]
    | succ i =>
      rw [List.getElem?_cons_succ] at h
      rw [List.set_cons_succ, quantityOf_cons, quantityOf_cons, ih h]

/-- An update puts nothing into a cart. -/
theorem Prepared.quantityOf_le {data : Option String} {v v' : View} (h : Prepared data v v')
    (sku : String) : quantityOf v'.deal.cart sku ≤ quantityOf v.deal.cart sku := by
  cases h with
  | quiet h => rw [h.deal]
  | cleared h hstage hdeal =>
    rw [hdeal]
    exact Nat.zero_le _
  | checkedOut h => rw [h.deal]
  | entered field value hdata hstage hread h =>
    rw [h.deal]
    cases field with
    | address => exact le_rfl
    | name => exact le_rfl
    | phone => exact le_rfl
  | submitted first rest hcart hstage hstage' hdeal hcontext => rw [hdeal]

theorem Responded.added_of_lt {lang : Language} {v v' : View} (h : Responded lang response v v')
    (hmore : quantityOf v.deal.cart sku < quantityOf v'.deal.cart sku) :
    ∃ p variant amount, pricedBy lang v.c response.body = some p ∧ Added p variant amount v v' ∧
      sku = variant.sku := by
  have hkept {d : Deal} (hdeal : v'.deal = d) (hcart : d.cart = v.deal.cart ∨ d.cart = []) :
      ∃ p variant amount, pricedBy lang v.c response.body = some p ∧ Added p variant amount v v' ∧
        sku = variant.sku := by
    rw [hdeal] at hmore
    rcases hcart with hsame | hempty
    · rw [hsame] at hmore
      exact absurd hmore (lt_irrefl _)
    · rw [hempty] at hmore
      exact absurd hmore (Nat.not_lt_zero _)
  cases h with
  | added p variant amount hpriced hvariant hamount h =>
    refine ⟨p, variant, amount, hpriced, h, ?_⟩
    by_contra hne
    rw [h.deal, quantityOf_addLine_ne hne] at hmore
    exact absurd hmore (lt_irrefl _)
  | repriced p line variant price hop hok hbody hline hvariant hprice hother h =>
    rw [h.deal, quantityOf_reprice hline] at hmore
    exact absurd hmore (lt_irrefl _)
  | linked b hok hbody hop h =>
    refine hkept h.deal (.inl ?_)
    unfold Deal.link
    dsimp only
    split
    · split
      · rfl
      · rfl
    · split
      · rfl
      · rfl
  | quiet h hasks => exact hkept h.deal (.inl rfl)
  | verified b hok hbody hop h hstage hdeal => exact hkept hdeal (.inl rfl)
  | accountChecked b hok hbody hop h hdeal => exact hkept hdeal (.inl rfl)
  | released h hdeal hrequest => exact hkept hdeal (.inl rfl)
  | nextLine p line next r hop hbody hline hconfirmed hnext hpath hindex hdeal h =>
    exact hkept hdeal (.inl rfl)
  | profileAsked p line r hop hbody hline hconfirmed hlast hdirty hpath hname hphone hdeal h =>
    exact hkept hdeal (.inl rfl)
  | sent p line r hop hbody hline hconfirmed hlast hdirty horder hsubmission hdeal h =>
    exact hkept hdeal (.inl rfl)
  | sentAfterProfile r hop horder hsubmission hdeal h => exact hkept hdeal (.inl rfl)
  | uncertain hop h hrequest hdeal => exact hkept hdeal (.inl rfl)
  | ordered hop h hrequest hstage hdeal => exact hkept hdeal (.inr rfl)

section Engine

variable {lang : Language}

theorem respond_cart (h : t.respond lang response now = .ok t') :
    t'.s.cart = t.s.cart ∨
      Turn.applySuccess lang { t with s := { t.s with touched := now } } response.body now = .ok t' := by
  unfold Turn.respond at h
  split at h
  · cases h
    left
    dsimp only
    split
    · rfl
    · rfl
  split at h
  · cases h
    exact .inl rfl
  split at h
  · split at h
    · exact .inl (congrArg Deal.cart (quiet_applyAssistant lang h).deal)
    · cases h
      exact .inl (congrArg Deal.cart (quiet_assistantFallback lang t now).deal)
  split at h
  · left
    unfold Turn.applyFailure at h
    split at h
    · exact congrArg Deal.cart (leaveUncertain_spec h).2.2
    dsimp only at h
    split at h
    · cases h
      rfl
    split at h
    · cases h
      rfl
    · cases h
      rfl
  · exact .inr h

theorem quantityOf_applyValidation {p : Product} (h : t.applyValidation p now = .ok t')
    (sku : String) : quantityOf t'.s.cart sku = quantityOf t.s.cart sku := by
  have habort (h : t.abortSubmission now = .ok t') : t'.s.cart = t.s.cart :=
    congrArg Deal.cart (abortSubmission_spec h).2.1
  unfold Turn.applyValidation at h
  split at h
  · split at h
    · rw [habort h]
    · cases h
  · rename_i line hline
    split at h
    · rw [habort h]
    · rename_i variant _
      split at h
      · rw [habort h]
      · obtain ⟨price, -, h⟩ := except_bind_eq_ok.1 h
        obtain ⟨shown, -, h⟩ := except_bind_eq_ok.1 h
        split at h
        · have hcart := congrArg Deal.cart (checkout_spec h).deal
          rw [show t'.s.cart = _ from hcart]
          exact quantityOf_reprice hline _ _
        · unfold Turn.lineChecked at h
          dsimp only at h
          split at h
          · cases h
            rfl
          split at h
          · cases h
            rfl
          · rw [show t'.s.cart = _ from congrArg Deal.cart (submitRequest_spec h).2.1]
            rfl

/-- What an answer adds was asked for by `/order`, or is what the session has selected. -/
theorem respond_added (h : t.respond lang response now = .ok t')
    (hmore : quantityOf t.s.cart sku < quantityOf t'.s.cart sku) :
    t.c.op = some .legacy ∨ (t.c.op = some .quantity ∧ ∃ p ∈ response.body.bind Body.product,
      ∃ selection variant, t.s.Selected lang p selection variant ∧ variant.sku = sku ∧
        t'.s.cart = addLine t.s.cart p variant t.c.amount) := by
  obtain ⟨p, variant, amount, hpriced, hadded, hsku⟩ := (respond_spec lang h).added_of_lt hmore
  have hsuccess := (respond_cart h).resolve_left fun hsame => by
    rw [hsame] at hmore
    exact lt_irrefl _ hmore
  unfold pricedBy at hpriced
  split at hpriced
  · rename_i hop
    right
    refine ⟨hop, ?_⟩
    unfold Turn.applySuccess at hsuccess
    dsimp only at hsuccess
    rw [show t.c.op = some .quantity from hop] at hsuccess
    obtain ⟨p', hp', hquantity⟩ := except_bind_eq_ok.1 hsuccess
    rw [orTypeError_eq_ok] at hp'
    rcases applyQuantity_selected lang hquantity with
      hquiet | ⟨selection, variant', hselected, hadded'⟩
    · have hsame : t'.s.cart = t.s.cart := congrArg Deal.cart hquiet.deal
      rw [hsame] at hmore
      exact absurd hmore (lt_irrefl _)
    · have hcart : t'.s.cart = addLine t.s.cart p' variant' t.c.amount := congrArg Deal.cart hadded'.deal
      refine ⟨p', hp', selection, variant', ⟨hselected.current, hselected.product, hselected.offered,
        hselected.chosen, hselected.picked, hselected.eligible⟩, ?_, hcart⟩
      by_contra hne
      rw [hcart, quantityOf_addLine_ne (Ne.symm hne)] at hmore
      exact absurd hmore (lt_irrefl _)
  · rename_i hop
    unfold Turn.applySuccess at hsuccess
    dsimp only at hsuccess
    rw [show t.c.op = some .validateCart from hop] at hsuccess
    obtain ⟨p', -, hvalid⟩ := except_bind_eq_ok.1 hsuccess
    rw [quantityOf_applyValidation hvalid] at hmore
    exact absurd hmore (lt_irrefl _)
  · rename_i hop
    exact .inl hop
  · cases hpriced

end Engine

/-! ## Calls -/

def EngineCall.Adds (call : EngineCall) (userId sku : String) : Prop :=
  quantityOf (dealOf (call.before.lookup userId)).cart sku <
    quantityOf (dealOf (call.after.lookup userId)).cart sku

instance (call : EngineCall) (userId sku : String) : Decidable (call.Adds userId sku) :=
  inferInstanceAs (Decidable (_ < _))

def EngineCall.Known (log : List EngineCall) (call : EngineCall) (userId id : String) : Prop :=
  CardShown log userId id ∨ ∃ shopper selection, call.before.lookup userId = some shopper ∧
    shopper.selection = some selection ∧ selection.productId = id

/-- Nobody but the shopper shops in the call. The contexts of `/order` are those the assistant
was never asked in. -/
structure EngineCall.Contained (lang : Language) (log : List EngineCall) (call : EngineCall) :
    Prop where
  browses : ∀ asked response now, call.invocation = .respond asked response now →
    asked.op = some .assistant → ∀ r ∈ call.context.request, r.Browses (call.Known log asked.userId)
  kept : ∀ asked response now, call.invocation = .respond asked response now →
    asked.op = some .assistant →
      ∀ userId, dealOf (call.after.lookup userId) = dealOf (call.before.lookup userId)
  added : ∀ userId sku, call.Adds userId sku → ∃ asked response now shopper,
    call.invocation = .respond asked response now ∧ asked.userId = userId ∧
      call.before.lookup userId = some shopper ∧
        ((asked.op = some .legacy ∧ asked.assistantStartedAt = none) ∨
          (asked.op = some .quantity ∧ ∃ p ∈ response.body.bind Body.product,
            ∃ selection variant, shopper.Selected lang p selection variant ∧ variant.sku = sku))

theorem Request.Browses.mono {known' : String → Prop} {r : Request} (h : r.Browses known)
    (hknown : ∀ id, known id → known' id) : r.Browses known' := by
  refine ⟨h.method, h.path.imp_right fun hpath => hpath.imp_right ?_⟩
  rintro ⟨id, hid, hr⟩
  exact ⟨id, hknown id hid, hr⟩

variable {call : EngineCall}

theorem not_adds_of_unchanged {userId : String}
    (h : ∀ shopper, call.after.lookup userId = some shopper → call.before.lookup userId = some shopper) :
    ¬ call.Adds userId sku := by
  unfold EngineCall.Adds
  rw [Nat.not_lt]
  cases hafter : call.after.lookup userId with
  | none => exact Nat.zero_le _
  | some shopper => rw [h shopper hafter]

theorem not_adds_prepared {lang : Language} {update : Update} {config : Config}
    {found : Option Shopper}
    (hfound : found = none ∨ found = call.before.lookup (update.context config).userId)
    (hprepare : Turn.prepare lang { s := sessionFor found config.companyId now, c := update.context config } config (update.callbackQuery.map fun callback => callback.data.getD "") now = .ok t)
    (hleft : call.after.lookup (update.context config).userId = some t.s) :
    ¬ call.Adds (update.context config).userId sku := by
  obtain ⟨hprepared, -⟩ := prepare_found rfl hprepare
  have hle := hprepared.quantityOf_le sku
  unfold EngineCall.Adds
  rw [Nat.not_lt, hleft]
  refine hle.trans ?_
  rcases hfound with rfl | rfl
  · exact Nat.zero_le _
  · exact le_rfl

theorem contained_made {lang : Language} {s : Calls} (hinv : s.Inv)
    (hmade : call.Made lang) (hbefore : call.before = s.store)
    (hawaits : ∀ asked response now, call.invocation = .respond asked response now → s.Awaits asked) :
    call.Contained lang s.log := by
  have hupdate {update : Update} {config : Config} {now : ℕ}
      (hinvocation : call.invocation = .prepare update config now) {asked : Context}
      {response : Response} {now' : ℕ} (h : call.invocation = .respond asked response now') : False := by
    rw [hinvocation] at h
    cases h
  cases hmade with
  | unheard update config now text hinvocation hcontext hkept =>
    exact ⟨fun _ _ _ h => (hupdate hinvocation h).elim, fun _ _ _ h => (hupdate hinvocation h).elim,
      fun userId sku hadds => absurd hadds (not_adds_of_unchanged (hkept userId))⟩
  | prepared update config now found t hinvocation hfound hprepare hcontext hleft hkept =>
    refine ⟨fun _ _ _ h => (hupdate hinvocation h).elim, fun _ _ _ h => (hupdate hinvocation h).elim,
      fun userId sku hadds => ?_⟩
    by_cases huser : userId = (update.context config).userId
    · rw [huser] at hadds
      exact absurd hadds (not_adds_prepared hfound hprepare hleft)
    · exact absurd hadds (not_adds_of_unchanged fun shopper => hkept userId shopper huser)
  | lost asked response now hinvocation hfound hafter hcontext =>
    refine ⟨fun asked' response' now' h _ r hr => ?_, fun _ _ _ _ _ userId => by rw [hafter],
      fun userId sku hadds => ?_⟩
    · rw [hcontext] at hr
      cases hr
    · refine absurd hadds (not_adds_of_unchanged fun shopper hlookup => ?_)
      rw [hafter] at hlookup
      exact hlookup
  | responded asked response now shopper t hinvocation hfound hrespond hcontext hafter =>
    obtain ⟨-, hcommand, hhops⟩ := (hawaits _ _ _ hinvocation).sound hinv
    refine ⟨fun asked' response' now' h hop r hr => ?_, fun asked' response' now' h hop userId => ?_,
      fun userId sku hadds => ?_⟩
    · rw [hinvocation] at h
      cases h
      have hlimit : asked.next.hops ≤ MAX_LINES + 5 := by
        change asked.hops + 1 ≤ _
        rw [hhops hop]
        decide
      rw [hcontext] at hr
      refine ((respond_assistant lang hop hlimit hrespond).1 r hr).mono fun id hid => ?_
      rw [hbefore] at hfound
      rcases hid with hcard | ⟨selection, hselection, hid⟩
      · exact .inl ((hinv.sessions asked.userId shopper asked.next hfound).cards id hcard)
      · refine .inr ⟨shopper, selection, ?_, hselection, hid⟩
        rw [hbefore]
        exact hfound
    · rw [hinvocation] at h
      cases h
      have hlimit : asked.next.hops ≤ MAX_LINES + 5 := by
        change asked.hops + 1 ≤ _
        rw [hhops hop]
        decide
      rw [hafter userId]
      split
      · rename_i huser
        rw [huser, hfound]
        exact (respond_assistant lang hop hlimit hrespond).2.deal
      · rfl
    · unfold EngineCall.Adds at hadds
      rw [hafter userId] at hadds
      split at hadds
      · rename_i huser
        rw [huser, hfound] at hadds
        refine ⟨asked, response, now, shopper, hinvocation, huser.symm, ?_, ?_⟩
        · rw [huser, hfound]
        · rcases respond_added hrespond hadds with hop | ⟨hop, p, hp, selection, variant, hselected, hsku, -⟩
          · exact .inl ⟨hop, hcommand hop⟩
          · exact .inr ⟨hop, p, hp, selection, variant, hselected, hsku⟩
      · exact absurd hadds (lt_irrefl _)

/-- The assistant cannot shop, whatever it answers and in whatever order the calls are made. -/
theorem assistant_contained {lang : Language} {s : Calls} (h : (calls lang).Reaches .start s)
    {earlier later : List EngineCall} {call : EngineCall} (hlog : s.log = earlier ++ call :: later) :
    call.Contained lang earlier := by
  obtain ⟨invocations, hrun⟩ := h
  refine (forall_calls (P := fun log call => call.Contained lang log) ?_ hrun).2 earlier call later hlog
  intro s call hinv hmade hbefore _ hawaits
  exact contained_made hinv hmade hbefore hawaits

/-! A shopper greets the assistant, which is not there. -/

namespace AssistantDemo

def lang : Language :=
  { toLowerCase := id, toUpperCase := id, normalize := id, intent := fun _ => none
    parseQuery := fun text p => { p with query := some text }
    sizeText := id, shortSize := fun _ => false }

def config : Config := { companyId := "C1", assistantEnabled := true }

def greeting : Update :=
  { updateId := some 1
    message := some {
      chat := some { id := .number 7, type := "private" }, sender := some { id := .number 7 }
      text := some "dress" } }

def asked : Context :=
  { greeting.context config with op := some .assistant, assistantStartedAt := some 5 }

def invocations : List Invocation :=
  [.prepare greeting config 5, .respond asked { statusCode := 503 } 6]

end AssistantDemo

theorem assistant_contained_unavailable : ∃ s earlier call,
    (calls AssistantDemo.lang).Reaches .start s ∧ s.log = earlier ++ [call] ∧
      call.context.request.isSome ∧ call.Contained AssistantDemo.lang earlier := by
  obtain ⟨s, hrun, hs⟩ := Machine.exists_runWith (calls AssistantDemo.lang) (fun _ _ => True)
    .start AssistantDemo.invocations
    (fun s => s.log.getLast?.any fun call => call.context.request.isSome) (by decide +kernel)
  rw [Option.any_eq_true] at hs
  obtain ⟨call, hlast, hrequest⟩ := hs
  obtain ⟨earlier, hlog⟩ := List.getLast?_eq_some_iff.1 hlast
  exact ⟨s, earlier, call, ⟨_, hrun⟩, hlog, hrequest, assistant_contained ⟨_, hrun⟩ hlog⟩

end Shopping

end FashionErp
