/-
What the engine does to a selection: to the product a shopper is choosing and the limit it is
chosen within, the budget that has to be confirmed, and the cards that were shown.

Most of the engine leaves all of it alone (`Keeps`).
-/
import FashionErp.Shopping.Answers

namespace FashionErp

namespace Shopping

/-! ## What a selection is made of -/

def Shopper.cards (s : Shopper) : List String :=
  (s.issuedCards.getD []).map IssuedCard.id ++ s.catalogItems.map Prod.fst

structure Choosing where
  selection : Option Selection
  confirmation : Option BudgetConfirmation
  cards : List String
  c : Context

def Turn.choosing (t : Turn) : Choosing :=
  ⟨t.s.selection, t.s.budgetConfirmation, t.s.cards, t.c⟩

/-- The turn chooses nothing new: a selection that is left is of the same product within the
same limits, and neither a card nor a confirmation has come from anywhere. -/
structure Keeps (v v' : Choosing) : Prop where
  selection : ∀ selection' ∈ v'.selection, ∃ selection ∈ v.selection,
    selection'.productId = selection.productId ∧ selection'.filters = selection.filters
  confirmation : ∀ b ∈ v'.confirmation, b ∈ v.confirmation
  cards : ∀ id ∈ v'.cards, id ∈ v.cards
  userId : v'.c.userId = v.c.userId
  budgetOverride : v'.c.budgetOverride = v.c.budgetOverride
  assistantStartedAt : v'.c.assistantStartedAt = v.c.assistantStartedAt
  pending : (v'.c.op = v.c.op ∧
      (v'.c.request.isSome → v.c.request.isSome ∨ v.c.op ≠ some .assistant)) ∨
    (v'.c.op ≠ some .legacy ∧ v'.c.op ≠ some .assistant)

theorem Keeps.refl (v : Choosing) : Keeps v v where
  selection := fun selection h => ⟨selection, h, rfl, rfl⟩
  confirmation := fun _ h => h
  cards := fun _ h => h
  userId := rfl
  budgetOverride := rfl
  assistantStartedAt := rfl
  pending := .inl ⟨rfl, .inl⟩

variable {v' : Choosing} {t t' : Turn} {s : Shopper} {op : Op} {now : ℕ} {p : Product}
  {products : List Product}

theorem Keeps.trans {v v'' : Choosing} (h : Keeps v v') (h' : Keeps v' v'') : Keeps v v'' where
  selection := by
    intro selection'' hselection
    obtain ⟨selection', hselection, hid', hfilters'⟩ := h'.selection selection'' hselection
    obtain ⟨selection, hselection, hid, hfilters⟩ := h.selection selection' hselection
    exact ⟨selection, hselection, hid'.trans hid, hfilters'.trans hfilters⟩
  confirmation := fun b hb => h.confirmation b (h'.confirmation b hb)
  cards := fun id hid => h.cards id (h'.cards id hid)
  userId := h'.userId.trans h.userId
  budgetOverride := h'.budgetOverride.trans h.budgetOverride
  assistantStartedAt := h'.assistantStartedAt.trans h.assistantStartedAt
  pending := by
    rcases h'.pending with ⟨hop', hrequest'⟩ | hnew
    · rcases h.pending with ⟨hop, hrequest⟩ | hnew
      · refine .inl ⟨hop'.trans hop, fun hsome => ?_⟩
        rcases hrequest' hsome with hsome | hother
        · exact hrequest hsome
        · rw [hop] at hother
          exact .inr hother
      · rw [← hop'] at hnew
        exact .inr hnew
    · exact .inr hnew

theorem Keeps.ofSession (h : Keeps (Turn.choosing { s := s, c := t.c }) v')
    (hselection : ∀ selection' ∈ s.selection, ∃ selection ∈ t.s.selection, selection'.productId = selection.productId ∧ selection'.filters = selection.filters)
    (hconfirmation : ∀ b ∈ s.budgetConfirmation, b ∈ t.s.budgetConfirmation)
    (hcards : ∀ id ∈ s.cards, id ∈ t.s.cards) : Keeps t.choosing v' := by
  refine Keeps.trans ?_ h
  exact {
    selection := hselection
    confirmation := hconfirmation
    cards := hcards
    userId := rfl
    budgetOverride := rfl
    assistantStartedAt := rfl
    pending := .inl ⟨rfl, .inl⟩ }

theorem Keeps.ofLeft (h : Keeps (Turn.choosing { s := s, c := t.c }) v')
    (hselection : s.selection = none ∨ s.selection = t.s.selection)
    (hconfirmation : s.budgetConfirmation = t.s.budgetConfirmation)
    (hcards : ∀ id ∈ s.cards, id ∈ t.s.cards) : Keeps t.choosing v' := by
  refine h.ofSession (fun selection hin => ?_) (fun b hb => ?_) hcards
  · rcases hselection with hnone | hsame
    · rw [hnone] at hin
      cases hin
    · rw [hsame] at hin
      exact ⟨selection, hin, rfl, rfl⟩
  · rw [hconfirmation] at hb
    exact hb

variable {c : Context}

theorem Keeps.ofContext (h : Keeps (Turn.choosing { s := t.s, c := c }) v')
    (huser : c.userId = t.c.userId) (hoverride : c.budgetOverride = t.c.budgetOverride)
    (hstarted : c.assistantStartedAt = t.c.assistantStartedAt) (hop : c.op = t.c.op)
    (hrequest : c.request = t.c.request) : Keeps t.choosing v' := by
  refine Keeps.trans ?_ h
  refine ⟨fun selection h => ⟨selection, h, rfl, rfl⟩, fun _ h => h, fun _ h => h, huser, hoverride,
    hstarted, .inl ⟨hop, fun hsome => .inl ?_⟩⟩
  change t.c.request.isSome = true
  rw [← hrequest]
  exact hsome

theorem keeps_say (t : Turn) (text : String) (buttons : List (List Button)) (photo : Option String) :
    Keeps t.choosing (t.say text buttons photo).choosing where
  selection := fun selection h => ⟨selection, h, rfl, rfl⟩
  confirmation := fun _ h => h
  cards := fun _ h => h
  userId := rfl
  budgetOverride := rfl
  assistantStartedAt := rfl
  pending := .inl ⟨rfl, fun h => by cases h⟩

theorem keeps_request (t : Turn) {method path : String} {query : List (String × String)}
    {body : RequestBody} (hlegacy : op ≠ .legacy) (hassistant : op ≠ .assistant) :
    Keeps t.choosing (t.request op method path query body).choosing where
  selection := fun selection h => ⟨selection, h, rfl, rfl⟩
  confirmation := fun _ h => h
  cards := fun _ h => h
  userId := rfl
  budgetOverride := rfl
  assistantStartedAt := rfl
  pending := .inr ⟨fun h => hlegacy (Option.some.inj h), fun h => hassistant (Option.some.inj h)⟩

theorem keeps_detail (t : Turn) (id : String) (hlegacy : op ≠ .legacy)
    (hassistant : op ≠ .assistant) : Keeps t.choosing (t.detail id op).choosing :=
  keeps_request t hlegacy hassistant

/-! ## The helpers that choose nothing -/

theorem keeps_stale (t : Turn) : Keeps t.choosing t.stale.choosing := keeps_say t _ _ _

theorem keeps_staleIn (t : Turn) : Keeps t.choosing t.staleIn.choosing := keeps_say t _ _ _

variable {heading : String}

theorem keeps_renderCart (h : t.renderCart now heading = .ok t') :
    Keeps t.choosing t'.choosing := by
  unfold Turn.renderCart at h
  dsimp only at h
  split at h
  · cases h
    exact (keeps_say _ _ _ _).ofLeft (.inr rfl) rfl fun _ h => h
  · obtain ⟨amounts, -, h⟩ := except_bind_eq_ok.1 h
    cases h
    exact (keeps_say _ _ _ _).ofLeft (.inr rfl) rfl fun _ h => h

theorem keeps_checkout (h : t.checkout now heading = .ok t') : Keeps t.choosing t'.choosing := by
  unfold Turn.checkout at h
  dsimp only at h
  split at h
  · cases h
    exact (keeps_say _ _ _ _).ofLeft (.inr rfl) rfl fun _ h => h
  · obtain ⟨amounts, -, h⟩ := except_bind_eq_ok.1 h
    cases h
    exact (keeps_say _ _ _ _).ofLeft (.inr rfl) rfl fun _ h => h

theorem keeps_catalogCard {detailed : Bool} (h : t.catalogCard p detailed = .ok t') :
    Keeps t.choosing t'.choosing := by
  obtain ⟨prices, -, h⟩ := except_bind_eq_ok.1 h
  cases h
  exact keeps_say _ _ _ _

theorem cards_of_noItems {s' : Shopper} (hcards : s'.issuedCards = s.issuedCards)
    (hitems : s'.catalogItems = []) : ∀ id ∈ s'.cards, id ∈ s.cards := by
  intro id hid
  unfold Shopper.cards at hid ⊢
  rw [hcards, hitems, List.map_nil, List.append_nil] at hid
  exact List.mem_append_left _ hid

theorem keeps_discover (t : Turn) (now : ℕ) (page : Page) :
    Keeps t.choosing (t.discover now page).choosing := by
  unfold Turn.discover
  exact (keeps_request _ (by decide) (by decide)).ofLeft (.inl rfl) rfl (cards_of_noItems rfl rfl)

theorem keeps_search (t : Turn) (preferences : Preferences) (now : ℕ) :
    Keeps t.choosing (t.search preferences now).choosing := by
  unfold Turn.search
  exact (keeps_discover _ _ _).ofLeft (.inr rfl) rfl fun _ h => h

theorem keeps_discoveryControls (t : Turn) (next : Option Page) (now : ℕ) :
    Keeps t.choosing (t.discoveryControls next now).choosing := by
  unfold Turn.discoveryControls
  exact (keeps_say _ _ _ _).ofLeft (.inr rfl) rfl fun _ h => h

theorem keeps_discoveryAction (t : Turn) (action : DiscoveryAction) (now : ℕ) :
    Keeps t.choosing (t.discoveryAction action now).choosing := by
  unfold Turn.discoveryAction
  split
  · exact keeps_say t _ _ _
  · split
    · exact keeps_say t _ _ _
    · cases action with
      | more =>
        dsimp only
        split
        · exact keeps_discover t now _
        · exact keeps_say t _ _ _
      | reset =>
        dsimp only
        exact (keeps_discover _ _ _).ofLeft (.inr rfl) rfl fun _ h => h
      | cheaper =>
        dsimp only
        split
        · split
          · exact (keeps_discover _ _ _).ofLeft (.inr rfl) rfl fun _ h => h
          · exact keeps_say t _ _ _
        · exact keeps_say t _ _ _

section Engine

variable (lang : Language)

variable {selection : Selection}

theorem keeps_options (hselection : t.s.selection = some selection)
    (p : Product) (now : ℕ) (inspectKind : Option AttributeKind) :
    Keeps t.choosing (t.options lang selection p now inspectKind).choosing := by
  have hsame : ∀ s : Shopper, s.budgetConfirmation = t.s.budgetConfirmation →
      (∀ id ∈ s.cards, id ∈ t.s.cards) → (∀ selection' ∈ s.selection,
        selection'.productId = selection.productId ∧ selection'.filters = selection.filters) →
      ∀ text buttons, Keeps t.choosing (Turn.say { s := s, c := t.c } text buttons).choosing := by
    intro s hconfirmation hcards hpicked text buttons
    refine (keeps_say _ _ _ _).ofSession (fun selection' h => ⟨selection, hselection, hpicked _ h⟩)
      (fun b hb => ?_) hcards
    rw [hconfirmation] at hb
    exact hb
  unfold Turn.options
  dsimp only
  split
  · refine hsame _ ?_ ?_ ?_ _ _
    · rfl
    · exact fun _ h => h
    · rintro selection' h
      cases h
  · split
    · split
      · exact keeps_say t _ _ _
      · refine hsame _ ?_ ?_ ?_ _ _
        · rfl
        · exact fun _ h => h
        · rintro selection' h
          cases h
          exact ⟨rfl, rfl⟩
    · exact keeps_say t _ _ _
    · refine hsame _ ?_ ?_ ?_ _ _
      · rfl
      · exact fun _ h => h
      · rintro selection' h
        cases h
        exact ⟨rfl, rfl⟩
    · exact keeps_say t _ _ _

theorem keeps_assistantFallback (t : Turn) (now : ℕ) :
    Keeps t.choosing (t.assistantFallback lang now).choosing := by
  unfold Turn.assistantFallback
  refine Keeps.ofContext (c := { t.c with assistantFailed := true }) ?_ rfl rfl rfl rfl rfl
  dsimp only
  split
  · exact keeps_stale _
  · split
    · exact keeps_say _ _ _ _
    · exact keeps_search _ _ _

theorem keeps_popular (t : Turn) (query : Option String) :
    Keeps t.choosing (t.popular lang query).choosing := by
  unfold Turn.popular
  refine Keeps.ofLeft (Keeps.ofContext (keeps_request _ (by decide) (by decide))
    rfl rfl rfl rfl rfl) (.inl rfl) rfl (cards_of_noItems rfl rfl)

theorem keeps_assistantDetail (t : Turn) (hlegacy : op ≠ .legacy) (hassistant : op ≠ .assistant)
    (productId : Option String) (kind : Option AttributeKind) (now : ℕ) :
    Keeps t.choosing (t.assistantDetail lang op productId kind now).choosing := by
  unfold Turn.assistantDetail
  split
  · split
    · exact (keeps_detail _ _ hlegacy hassistant).ofContext rfl rfl rfl rfl rfl
    · exact keeps_say t _ _ _
  · exact keeps_say t _ _ _

theorem keeps_pickOption (t : Turn) (selection : Selection) (kind : AttributeKind)
    (chosen : Attribute) : Keeps t.choosing (t.pickOption selection kind chosen).choosing := by
  unfold Turn.pickOption
  exact (keeps_detail _ _ (by decide) (by decide)).ofContext rfl rfl rfl rfl rfl

theorem keeps_missOption (t : Turn) (selection : Selection) (value : String) :
    Keeps t.choosing (t.missOption selection value).choosing := by
  unfold Turn.missOption
  exact (keeps_detail _ _ (by decide) (by decide)).ofContext rfl rfl rfl rfl rfl

theorem keeps_askQuantity (t : Turn) (selection : Selection) (amount : ℕ) :
    Keeps t.choosing (t.askQuantity selection amount).choosing := by
  unfold Turn.askQuantity
  exact (keeps_detail _ _ (by decide) (by decide)).ofContext rfl rfl rfl rfl rfl

theorem keeps_applyAssistant {proposal : Option Proposal}
    (h : t.applyAssistant lang proposal now = .ok t') : Keeps t.choosing t'.choosing := by
  unfold Turn.applyAssistant at h
  split at h
  · rename_i p action haction
    refine Keeps.ofLeft (s := remember t.s t.c.text p) ?_ (.inr rfl) rfl fun _ h => h
    dsimp only at h
    cases action with
    | search query =>
      cases h
      exact keeps_search _ _ _
    | popular query =>
      cases h
      exact keeps_popular lang _ _
    | buy productId kind =>
      cases h
      exact keeps_assistantDetail lang _ (by decide) (by decide) _ _ _
    | options productId kind =>
      cases h
      exact keeps_assistantDetail lang _ (by decide) (by decide) _ _ _
    | cart => exact keeps_renderCart h
    | discovery action =>
      cases h
      exact keeps_discoveryAction _ _ _
    | reply text =>
      cases h
      exact keeps_say _ _ _ _
    | handoff text =>
      cases h
      refine Keeps.ofLeft (Keeps.ofContext (keeps_say _ _ _ _) rfl rfl rfl rfl rfl) (.inr rfl) rfl ?_
      exact fun _ h => h
    | pick value =>
      dsimp only at h
      split at h
      · split at h
        · cases h
          exact keeps_pickOption _ _ _ _
        · cases h
          exact keeps_missOption _ _ _
      · cases h
        exact keeps_staleIn _
    | quantity amount =>
      dsimp only at h
      split at h
      · cases h
        exact keeps_askQuantity _ _ _
      · cases h
        exact keeps_staleIn _
  · cases h
    exact keeps_assistantFallback lang _ _

/-! ## Updates -/

/-- The button `shop:budget:..` of a token. -/
def PressesBudget (token : String) (parts : List String) : Prop :=
  parts[0]?.getD "" = "shop" ∧ parts[1]?.getD "" = "budget" ∧ parts[2]? = some token

structure Pressed (data : Option String) (v v' : Choosing) : Prop where
  selection : v'.selection = none ∨ v'.selection = v.selection
  cards : v'.cards = v.cards
  userId : v'.c.userId = v.c.userId
  assistantStartedAt : v'.c.assistantStartedAt = v.c.assistantStartedAt
  op : v'.c.op = some .buy
  confirmation : v'.confirmation = none
  budgetOverride : ∃ b, v.confirmation = some b ∧ v'.c.budgetOverride = some b ∧
    ∃ pressed, data = some pressed ∧ PressesBudget b.token (split ':' pressed)

/-- What an update can choose: nothing, but it may ask the assistant, ask for the items of an
order by their SKUs, or agree to a budget. -/
inductive Opened (data : Option String) (v v' : Choosing) : Prop
  | keeps (h : Keeps v v')
  | asked (h : Keeps { v with c := v'.c } v') (hop : v'.c.op = some .assistant)
      (huser : v'.c.userId = v.c.userId) (hoverride : v'.c.budgetOverride = v.c.budgetOverride)
      (hhops : v'.c.hops = v.c.hops)
  | ordered (h : Keeps { v with c := v'.c } v') (hop : v'.c.op = some .legacy)
      (huser : v'.c.userId = v.c.userId) (hoverride : v'.c.budgetOverride = v.c.budgetOverride)
      (hstarted : v'.c.assistantStartedAt = v.c.assistantStartedAt)
  | pressed (h : Pressed data v v')

theorem keeps_menuCallback {parts : List String} (h : t.menuCallback lang parts now = .ok t') :
    Keeps t.choosing t'.choosing := by
  unfold Turn.menuCallback at h
  split at h
  case h_5 => exact keeps_renderCart h
  all_goals obtain rfl := except_pure_eq_ok.1 h
  · exact keeps_say _ _ _ _
  · exact keeps_search _ _ _
  · exact keeps_say _ _ _ _
  · exact keeps_search _ _ _
  · exact keeps_request _ (by decide) (by decide)
  · exact keeps_say _ _ _ _
  · exact keeps_stale _

theorem keeps_discoverCallback (t : Turn) (parts : List String) (now : ℕ) :
    Keeps t.choosing (t.discoverCallback parts now).choosing := by
  unfold Turn.discoverCallback
  split
  · exact keeps_stale t
  · split
    · exact keeps_stale t
    · split
      · exact keeps_discoveryAction _ _ _
      · exact keeps_discoveryAction _ _ _
      · exact keeps_discoveryAction _ _ _
      · exact keeps_stale t

theorem keeps_cardCallback (t : Turn) (id : Option String) (hlegacy : op ≠ .legacy)
    (hassistant : op ≠ .assistant) : Keeps t.choosing (t.cardCallback id op).choosing := by
  unfold Turn.cardCallback
  split
  · split
    · exact (keeps_detail _ _ hlegacy hassistant).ofContext rfl rfl rfl rfl rfl
    · exact keeps_staleIn t
  · exact keeps_staleIn t

theorem opened_shopCallback (t : Turn) {pressed : String} (now : ℕ)
    (hshop : (split ':' pressed)[0]?.getD "" = "shop") :
    Opened (some pressed) t.choosing (t.shopCallback (split ':' pressed) now).choosing := by
  unfold Turn.shopCallback
  split
  · exact .keeps (keeps_cardCallback t _ (by decide) (by decide))
  · exact .keeps (keeps_cardCallback t _ (by decide) (by decide))
  · split
    · exact .keeps (keeps_staleIn t)
    · rename_i hbudget _ b hconfirmation
      split
      · exact .keeps (keeps_staleIn t)
      · rename_i hvalid
        rw [not_or, not_not] at hvalid
        exact .pressed ⟨.inr rfl, rfl, rfl, rfl, rfl, rfl, b, hconfirmation, rfl, pressed, rfl, hshop,
          hbudget, hvalid.1⟩
  · dsimp only
    split
    · split
      · exact .keeps (keeps_staleIn t)
      · split
        · exact .keeps (keeps_pickOption t _ _ _)
        · exact .keeps (keeps_stale t)
    · exact .keeps (keeps_staleIn t)
  · exact .keeps (keeps_stale t)

theorem keeps_cartCallback {parts : List String} (h : t.cartCallback parts now = .ok t') :
    Keeps t.choosing t'.choosing := by
  unfold Turn.cartCallback at h
  split at h
  · cases h
    exact keeps_stale t
  · split at h
    · cases h
      exact (keeps_say _ _ _ _).ofLeft (.inl rfl) rfl fun _ h => h
    · cases h
      exact (keeps_say _ _ _ _).ofLeft (.inl rfl) rfl fun _ h => h
    · exact keeps_renderCart h
    · cases h
      exact keeps_request _ (by decide) (by decide)
    · cases h
      exact (keeps_say _ _ _ _).ofLeft (.inr rfl) rfl fun _ h => h
    · cases h
      exact (keeps_say _ _ _ _).ofLeft (.inr rfl) rfl fun _ h => h
    · cases h
      exact (keeps_say _ _ _ _).ofLeft (.inr rfl) rfl fun _ h => h
    · split at h
      · exact keeps_checkout h
      · cases h
        refine Keeps.ofLeft (Keeps.ofContext (keeps_detail _ _ (by decide) (by decide))
          rfl rfl rfl rfl rfl) (.inr rfl) rfl fun _ h => h
    · cases h
      exact keeps_stale t

theorem opened_callback {pressed : String} (h : t.callback lang pressed now = .ok t') :
    Opened (some pressed) t.choosing t'.choosing := by
  unfold Turn.callback at h
  dsimp only at h
  split at h
  · exact .keeps (keeps_menuCallback lang h)
  · cases h
    exact .keeps (keeps_discoverCallback t _ _)
  · rename_i hshop
    cases h
    exact opened_shopCallback t now hshop
  · exact .keeps (keeps_cartCallback h)
  · cases h
    exact .keeps (keeps_stale t)

theorem opened_askAssistant (t : Turn) (data : Option String) :
    Opened data t.choosing (t.askAssistant lang).choosing :=
  .asked (Keeps.refl _) rfl rfl rfl rfl

theorem opened_followup (t : Turn) (data : Option String) (config : Config) (followup : Followup)
    (now : ℕ) : Opened data t.choosing (t.followup lang config followup now).choosing := by
  have hunknown (text : String) :
      Opened data t.choosing
        (if config.assistantEnabled then t.askAssistant lang else t.say text).choosing := by
    split
    · exact opened_askAssistant lang t data
    · exact .keeps (keeps_say t _ _ _)
  unfold Turn.followup
  dsimp only
  split
  · exact .keeps (keeps_discoveryAction t _ _)
  · exact .keeps (keeps_discoveryAction t _ _)
  · exact .keeps (keeps_discoveryAction t _ _)
  all_goals
    split
    · exact .keeps ((keeps_detail _ _ (by decide) (by decide)).ofContext rfl rfl rfl rfl rfl)
    · exact hunknown _

theorem keeps_answerOption (h : t.answerOption lang selection = some t') :
    Keeps t.choosing t'.choosing := by
  unfold Turn.answerOption at h
  dsimp only at h
  split at h
  · cases h
    exact keeps_pickOption t _ _ _
  · split at h
    · cases h
      exact keeps_missOption t _ _
    · cases h

theorem opened_freeText (t : Turn) (data : Option String) (config : Config) (now : ℕ) :
    Opened data t.choosing (t.freeText lang config now).choosing := by
  unfold Turn.freeText
  dsimp only
  split
  · exact .keeps (keeps_say t _ _ _)
  · split
    · exact opened_askAssistant lang t data
    · split
      · exact .keeps (keeps_request t (by decide) (by decide))
      · exact .keeps (keeps_search t _ _)

theorem opened_plainText (t : Turn) (data : Option String) (config : Config) (now : ℕ) :
    Opened data t.choosing (t.plainText lang config now).choosing := by
  unfold Turn.plainText
  split
  · exact opened_followup lang t data _ _ _
  · split
    · split
      · exact .keeps (keeps_askQuantity t _ _)
      · split
        · exact opened_askAssistant lang t data
        · exact .keeps (keeps_say t _ _ _)
    · rename_i selection _ _
      cases hanswer : t.answerOption lang selection with
      | none => exact opened_freeText lang t data _ _
      | some t' => exact .keeps (keeps_answerOption lang hanswer)
    · exact opened_freeText lang t data _ _

theorem keeps_cartCommand {rest : String} (h : t.cartCommand lang rest now = .ok t') :
    Keeps t.choosing t'.choosing := by
  unfold Turn.cartCommand at h
  dsimp only at h
  split at h
  · exact keeps_renderCart h
  · cases h
    exact keeps_say _ _ _ _

theorem opened_orderCommand (t : Turn) (data : Option String) (rest : String) :
    Opened data t.choosing (t.orderCommand rest).choosing := by
  unfold Turn.orderCommand
  split
  · unfold Turn.askLegacy
    exact .ordered (Keeps.refl _) rfl rfl rfl rfl
  · exact .keeps (keeps_say t _ _ _)

theorem opened_text {config : Config} (h : t.text lang config now = .ok t') :
    Opened none t.choosing t'.choosing := by
  unfold Turn.text at h
  dsimp only at h
  split at h
  · cases h
    exact .keeps (keeps_say t _ _ _)
  split at h
  · cases h
    exact .keeps (keeps_search t _ _)
  split at h
  · cases h
    exact .keeps (keeps_say t _ _ _)
  split at h
  · cases h
    exact .keeps (keeps_say t _ _ _)
  split at h
  · exact .keeps (keeps_cartCommand lang h)
  split at h
  · cases h
    exact .keeps (keeps_request t (by decide) (by decide))
  split at h
  · cases h
    exact .keeps (keeps_request t (by decide) (by decide))
  split at h
  · cases h
    exact opened_orderCommand t _ _
  split at h
  · rename_i field hfield
    unfold Turn.enterContact at h
    split at h
    · cases h
      exact .keeps (keeps_say t _ _ _)
    · refine .keeps (Keeps.ofLeft (keeps_checkout h) ?_ ?_ ?_)
      · cases field <;> exact .inr rfl
      · cases field <;> rfl
      · cases field <;> exact fun _ h => h
  · cases h
    exact opened_plainText lang t _ _ _

theorem Opened.ofLeft {data : Option String}
    (h : Opened data (Turn.choosing { s := s, c := t.c }) v')
    (hselection : s.selection = none ∨ s.selection = t.s.selection)
    (hconfirmation : s.budgetConfirmation = t.s.budgetConfirmation) (hcards : s.cards = t.s.cards) :
    Opened data t.choosing v' := by
  have hkept : ∀ id ∈ s.cards, id ∈ t.s.cards := fun id hid => hcards ▸ hid
  have hcontext {c : Context} (hkeeps : Keeps (Turn.choosing { s := s, c := c }) v') :
      Keeps (Turn.choosing { s := t.s, c := c }) v' :=
    Keeps.ofLeft (t := { s := t.s, c := c }) hkeeps hselection hconfirmation hkept
  cases h with
  | keeps h => exact .keeps (h.ofLeft hselection hconfirmation hkept)
  | asked h hop huser hoverride hhops => exact .asked (hcontext (c := v'.c) h) hop huser hoverride hhops
  | ordered h hop huser hoverride hstarted =>
    exact .ordered (hcontext (c := v'.c) h) hop huser hoverride hstarted
  | pressed h =>
    refine .pressed ⟨?_, h.cards.trans hcards, h.userId, h.assistantStartedAt, h.op, h.confirmation, ?_⟩
    · rcases h.selection with hnone | hsame
      · exact .inl hnone
      · rw [hsame]
        exact hselection
    · obtain ⟨b, hb, hrest⟩ := h.budgetOverride
      exact ⟨b, hconfirmation.symm.trans hb, hrest⟩

/-- What an update does to a session it finds. -/
theorem opened_prepare {config : Config} {data : Option String}
    (h : t.prepare lang config data now = .ok t') : Opened data t.choosing t'.choosing := by
  unfold Turn.prepare at h
  dsimp only at h
  split at h
  · cases h
    exact .keeps (Keeps.refl _)
  split at h
  · cases h
    exact .keeps ((keeps_say _ _ _ _).ofLeft (.inr rfl) rfl fun _ h => h)
  · split at h
    · have hopened := opened_callback lang h
      split at hopened
      · exact Opened.ofLeft hopened (.inl rfl) rfl rfl
      · exact Opened.ofLeft hopened (.inr rfl) rfl rfl
    · have hopened := opened_text lang h
      split at hopened
      · exact Opened.ofLeft hopened (.inl rfl) rfl rfl
      · exact Opened.ofLeft hopened (.inr rfl) rfl rfl

/-! ## Answers -/

def Context.ShowsCard (c : Context) (id : String) : Prop :=
  ∃ m ∈ c.messages, ∃ row ∈ m.buttons, ∃ b ∈ row, b.data = "shop:view:" ++ id

def budgetMessage (p : Product) (price ceiling : Cents) (token : String) : Message :=
  { text := slice 3900 (p.name ++ "\nလက်ရှိဈေး "
      ++ (money price ++ if ceiling ≠ price then " – " ++ money ceiling else "") ++ " " ++ p.currency
      ++ " က ရှာထားတဲ့ ဈေးကန့်သတ်ချက်ထက် မြင့်ပါတယ်။ ဒီဈေးနဲ့ ဆက်ရွေးမလား?")
    buttons := [[btn "ဒီဈေးနဲ့ ဆက်ရွေးမယ်" ("shop:budget:" ++ token)]]
    photo := none }

/-- The limit a selection of `p` starts with: that of the preferences, or the price the shopper
has agreed to. -/
def StartsWithin (preferences : Preferences) (c : Context) (p : Product) (maxPrice : Option String) :
    Prop :=
  maxPrice = truthy preferences.maxPrice ∨
    ∃ b, c.budgetOverride = some b ∧ b.productId = p.id ∧ b.currency = p.currency ∧
      maxPrice = some (money b.price)

def Turn.selects (t : Turn) (response : Response) : Bool :=
  ¬ t.c.hops > MAX_LINES + 5 ∧
    ¬ ((truthy t.c.submissionId).isSome ∧ t.s.submission.map Submission.id ≠ t.c.submissionId) ∧
    response.ok ∧ (t.c.op = some .buy ∨ (t.c.op = some .inspectOptions ∧
      t.s.selection.map Selection.productId ≠
        (response.body.bind Body.product).map Product.id))

/-- What an answer can choose: nothing, but a search shows cards, and `buy` and
`inspect_options` start a selection or ask for a budget first. -/
inductive Chosen (preferences : Preferences) (selects : Bool) (body : Option Body) (v v' : Choosing) :
    Prop
  | keeps (h : Keeps v v') (hselects : selects = false ∨ v'.selection = none)
  | shown (h : Keeps { v with cards := v'.cards } v') (hselects : selects = false)
      (hcards : ∀ id ∈ v'.cards, id ∈ v.cards ∨ v'.c.ShowsCard id)
  | started (p : Product) (selection : Selection) (hselects : selects = true)
      (hbody : body.bind Body.product = some p) (hid : selection.productId = p.id)
      (hlimit : StartsWithin preferences v.c p selection.filters.maxPrice)
      (h : Keeps { v with selection := some selection } v')
  | confirmed (p : Product) (price : Cents) (b : BudgetConfirmation)
      (hbody : body.bind Body.product = some p) (h : Keeps { v with confirmation := some b } v')
      (hselection : v'.selection = none) (hid : b.productId = p.id)
      (hcurrency : b.currency = p.currency)
      (hmessage : budgetMessage p price b.price b.token ∈ v'.c.messages)

/-! ### Selections -/

theorem prePick_same (s : Shopper) (selection : Selection) (variants : List Variant)
    (kind : AttributeKind) : (prePick lang s selection variants kind).1.productId = selection.productId ∧
      (prePick lang s selection variants kind).1.filters = selection.filters := by
  unfold prePick
  dsimp only
  split
  · exact ⟨rfl, rfl⟩
  · split
    · exact ⟨rfl, rfl⟩
    · exact ⟨rfl, rfl⟩

theorem prePicks_same (s : Shopper) (selection : Selection) (p : Product) :
    (prePicks lang s selection p).productId = selection.productId ∧
      (prePicks lang s selection p).filters = selection.filters := by
  unfold prePicks
  dsimp only
  obtain ⟨hid, hfilters⟩ := prePick_same lang s selection (eligibleVariants lang p selection.filters true) .size
  obtain ⟨hid', hfilters'⟩ := prePick_same lang s
    (prePick lang s selection (eligibleVariants lang p selection.filters true) .size).1
    (prePick lang s selection (eligibleVariants lang p selection.filters true) .size).2 .color
  exact ⟨hid'.trans hid, hfilters'.trans hfilters⟩

theorem withinBudget_spec {selection' : Selection}
    (h : withinBudget lang selection c p = .ok (.inl selection')) :
    selection' = selection ∨ ∃ b, c.budgetOverride = some b ∧ b.productId = p.id ∧
      b.currency = p.currency ∧
      selection' = { selection with filters := { selection.filters with
        maxPrice := some (money b.price) } } := by
  unfold withinBudget at h
  dsimp only at h
  split at h
  · obtain ⟨prices, -, h⟩ := except_bind_eq_ok.1 h
    split at h
    · obtain ⟨limit, -, h⟩ := except_bind_eq_ok.1 h
      split at h
      · split at h
        · rename_i hoverride
          cases except_pure_eq_ok.1 h
          obtain ⟨b, hb, hmatch⟩ := (Option.any_eq_true _ _).1 hoverride
          rw [decide_eq_true_eq] at hmatch
          right
          refine ⟨b, hb, hmatch.1, hmatch.2.2, ?_⟩
          rw [hmatch.2.1]
        · cases except_pure_eq_ok.1 h
      · cases except_pure_eq_ok.1 h
        exact .inl rfl
    · cases except_pure_eq_ok.1 h
      exact .inl rfl
  · cases except_pure_eq_ok.1 h
    exact .inl rfl

theorem keeps_openOptions (t : Turn) (op : Op) (selection : Selection) (p : Product) (now : ℕ) :
    Keeps { t.choosing with selection := some selection }
      (t.openOptions lang op selection p now).choosing := by
  unfold Turn.openOptions
  dsimp only
  refine Keeps.ofSession (t := { t with s := { t.s with selection := some selection } })
    (keeps_options lang rfl p now _) ?_ (fun _ h => h) fun _ h => h
  intro selection' h
  cases h
  split
  · exact ⟨selection, rfl, rfl, rfl⟩
  · exact ⟨selection, rfl, rfl, rfl⟩

theorem mem_messages_say (c : Context) (text : String) (buttons : List (List Button)) :
    { text := slice 3900 text, buttons := buttons, photo := none } ∈ (c.say text buttons).messages := by
  unfold Context.say
  exact List.mem_append_right _ List.mem_cons_self

variable {body : Option Body}

theorem chosen_confirmBudget (t : Turn) (p : Product) (price ceiling : Cents) (now : ℕ)
    (selects : Bool) (hbody : body.bind Body.product = some p) :
    Chosen t.s.preferences selects body t.choosing (t.confirmBudget p price ceiling now).choosing := by
  have hmessage : budgetMessage p price ceiling (nonce t.s now) ∈
      (t.confirmBudget p price ceiling now).c.messages := mem_messages_say t.c _ _
  have hkeeps : Keeps { t.choosing with confirmation := some ⟨p.id, ceiling, p.currency, nonce t.s now, now⟩ }
      (t.confirmBudget p price ceiling now).choosing := by
    refine ⟨?_, fun _ h => h, fun _ h => h, rfl, rfl, rfl, .inl ⟨rfl, fun h => by cases h⟩⟩
    rintro selection h
    cases h
  exact .confirmed p price _ hbody hkeeps rfl rfl rfl hmessage

theorem selectionFor_preserved (now : ℕ)
    (h : op = .inspectOptions ∧ s.selection.map Selection.productId = some p.id) :
    ∃ selection, s.selection = some selection ∧ s.selectionFor op p now = (selection, true) := by
  obtain ⟨selection, hselection, hid⟩ := Option.map_eq_some_iff.1 h.2
  refine ⟨selection, hselection, ?_⟩
  unfold Shopper.selectionFor
  rw [hselection]
  dsimp only
  rw [if_pos ⟨h.1, hid⟩]

theorem selectionFor_new
    (h : ¬ (op = .inspectOptions ∧ s.selection.map Selection.productId = some p.id)) :
    s.selectionFor op p now = (s.newSelection p now, false) := by
  unfold Shopper.selectionFor
  split
  · rename_i selection hselection
    rw [hselection] at h
    rw [if_neg fun hsame => h ⟨hsame.1, congrArg some hsame.2⟩]
  · rfl

theorem chosen_applyOptions (hbody : body.bind Body.product = some p)
    (h : t.applyOptions lang op p now = .ok t') :
    Chosen t.s.preferences
      (¬ (op = .inspectOptions ∧ t.s.selection.map Selection.productId = some p.id)) body
      t.choosing t'.choosing := by
  unfold Turn.applyOptions at h
  by_cases hpreserve : op = .inspectOptions ∧ t.s.selection.map Selection.productId = some p.id
  · obtain ⟨selection, hselection, hfor⟩ := selectionFor_preserved now hpreserve
    rw [hfor] at h
    cases h
    refine .keeps ?_ (.inl (by simpa using hpreserve))
    have hkeeps := keeps_openOptions lang { t with s := { t.s with focused := some p.id } } op
      selection p now
    rw [← hselection] at hkeeps
    exact hkeeps
  · rw [selectionFor_new hpreserve] at h
    dsimp only at h
    obtain ⟨budget, hbudget, h⟩ := except_bind_eq_ok.1 h
    split at h
    · rename_i price ceiling
      cases h
      exact chosen_confirmBudget { t with s := { t.s with focused := some p.id } } p price ceiling now _
        hbody
    · rename_i selection
      cases h
      obtain ⟨hid, hfilters⟩ := prePicks_same lang { t.s with focused := some p.id } selection p
      have hopened := keeps_openOptions lang { t with s := { t.s with focused := some p.id } } op
        (prePicks lang { t.s with focused := some p.id } selection p) p now
      refine .started p _ (decide_eq_true hpreserve) hbody ?_ ?_ hopened
      · rw [hid]
        rcases withinBudget_spec lang hbudget with rfl | ⟨b, -, -, -, rfl⟩
        · rfl
        · rfl
      · rw [hfilters]
        rcases withinBudget_spec lang hbudget with rfl | ⟨b, hb, hproduct, hcurrency, rfl⟩
        · exact .inl rfl
        · exact .inr ⟨b, hb, hproduct, hcurrency, rfl⟩

theorem keeps_applyPick (h : t.applyPick lang p now = .ok t') : Keeps t.choosing t'.choosing := by
  unfold Turn.applyPick at h
  split at h
  · cases h
    exact keeps_stale t
  rename_i selection hselection
  split at h
  · cases h
    exact keeps_stale t
  split at h
  · cases h
  · rename_i kind id _
    cases h
    refine Keeps.ofSession (keeps_options lang ?_ p now none) ?_ ?_ ?_
    · rfl
    · rintro selection' hin
      cases hin
      exact ⟨selection, hselection, rfl, rfl⟩
    · exact fun _ h => h
    · exact fun _ h => h

theorem keeps_addVariant {variant : Variant} {amount : ℕ}
    (h : t.addVariant p variant amount now = .ok t') : Keeps t.choosing t'.choosing := by
  have hsaid (text : String) :
      Keeps t.choosing (Turn.say { t with c := { t.c with itemAdded := false } } text).choosing :=
    (keeps_say _ _ _ _).ofContext rfl rfl rfl rfl rfl
  unfold Turn.addVariant at h
  dsimp only at h
  split at h
  · cases h
    exact hsaid _
  split at h
  · cases h
    exact hsaid _
  split at h
  · cases h
    exact hsaid _
  · refine Keeps.ofLeft (Keeps.ofContext (keeps_renderCart h) ?_ ?_ ?_ ?_ ?_) ?_ ?_ ?_
    · rfl
    · rfl
    · rfl
    · rfl
    · rfl
    · exact .inl rfl
    · rfl
    · exact fun _ h => h

theorem keeps_applyQuantity (h : t.applyQuantity lang p now = .ok t') :
    Keeps t.choosing t'.choosing := by
  unfold Turn.applyQuantity at h
  split at h
  · cases h
    exact keeps_stale t
  split at h
  · cases h
    exact keeps_stale t
  split at h
  · cases h
    exact keeps_say t _ _ _
  · split at h
    · exact keeps_addVariant h
    · cases h
      exact keeps_say t _ _ _

theorem keeps_askLegacy (hop : t.c.op = some .legacy) (item : OrderItem) :
    Keeps t.choosing (t.askLegacy item).choosing := by
  refine ⟨fun selection h => ⟨selection, h, rfl, rfl⟩, fun _ h => h, fun _ h => h, rfl, rfl, rfl,
    .inl ⟨hop.symm, fun _ => .inr ?_⟩⟩
  change t.c.op ≠ _
  rw [hop]
  decide

theorem op_renderCart (h : t.renderCart now heading = .ok t') : t'.c.op = t.c.op := by
  unfold Turn.renderCart at h
  dsimp only at h
  split at h
  · cases h
    rfl
  · obtain ⟨amounts, -, h⟩ := except_bind_eq_ok.1 h
    cases h
    rfl

theorem op_addVariant {variant : Variant} {amount : ℕ}
    (h : t.addVariant p variant amount now = .ok t') : t'.c.op = t.c.op := by
  unfold Turn.addVariant at h
  dsimp only at h
  split at h
  · cases h
    rfl
  split at h
  · cases h
    rfl
  split at h
  · cases h
    rfl
  · have hop := op_renderCart h
    exact hop

theorem keeps_applyLegacy {body : Body} (hop : t.c.op = some .legacy)
    (h : t.applyLegacy lang body now = .ok t') : Keeps t.choosing t'.choosing := by
  unfold Turn.applyLegacy at h
  obtain ⟨item, -, h⟩ := except_bind_eq_ok.1 h
  split at h
  · cases h
    exact keeps_say _ _ _ _
  · obtain ⟨t₁, hadd, h⟩ := except_bind_eq_ok.1 h
    refine (keeps_addVariant hadd).trans ?_
    split at h
    · cases h
      exact Keeps.refl _
    · refine Keeps.ofContext (c := { t₁.c with legacyIndex := t₁.c.legacyIndex + 1 }) ?_
        rfl rfl rfl rfl rfl
      dsimp only at h
      split at h
      · cases h
        refine keeps_askLegacy ?_ _
        exact (op_addVariant hadd).trans hop
      · cases h
        exact Keeps.refl _

/-! ### Cards -/

theorem mem_assign {κ ν : Type} [DecidableEq κ] {l : List (κ × ν)} {key : κ} {value : ν} {e : κ × ν}
    (h : e ∈ assign l key value) : e ∈ l ∨ e = (key, value) := by
  induction l with
  | nil => exact .inr (List.mem_singleton.1 h)
  | cons entry l ih =>
    obtain ⟨k, v⟩ := entry
    unfold assign at h
    split at h
    · rename_i hkey
      rcases List.mem_cons.1 h with rfl | h
      · rw [hkey]
        exact .inr rfl
      · exact .inl (List.mem_cons_of_mem _ h)
    · rcases List.mem_cons.1 h with rfl | h
      · exact .inl List.mem_cons_self
      · exact (ih h).imp_left (List.mem_cons_of_mem _)

theorem mem_keptCards {cards : List IssuedCard} {kept : List (String × IssuedCard)}
    {e : String × IssuedCard} (h : e ∈ cards.foldl (fun kept p => assign kept p.id p) kept) :
    e ∈ kept ∨ e.2 ∈ cards := by
  induction cards generalizing kept with
  | nil => exact .inl h
  | cons card cards ih =>
    rcases ih h with hassigned | hlater
    · rcases mem_assign hassigned with hold | rfl
      · exact .inl hold
      · exact .inr List.mem_cons_self
    · exact .inr (List.mem_cons_of_mem _ hlater)

theorem mem_newCards {products : List (String × String)} {cards : List (String × IssuedCard)}
    {e : String × IssuedCard}
    (h : e ∈ products.foldl (fun cards p => remove cards p.1 ++ [(p.1, { id := p.1, name := p.2, shownAt := now })]) cards) :
    e ∈ cards ∨ e.2.id ∈ products.map Prod.fst := by
  induction products generalizing cards with
  | nil => exact .inl h
  | cons product products ih =>
    rcases ih h with hadded | hlater
    · rcases List.mem_append.1 hadded with hold | hnew
      · exact .inl (List.mem_of_mem_filter hold)
      · rw [List.mem_singleton.1 hnew]
        exact .inr List.mem_cons_self
    · exact .inr (List.mem_cons_of_mem _ hlater)

variable {id : String}

theorem mem_rememberCards {products : List (String × String)}
    (h : id ∈ (rememberCards s products now).cards) :
    id ∈ s.cards ∨ id ∈ products.map Prod.fst := by
  unfold Shopper.cards at h ⊢
  rcases List.mem_append.1 h with hissued | hitem
  · obtain ⟨card, hcard, rfl⟩ := List.mem_map.1 hissued
    have hcard := List.mem_of_mem_drop (show card ∈ lastN 60 _ from hcard)
    obtain ⟨e, he, rfl⟩ := List.mem_map.1 hcard
    rcases mem_newCards he with hkept | hnew
    · rcases mem_keptCards hkept with hnone | hold
      · exact absurd hnone List.not_mem_nil
      · exact .inl (List.mem_append_left _ (List.mem_map_of_mem (List.mem_of_mem_filter hold)))
    · exact .inr hnew
  · exact .inl (List.mem_append_right _ hitem)

theorem mem_touch (h : id ∈ (s.touch now).cards) : id ∈ s.cards := by
  have hnone : ∀ s : Shopper, id ∈ (rememberCards s [] now).cards → id ∈ s.cards := by
    intro s h
    rcases mem_rememberCards h with hold | hnew
    · exact hold
    · exact absurd hnew List.not_mem_nil
  unfold Shopper.touch at h
  have hkept := hnone _ h
  split at hkept
  · rcases mem_rememberCards hkept with hold | hitem
    · exact hold
    · exact List.mem_append_right _ hitem
  · exact hkept

theorem Context.ShowsCard.mono {c' : Context} (h : c.ShowsCard id)
    (hmessages : c.messages ⊆ c'.messages) : c'.ShowsCard id := by
  obtain ⟨m, hm, hrest⟩ := h
  exact ⟨m, hmessages hm, hrest⟩

theorem messages_say (c : Context) (text : String) (buttons : List (List Button))
    (photo : Option String) : c.messages ⊆ (c.say text buttons photo).messages :=
  List.subset_append_left _ _

theorem showsCard_catalogCard {detailed : Bool} (h : t.catalogCard p detailed = .ok t') :
    t.c.messages ⊆ t'.c.messages ∧ t'.c.ShowsCard p.id := by
  obtain ⟨prices, -, h⟩ := except_bind_eq_ok.1 h
  cases h
  refine ⟨messages_say _ _ _ _, ?_⟩
  exact ⟨_, List.mem_append_right _ List.mem_cons_self, _, List.mem_cons_self, _, List.mem_cons_self, rfl⟩

theorem showsCard_catalogCards
    (h : products.foldlM (fun (t : Turn) p => t.catalogCard p) t = .ok t') :
    Keeps t.choosing t'.choosing ∧ t.c.messages ⊆ t'.c.messages ∧
      ∀ p ∈ products, t'.c.ShowsCard p.id := by
  induction products generalizing t with
  | nil =>
    cases h
    exact ⟨Keeps.refl _, fun _ h => h, nofun⟩
  | cons p products ih =>
    obtain ⟨t₁, hcard, hrest⟩ := except_bind_eq_ok.1 h
    obtain ⟨hmessages, hshown⟩ := showsCard_catalogCard hcard
    obtain ⟨hkeeps, hlater, hall⟩ := ih hrest
    refine ⟨(keeps_catalogCard hcard).trans hkeeps, fun _ hm => hlater (hmessages hm), ?_⟩
    intro p' hp'
    rcases List.mem_cons.1 hp' with rfl | hp'
    · exact hshown.mono hlater
    · exact hall p' hp'

theorem showsCard_showProducts {body : Body} (h : t.showProducts products body now = .ok t') :
    Keeps t.choosing t'.choosing ∧ ∀ p ∈ products, t'.c.ShowsCard p.id := by
  obtain ⟨t₁, hcards, h⟩ := except_bind_eq_ok.1 h
  obtain ⟨prices, -, h⟩ := except_bind_eq_ok.1 h
  cases h
  obtain ⟨hkeeps, -, hall⟩ := showsCard_catalogCards hcards
  have hfirst : Keeps t.choosing t₁.choosing := by
    split at hkeeps
    · refine Keeps.trans ?_ hkeeps
      unfold Turn.sayNothingFound
      split
      · exact keeps_say _ _ _ _
      split
      · exact keeps_say _ _ _ _
      split
      · exact keeps_say _ _ _ _
      · exact keeps_say _ _ _ _
    · exact hkeeps
  refine ⟨hfirst.trans ((keeps_discoveryControls _ _ _).ofLeft (.inr rfl) rfl fun _ h => h), ?_⟩
  intro p hp
  exact (hall p hp).mono (messages_say _ _ _ _)

@[simp] theorem selection_noteProducts (s : Shopper) (products : List Product) (now : ℕ) :
    (s.noteProducts products now).selection = none := rfl

@[simp] theorem budgetConfirmation_noteProducts (s : Shopper) (products : List Product) (now : ℕ) :
    (s.noteProducts products now).budgetConfirmation = s.budgetConfirmation := rfl

theorem mem_noteProducts (h : id ∈ (s.noteProducts products now).cards) :
    id ∈ s.cards ∨ ∃ p ∈ products, p.id = id := by
  have hitems : ∀ id ∈ (products.map fun p => (p.id, p.name)).map Prod.fst, ∃ p ∈ products, p.id = id := by
    intro id hid
    rw [List.map_map] at hid
    obtain ⟨p, hp, rfl⟩ := List.mem_map.1 hid
    exact ⟨p, hp, rfl⟩
  let items := products.map fun p => (p.id, p.name)
  let found : Shopper := { s with
    catalog := products.map Product.id, focused := none, selection := none, stage := none
    catalogItems := items }
  have h : id ∈ (rememberCards found items now).cards := h
  rcases mem_rememberCards h with hold | hnew
  · rcases List.mem_append.1 hold with hissued | hitem
    · exact .inl (List.mem_append_left _ hissued)
    · exact .inr (hitems id hitem)
  · exact .inr (hitems id hnew)

theorem keeps_noteProducts
    (h : Keeps (Turn.choosing { s := t.s.noteProducts products now, c := c }) t'.choosing) :
    Keeps ⟨t.s.selection, t.s.budgetConfirmation, t'.s.cards, c⟩ t'.choosing where
  selection := fun selection hin => by
    obtain ⟨_, hnone, -⟩ := h.selection selection hin
    cases hnone
  confirmation := h.confirmation
  cards := fun _ h => h
  userId := h.userId
  budgetOverride := h.budgetOverride
  assistantStartedAt := h.assistantStartedAt
  pending := h.pending

/-- A search shows the cards it remembers. -/
theorem chosen_applySearch (preferences : Preferences) (h : t.applySearch body now = .ok t') :
    Chosen preferences false body t.choosing t'.choosing := by
  unfold Turn.applySearch at h
  split at h
  · rename_i body found _
    dsimp only at h
    split at h
    · rename_i next hnext
      cases h
      have hnone : found.take 3 = [] := by
        by_contra hsome
        rw [if_neg fun h => hsome h.1] at hnext
        cases hnext
      refine .keeps ?_ (.inl rfl)
      refine Keeps.ofSession (s := t.s.noteProducts (found.take 3) now) ?_ ?_ ?_ ?_
      · exact (keeps_discover _ _ _).ofContext rfl rfl rfl rfl rfl
      · rw [selection_noteProducts]
        intro selection hin
        cases hin
      · rw [budgetConfirmation_noteProducts]
        exact fun _ h => h
      · intro id hid
        rcases mem_noteProducts hid with hold | ⟨p, hp, -⟩
        · exact hold
        · rw [hnone] at hp
          cases hp
    · obtain ⟨hkeeps, hshown⟩ := showsCard_showProducts h
      refine .shown (keeps_noteProducts hkeeps) rfl fun id hid => ?_
      rcases mem_noteProducts (hkeeps.cards id hid) with hold | ⟨p, hp, rfl⟩
      · exact .inl hold
      · exact .inr (hshown p hp)
  · cases h
    exact .keeps (keeps_say t _ _ _) (.inl rfl)

theorem keeps_verify (t : Turn) (body : Body) (now : ℕ) :
    Keeps t.choosing (t.applyVerify body now).choosing := by
  unfold Turn.applyVerify
  exact (keeps_say _ _ _ _).ofLeft (.inr rfl) rfl fun _ h => h

theorem keeps_checkAccount (t : Turn) (body : Body) :
    Keeps t.choosing (t.applyCheckAccount body).choosing := by
  unfold Turn.applyCheckAccount
  exact (keeps_say _ _ _ _).ofLeft (.inr rfl) rfl fun _ h => h

theorem choosing_linkCustomer (s : Shopper) (body : Body) (c : Context) :
    Turn.choosing { s := s.linkCustomer body, c := c } = Turn.choosing { s := s, c := c } := by
  unfold Shopper.linkCustomer
  dsimp only
  split
  · split
    · rfl
    · rfl
  · split
    · rfl
    · rfl

theorem keeps_submitRequest (h : t.submitRequest = .ok t') : Keeps t.choosing t'.choosing := by
  obtain ⟨submission, -, h⟩ := except_bind_eq_ok.1 h
  cases h
  exact (keeps_request _ (by decide) (by decide)).ofLeft (.inr rfl) rfl fun _ h => h

theorem keeps_leaveUncertain {text : String} (h : t.leaveUncertain text = .ok t') :
    Keeps t.choosing t'.choosing := by
  obtain ⟨submission, -, h⟩ := except_bind_eq_ok.1 h
  cases h
  exact (keeps_say _ _ _ _).ofLeft (.inr rfl) rfl fun _ h => h

theorem keeps_abortSubmission (h : t.abortSubmission now = .ok t') :
    Keeps t.choosing t'.choosing := by
  unfold Turn.abortSubmission at h
  exact (keeps_renderCart h).ofLeft (.inr rfl) rfl fun _ h => h

theorem keeps_lineChecked (h : t.lineChecked = .ok t') : Keeps t.choosing t'.choosing := by
  unfold Turn.lineChecked at h
  refine Keeps.ofContext (c := { t.c with checkIndex := t.c.checkIndex + 1 }) ?_ rfl rfl rfl rfl rfl
  dsimp only at h
  split at h
  · cases h
    exact keeps_detail _ _ (by decide) (by decide)
  · split at h
    · cases h
      exact keeps_request _ (by decide) (by decide)
    · exact keeps_submitRequest h

theorem keeps_applyValidation (h : t.applyValidation p now = .ok t') :
    Keeps t.choosing t'.choosing := by
  unfold Turn.applyValidation at h
  split at h
  · split at h
    · exact keeps_abortSubmission h
    · cases h
  · split at h
    · exact keeps_abortSubmission h
    · split at h
      · exact keeps_abortSubmission h
      · obtain ⟨price, -, h⟩ := except_bind_eq_ok.1 h
        obtain ⟨shown, -, h⟩ := except_bind_eq_ok.1 h
        split at h
        · exact (keeps_checkout h).ofLeft (.inr rfl) rfl fun _ h => h
        · exact keeps_lineChecked h

theorem keeps_applyOrder {b : Body} (h : t.applyOrder b now = .ok t') :
    Keeps t.choosing t'.choosing := by
  unfold Turn.applyOrder at h
  split at h
  · cases h
    refine Keeps.ofLeft (Keeps.ofContext (keeps_say _ _ _ _) rfl rfl rfl rfl rfl) (.inl rfl) rfl ?_
    exact fun _ h => h
  · exact keeps_leaveUncertain h

theorem keeps_applyFailure {status : ℕ} (h : t.applyFailure status = .ok t') :
    Keeps t.choosing t'.choosing := by
  unfold Turn.applyFailure at h
  split at h
  · exact keeps_leaveUncertain h
  · have hsaid (text : String) : Keeps t.choosing
        (Turn.say { t with s := { t.s with submission := none } } text).choosing :=
      (keeps_say _ _ _ _).ofLeft (.inr rfl) rfl fun _ h => h
    dsimp only at h
    split at h
    · cases h
      exact hsaid _
    split at h
    · cases h
      exact hsaid _
    · cases h
      exact hsaid _

/-! ### All answers -/

variable {response : Response}

theorem selects_eq_false (hbuy : t.c.op ≠ some .buy)
    (hinspect : t.c.op ≠ some .inspectOptions) : t.selects response = false := by
  unfold Turn.selects
  simp [hbuy, hinspect]

theorem chosen_success (hbuy : t.c.op = some .buy → t.selects response = true)
    (hinspect : ∀ p, t.c.op = some .inspectOptions → response.body.bind Body.product = some p → t.selects response = decide (¬ t.s.selection.map Selection.productId = some p.id))
    (h : t.applySuccess lang response.body now = .ok t') :
    Chosen t.s.preferences (t.selects response) response.body t.choosing t'.choosing := by
  have hkeeps {op : Op} (hop : t.c.op = some op) (hnone : op ≠ .buy ∧ op ≠ .inspectOptions)
      (hkeeps : Keeps t.choosing t'.choosing) :
      Chosen t.s.preferences (t.selects response) response.body t.choosing t'.choosing := by
    refine .keeps hkeeps (.inl (selects_eq_false ?_ ?_))
    · rw [hop]
      exact fun h => hnone.1 (Option.some.inj h)
    · rw [hop]
      exact fun h => hnone.2 (Option.some.inj h)
  unfold Turn.applySuccess at h
  dsimp only at h
  split at h
  · rename_i hop
    rw [selects_eq_false (by rw [hop]; decide) (by rw [hop]; decide)]
    exact chosen_applySearch _ h
  · rename_i hop
    obtain ⟨b, hb, h⟩ := except_bind_eq_ok.1 h
    cases h
    exact hkeeps hop (by decide) ((keeps_say _ _ _ _).ofLeft (.inr rfl) rfl fun _ h => h)
  · rename_i hop
    obtain ⟨p, hp, h⟩ := except_bind_eq_ok.1 h
    exact hkeeps hop (by decide) ((keeps_catalogCard h).ofLeft (.inr rfl) rfl fun _ h => h)
  · rename_i hop
    obtain ⟨p, hp, h⟩ := except_bind_eq_ok.1 h
    have hchosen := chosen_applyOptions lang (orTypeError_eq_ok.1 hp) h
    rw [hbuy hop]
    simpa using hchosen
  · rename_i hop
    obtain ⟨p, hp, h⟩ := except_bind_eq_ok.1 h
    have hchosen := chosen_applyOptions lang (orTypeError_eq_ok.1 hp) h
    rw [hinspect p hop (orTypeError_eq_ok.1 hp)]
    simpa using hchosen
  · rename_i hop
    obtain ⟨p, hp, h⟩ := except_bind_eq_ok.1 h
    exact hkeeps hop (by decide) (keeps_applyPick lang h)
  · rename_i hop
    obtain ⟨p, hp, h⟩ := except_bind_eq_ok.1 h
    exact hkeeps hop (by decide) (keeps_applyQuantity lang h)
  · rename_i hop
    obtain ⟨b, hb, h⟩ := except_bind_eq_ok.1 h
    exact hkeeps hop (by decide) (keeps_applyLegacy lang hop h)
  · rename_i hop
    obtain ⟨b, hb, h⟩ := except_bind_eq_ok.1 h
    cases h
    exact hkeeps hop (by decide) (keeps_say t _ _ _)
  · rename_i hop
    obtain ⟨b, hb, h⟩ := except_bind_eq_ok.1 h
    cases h
    exact hkeeps hop (by decide) (keeps_verify t b now)
  · rename_i hop
    obtain ⟨b, hb, h⟩ := except_bind_eq_ok.1 h
    cases h
    exact hkeeps hop (by decide) (keeps_checkAccount t b)
  · rename_i hop
    obtain ⟨b, hb, h⟩ := except_bind_eq_ok.1 h
    have hchecked := keeps_checkout h
    rw [choosing_linkCustomer] at hchecked
    exact hkeeps hop (by decide) hchecked
  · rename_i hop
    obtain ⟨p, hp, h⟩ := except_bind_eq_ok.1 h
    exact hkeeps hop (by decide) (keeps_applyValidation h)
  · rename_i hop
    exact hkeeps hop (by decide) ((keeps_submitRequest h).ofLeft (.inr rfl) rfl fun _ h => h)
  · rename_i hop
    obtain ⟨b, hb, h⟩ := except_bind_eq_ok.1 h
    exact hkeeps hop (by decide) (keeps_applyOrder h)
  · rename_i hop
    cases h
    exact hkeeps hop (by decide) (keeps_say t _ _ _)
  · rename_i hop
    cases h
    refine .keeps (keeps_say t _ _ _) (.inl (selects_eq_false ?_ ?_))
    · rw [hop]
      nofun
    · rw [hop]
      nofun

/-- What an answer does to a session it finds. -/
theorem chosen_respond (h : t.respond lang response now = .ok t') :
    Chosen t.s.preferences (t.selects response) response.body t.choosing t'.choosing := by
  have hselects {P : Prop} (hP : t.selects response = true → P) (hnot : ¬ P) :
      t.selects response = false := by
    rw [← Bool.not_eq_true]
    exact fun h => hnot (hP h)
  have hspoken (htrue : t.selects response = true) : ¬ t.c.hops > MAX_LINES + 5 ∧
      ¬ ((truthy t.c.submissionId).isSome ∧ t.s.submission.map Submission.id ≠ t.c.submissionId) ∧
      response.ok = true := by
    unfold Turn.selects at htrue
    rw [decide_eq_true_eq] at htrue
    exact ⟨htrue.1, htrue.2.1, htrue.2.2.1⟩
  unfold Turn.respond at h
  split at h
  · rename_i hhops
    cases h
    have hfalse := hselects (fun htrue => (hspoken htrue).1) (not_not.2 hhops)
    refine .keeps ?_ (.inl hfalse)
    dsimp only
    split
    · exact (keeps_say _ _ _ _).ofLeft (.inr rfl) rfl fun _ h => h
    · exact keeps_say t _ _ _
  rename_i hhops
  split at h
  · rename_i hother
    cases h
    exact .keeps (keeps_stale t) (.inl (hselects (fun htrue => (hspoken htrue).2.1) (not_not.2 hother)))
  rename_i hsame
  split at h
  · rename_i hop
    have hfalse : t.selects response = false := selects_eq_false (by rw [hop]; decide) (by rw [hop]; decide)
    split at h
    · exact .keeps (keeps_applyAssistant lang h) (.inl hfalse)
    · cases h
      exact .keeps (keeps_assistantFallback lang t now) (.inl hfalse)
  split at h
  · rename_i hfailed
    exact .keeps (keeps_applyFailure h) (.inl (hselects (fun htrue => (hspoken htrue).2.2) hfailed))
  · rename_i hok
    have hok := not_not.1 hok
    refine chosen_success lang (t := { t with s := { t.s with touched := now } }) ?_ ?_ h
    · intro hop
      unfold Turn.selects
      exact decide_eq_true ⟨hhops, hsame, hok, .inl hop⟩
    · intro p hop hbody
      unfold Turn.selects
      rw [decide_eq_decide, hbody]
      constructor
      · rintro ⟨-, -, -, hbuy | ⟨-, hother⟩⟩
        · rw [hop] at hbuy
          cases hbuy
        · exact hother
      · intro hother
        exact ⟨hhops, hsame, hok, .inr ⟨hop, hother⟩⟩

end Engine

end Shopping

end FashionErp
