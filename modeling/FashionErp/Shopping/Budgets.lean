/-
Lines that cost more than the shopper wanted to pay.

A selection starts with the limit of the shopper's preferences, or with the price the shopper was
asked about and has agreed to (`Calls.Inv`).
-/
import FashionErp.Shopping.Containment

namespace FashionErp

open Lib

namespace Shopping

/-! ## What a call may add -/

def Affordable (log : List EngineCall) (userId : String) (start : EngineCall) (p : Product)
    (price : Cents) : Prop :=
  ∀ limit ∈ truthy (start.preferences userId).maxPrice,
    (∃ ceiling ∈ priceCents limit, price ≤ ceiling) ∨
      ∃ b, Agreed log userId b ∧ b.productId = p.id ∧ b.currency = p.currency ∧ price ≤ b.price

def Store.line (store : Store) (userId sku : String) : Option CartLine :=
  (dealOf (store.lookup userId)).cart.find? fun line => line.sku = sku

/-- What the call adds to a selection is affordable. -/
def EngineCall.WithinBudget (log : List EngineCall) (call : EngineCall) : Prop :=
  ∀ asked response now sku, call.invocation = .respond asked response now →
    asked.op = some .quantity → call.Adds asked.userId sku →
      ∃ start p line price, startOf log asked.userId = some start ∧
        response.body.bind Body.product = some p ∧
        call.after.line asked.userId sku = some line ∧ priceCents line.unitPrice = some price ∧
        Affordable log asked.userId start p price

/-- The product has kept its currency since the selection was started, unless the selection is
still limited as the preferences were then. The catalog lists a variant once. -/
def Calls.SameCurrency (s : Calls) : Invocation → Prop
  | .prepare _ _ _ => True
  | .respond asked response _ => asked.op = some .quantity →
    ∀ p ∈ response.body.bind Body.product, (p.variants.map Variant.id).Nodup ∧
      ∀ shopper ∈ s.store.lookup asked.userId, ∀ selection ∈ shopper.selection,
        ∀ start ∈ startOf s.log asked.userId,
          selection.filters.maxPrice = truthy (start.preferences asked.userId).maxPrice ∨
            ∀ p₀ ∈ start.product, p.currency = p₀.currency

instance (s : Calls) (invocation : Invocation) : Decidable (s.SameCurrency invocation) := by
  cases invocation with
  | prepare update config now => exact inferInstanceAs (Decidable True)
  | respond asked response now => exact inferInstanceAs (Decidable (_ = _ → ∀ p ∈ _, _ ∧ _))

/-! ## The line of a variant -/

theorem find?_updateLine {sku unitPrice : String} {total : ℕ} {cart : List CartLine}
    (h : (cart.find? fun line => line.sku = sku).isSome) :
    ∃ line, (updateLine sku unitPrice total cart).find? (fun line => line.sku = sku) = some line ∧
      line.unitPrice = unitPrice := by
  induction cart with
  | nil => cases h
  | cons line rest ih =>
    unfold updateLine
    split
    · rename_i hline
      exact ⟨_, List.find?_cons_of_pos (decide_eq_true hline), rfl⟩
    · rename_i hline
      rw [List.find?_cons_of_neg (by simpa using hline)] at h ⊢
      exact ih h

theorem find?_addLine (cart : List CartLine) (p : Product) (variant : Variant) (amount : ℕ) :
    ∃ line, (addLine cart p variant amount).find? (fun line => line.sku = variant.sku) = some line ∧
      line.unitPrice = variant.unitPrice := by
  unfold addLine
  split
  · rename_i hfound
    exact find?_updateLine hfound
  · rename_i hnone
    refine ⟨newLine p variant amount, ?_, rfl⟩
    rw [Option.not_isSome_iff_eq_none] at hnone
    rw [List.find?_append, hnone, Option.none_or]
    exact List.find?_cons_of_pos (decide_eq_true rfl)

/-! ## The limit of a selection -/

theorem price_of_eligible {lang : Language} {p : Product} {filters : Preferences} {variant : Variant}
    (hnodup : (p.variants.map Variant.id).Nodup) (hvariant : variant ∈ p.variants)
    (h : (eligibleVariants lang p filters true).any fun v => v.id = variant.id) :
    ∃ price, priceCents variant.unitPrice = some price ∧
      ∀ limit ∈ filters.maxPrice, ∃ ceiling ∈ priceCents limit, price ≤ ceiling := by
  obtain ⟨v, hv, hid⟩ := List.any_eq_true.1 h
  rw [decide_eq_true_eq] at hid
  unfold eligibleVariants at hv
  dsimp only at hv
  split at hv
  · cases hv
  split at hv
  · cases hv
  · rename_i hceiling
    rw [List.mem_filter] at hv
    obtain ⟨hoffered, heligible⟩ := hv
    obtain rfl := List.inj_on_of_nodup_map hnodup hoffered hvariant hid
    cases hprice : priceCents v.unitPrice with
    | none =>
      rw [hprice] at heligible
      cases heligible
    | some price =>
      rw [hprice] at heligible
      simp only [Bool.decide_and, Bool.and_eq_true, decide_eq_true_eq] at heligible
      refine ⟨price, rfl, fun limit hlimit => ?_⟩
      rw [hlimit, Option.map_some] at hceiling heligible
      cases hread : priceCents limit with
      | none => exact absurd (congrArg some hread) hceiling
      | some ceiling =>
        rw [hread] at heligible
        exact ⟨ceiling, rfl, heligible.2.1 ceiling rfl⟩

theorem affordable_of_selected {log : List EngineCall} {userId : String} {selection : Selection}
    {start : EngineCall} {p p₀ : Product} {price : Cents}
    (hp₀ : start.product = some p₀) (hid : p₀.id = p.id)
    (hlimit : selection.filters.maxPrice = truthy (start.preferences userId).maxPrice ∨
      ∃ b, Agreed log userId b ∧ b.productId = p₀.id ∧ b.currency = p₀.currency ∧
        selection.filters.maxPrice = some (money b.price))
    (hcurrency : selection.filters.maxPrice = truthy (start.preferences userId).maxPrice ∨
      ∀ p₀ ∈ start.product, p.currency = p₀.currency)
    (hprice : ∀ limit ∈ selection.filters.maxPrice, ∃ ceiling ∈ priceCents limit, price ≤ ceiling) :
    Affordable log userId start p price := by
  intro limit hin
  by_cases hkept : selection.filters.maxPrice = truthy (start.preferences userId).maxPrice
  · rw [hkept] at hprice
    exact .inl (hprice limit hin)
  · right
    obtain ⟨b, hagreed, hproduct, hsame, hmoney⟩ := hlimit.resolve_left hkept
    have hnow := hcurrency.resolve_left hkept p₀ hp₀
    obtain ⟨ceiling, hceiling, hle⟩ := hprice _ hmoney
    have hread : cents (money b.price) = .ok ceiling := cents_eq_ok.2 hceiling
    rw [cents_toFixed2 hread] at hle
    exact ⟨b, hagreed, hproduct.trans hid, hsame.trans hnow.symm, hle⟩

theorem withinBudget_made {lang : Language} {s : Calls} {call : EngineCall} (hinv : s.Inv)
    (hmade : call.Made lang) (hbefore : call.before = s.store) (hC : s.SameCurrency call.invocation) :
    call.WithinBudget s.log := by
  intro asked response now sku hinvocation hop hadds
  cases hmade with
  | unheard update config now text h => cases h.symm.trans hinvocation
  | prepared update config now found t h => cases h.symm.trans hinvocation
  | lost asked' response' now' h hfound hafter =>
    unfold EngineCall.Adds at hadds
    rw [hafter] at hadds
    exact absurd hadds (lt_irrefl _)
  | responded asked' response' now' shopper t h hfound hrespond hcontext hafter =>
    cases h.symm.trans hinvocation
    have hsession : call.after.lookup asked.userId = some t.s := by
      rw [hafter, if_pos rfl]
    have hmore : quantityOf shopper.cart sku < quantityOf t.s.cart sku := by
      unfold EngineCall.Adds at hadds
      rw [hfound, hsession] at hadds
      exact hadds
    rcases respond_added hrespond hmore with
      hlegacy | ⟨-, p, hp, selection, variant, hselected, rfl, hcart⟩
    · cases hop.symm.trans hlegacy
    · rw [hbefore] at hfound
      obtain ⟨start, p₀, hstart, hp₀, hid, hlimit⟩ :=
        (hinv.sessions asked.userId shopper asked.next hfound).selection selection hselected.current
      rw [hinvocation] at hC
      obtain ⟨hnodup, hcurrency⟩ := hC hop p hp
      obtain ⟨price, hprice, hwithin⟩ :=
        price_of_eligible hnodup hselected.offered hselected.eligible
      obtain ⟨line, hline, hunit⟩ := find?_addLine shopper.cart p variant asked.next.amount
      refine ⟨start, p, line, price, hstart, hp, ?_, ?_, ?_⟩
      · unfold Store.line
        rw [hsession, ← hline, ← hcart]
        rfl
      · rw [hunit]
        exact hprice
      · exact affordable_of_selected hp₀ (hid.trans hselected.product) hlimit
          (hcurrency shopper hfound selection hselected.current start hstart) hwithin

/-- No line is over the budget without consent in a run that keeps to the currency of what was
selected. -/
theorem withinBudget_of_sameCurrency {lang : Language} {invocations : List Invocation} {s : Calls}
    (hrun : (calls lang).RunWith Calls.SameCurrency .start invocations s)
    {earlier later : List EngineCall} {call : EngineCall} (hlog : s.log = earlier ++ call :: later) :
    call.WithinBudget earlier := by
  refine (forall_calls (P := fun log call => call.WithinBudget log) ?_ hrun).2 earlier call later hlog
  intro s call hinv hmade hbefore hC _
  exact withinBudget_made hinv hmade hbefore hC

/-! ## What the shopper was asked -/

def NoneIn (currency : String) (log : List EngineCall) : Prop :=
  ∀ call ∈ log, ∀ p ∈ call.product, p.currency ≠ currency

instance (currency : String) (log : List EngineCall) : Decidable (NoneIn currency log) :=
  inferInstanceAs (Decidable (∀ call ∈ log, ∀ p ∈ call.product, _ ≠ _))

theorem NoneIn.not_agreed {currency userId : String} {log : List EngineCall}
    (h : NoneIn currency log) {b : BudgetConfirmation} (hcurrency : b.currency = currency) :
    ¬ Agreed log userId b := by
  rintro ⟨earlier, press, later, rfl, ⟨call, hcall, -, p, hp, price, -, hsame, -⟩, -⟩
  exact h call (List.mem_append_left _ hcall) p hp (hsame.trans hcurrency)

theorem log_invocations {lang : Language} {C : Calls → Invocation → Prop}
    {invocations : List Invocation} {s s' : Calls} (h : (calls lang).RunWith C s invocations s') :
    s'.log.map EngineCall.invocation = s.log.map EngineCall.invocation ++ invocations := by
  induction h with
  | done s => rw [List.append_nil]
  | @step s s₁ s' invocation rest hc hs hrest ih =>
    have hlog : s₁.log.map EngineCall.invocation = s.log.map EngineCall.invocation ++ [invocation] := by
      change Calls.step lang s invocation = some s₁ at hs
      unfold Calls.step at hs
      split at hs
      · obtain ⟨out, -, rfl⟩ := Option.map_eq_some_iff.1 hs
        exact List.map_append
      · split at hs
        · obtain ⟨out, -, rfl⟩ := Option.map_eq_some_iff.1 hs
          exact List.map_append
        · cases hs
    rw [ih, hlog, List.append_assoc, List.singleton_append]

/-! A dress gets dearer while a shopper who wants to spend 5.00 at most looks at it. -/

namespace BudgetDemo

def lang : Language :=
  { toLowerCase := id, toUpperCase := id, normalize := id, intent := fun _ => none
    parseQuery := fun text _ => { query := some text, maxPrice := some "5.00" }
    sizeText := id, shortSize := fun _ => false }

def config : Config := { companyId := "C1", assistantEnabled := false }

def chat : Chat := { id := .number 7, type := "private" }

def sender : Sender := { id := .number 7 }

def wrote (updateId : ℤ) (text : String) : Update :=
  { updateId := some updateId
    message := some { chat := some chat, sender := some sender, text := some text } }

def pressed (updateId : ℤ) (data : String) : Update :=
  { updateId := some updateId
    callbackQuery := some {
      sender := some sender, message := some { chat := some chat }, data := some data } }

def dress (unitPrice currency : String) : Product :=
  { id := "P1", name := "Dress", currency := currency
    variants := [{ id := "V1", sku := "D-1", unitPrice := unitPrice, quantityAvailable := 3
                   attributes := [] }] }

def detail (unitPrice currency : String) : Response :=
  { statusCode := 200, body := some { product := some (dress unitPrice currency) } }

def confirmation : BudgetConfirmation :=
  { productId := "P1", price := 900, currency := "MMK", token := "d-3", started := 13 }

def askedQuantity : Context :=
  { (wrote 4 "1").context config with op := some .quantity, amount := 1, selectionToken := some "f-4" }

/-- The shopper agrees to 9.00 MMK, and the dress is answered for in `currency` at the end. -/
def invocations (currency : String) : List Invocation :=
  [.prepare (wrote 1 "dress") config 10,
    .respond { (wrote 1 "dress").context config with op := some .search }
      { statusCode := 200, body := some { products := some [dress "4.00" "MMK"] } } 11,
    .prepare (pressed 2 "shop:buy:P1") config 12,
    .respond { (pressed 2 "shop:buy:P1").context config with op := some .buy, productId := some "P1" }
      (detail "9.00" "MMK") 13,
    .prepare (pressed 3 "shop:budget:d-3") config 14,
    .respond { (pressed 3 "shop:budget:d-3").context config with
        op := some .buy, budgetOverride := some confirmation }
      (detail "9.00" "MMK") 15,
    .prepare (wrote 4 "1") config 16,
    .respond askedQuantity (detail "9.00" currency) 17]

end BudgetDemo

theorem withinBudget_of_dress : ∃ s earlier call,
    (calls BudgetDemo.lang).RunWith Calls.SameCurrency .start (BudgetDemo.invocations "MMK") s ∧
      s.log = earlier ++ [call] ∧ call.Adds "7" "D-1" ∧ call.WithinBudget earlier := by
  obtain ⟨s, hrun, hs⟩ := Machine.exists_runWith (calls BudgetDemo.lang) Calls.SameCurrency
    .start (BudgetDemo.invocations "MMK") (fun s => s.log.getLast?.any fun call => call.Adds "7" "D-1")
    (by decide +kernel)
  rw [Option.any_eq_true] at hs
  obtain ⟨call, hlast, hadds⟩ := hs
  obtain ⟨earlier, hlog⟩ := List.getLast?_eq_some_iff.1 hlast
  exact ⟨s, earlier, call, hrun, hlog, of_decide_eq_true hadds, withinBudget_of_sameCurrency hrun hlog⟩

/-- A confirmed price is a limit in any currency: 9.00 MMK were agreed to, and the dress is put
into the cart for 9.00 USD. -/
theorem dress_overBudget : ∃ s earlier call,
    (calls BudgetDemo.lang).Run .start (BudgetDemo.invocations "USD") s ∧
      s.log = earlier ++ [call] ∧ ¬ call.WithinBudget earlier := by
  obtain ⟨s, hrun, hs⟩ := Machine.exists_runWith (calls BudgetDemo.lang) (fun _ _ => True)
    .start (BudgetDemo.invocations "USD")
    (fun s => s.log.getLast?.any (fun call => call.Adds "7" "D-1" ∧
        (call.after.line "7" "D-1").all fun line => priceCents line.unitPrice = some 900) ∧
      ((startOf s.log.dropLast "7").all fun start =>
        (start.preferences "7").maxPrice = some "5.00") ∧
      NoneIn "USD" s.log.dropLast)
    (by decide +kernel)
  simp only [Bool.decide_and, Bool.and_eq_true, decide_eq_true_eq, Option.any_eq_true,
    Option.all_eq_true] at hs
  obtain ⟨⟨call, hlast, hadds, hprice⟩, hlimit, hnone⟩ := hs
  obtain ⟨earlier, hlog⟩ := List.getLast?_eq_some_iff.1 hlast
  rw [hlog, List.dropLast_concat] at hlimit hnone
  refine ⟨s, earlier, call, hrun, hlog, fun hwithin => ?_⟩
  have hinvocation := congrArg List.getLast? (log_invocations hrun)
  rw [hlog, List.map_append, List.map_singleton, List.getLast?_concat] at hinvocation
  obtain ⟨start, p, line, price, hstart, hp, hline, hunit, hafford⟩ :=
    hwithin _ _ _ _ (Option.some.inj hinvocation) rfl hadds
  obtain rfl := Option.some.inj ((hprice line hline).symm.trans hunit)
  cases hp
  have hmax : truthy (start.preferences "7").maxPrice = some "5.00" := by
    rw [hlimit start hstart]
    rfl
  rcases hafford "5.00" hmax with ⟨ceiling, hceiling, hle⟩ | ⟨b, hagreed, -, hcurrency, -⟩
  · have hfive : priceCents "5.00" = some 500 := by decide +kernel
    obtain rfl := Option.some.inj (hfive.symm.trans hceiling)
    revert hle
    decide
  · exact hnone.not_agreed hcurrency hagreed

end Shopping

end FashionErp
