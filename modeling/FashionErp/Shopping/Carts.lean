/-
What the shoppers have in their carts, and what is ordered of it.

Whatever the shoppers write and press, and in whatever order the answers come back, a cart has a few
lines of different SKUs (`Orderable`), and an order is sent for such a cart only.
-/
import FashionErp.Shopping.Budgets

namespace FashionErp

open Lib

namespace Shopping

/-! ## Carts -/

/-- A cart that can be ordered. -/
structure Orderable (cart : List CartLine) : Prop where
  lines : cart.length ≤ MAX_LINES
  skus : (cart.map CartLine.sku).Nodup
  quantities : ∀ line ∈ cart, ValidQuantity line.quantity

structure Deal.Ok (d : Deal) : Prop where
  cart : Orderable d.cart
  submitted : d.submission.isSome → d.cart ≠ []

def Request.Ok (r : Request) : Prop :=
  r.path = ordersPath →
    ∃ cart, cart ≠ [] ∧ Orderable cart ∧ r.body.items = some (orderItemsOf cart)

theorem orderable_nil : Orderable [] := ⟨Nat.zero_le _, List.nodup_nil, fun _ h => by cases h⟩

theorem map_sku_updateLine (sku unitPrice : String) (total : ℕ) (cart : List CartLine) :
    (updateLine sku unitPrice total cart).map CartLine.sku = cart.map CartLine.sku := by
  induction cart with
  | nil => rfl
  | cons line rest ih =>
    unfold updateLine
    split
    · rfl
    · rw [List.map_cons, List.map_cons, ih]

theorem mem_updateLine {sku unitPrice : String} {total : ℕ} {cart : List CartLine} {line : CartLine}
    (h : line ∈ updateLine sku unitPrice total cart) : line ∈ cart ∨ line.quantity = total := by
  induction cart with
  | nil => cases h
  | cons first rest ih =>
    unfold updateLine at h
    split at h
    · rcases List.mem_cons.1 h with rfl | h
      · exact .inr rfl
      · exact .inl (List.mem_cons_of_mem _ h)
    · rcases List.mem_cons.1 h with rfl | h
      · exact .inl List.mem_cons_self
      · exact (ih h).imp_left (List.mem_cons_of_mem _)

/-- Lines under the same SKUs, with quantities that may be sold. -/
theorem Orderable.rewrite {cart cart' : List CartLine} (h : Orderable cart)
    (hskus : cart'.map CartLine.sku = cart.map CartLine.sku)
    (hquantities : ∀ line ∈ cart', line ∈ cart ∨ ValidQuantity line.quantity) : Orderable cart' := by
  refine ⟨?_, by rw [hskus]; exact h.skus, fun line hline => ?_⟩
  · have hlength := congrArg List.length hskus
    rw [List.length_map, List.length_map] at hlength
    rw [hlength]
    exact h.lines
  · exact (hquantities line hline).elim (h.quantities line) id

theorem Orderable.addLine {cart : List CartLine} {p : Product} {variant : Variant} {amount : ℕ}
    (h : Orderable cart) (hamount : ValidQuantity amount)
    (hquantity : quantityOf cart variant.sku + amount ≤ MAX_QUANTITY)
    (hlines : (cart.find? fun line => line.sku = variant.sku) = none → cart.length < MAX_LINES) :
    Orderable (addLine cart p variant amount) := by
  unfold Shopping.addLine
  split
  · -- The line of the variant gets more.
    refine h.rewrite (map_sku_updateLine _ _ _ _) fun line hline => ?_
    refine (mem_updateLine hline).imp_right fun htotal => ?_
    rw [htotal]
    exact ⟨hamount.1.trans (Nat.le_add_left _ _), hquantity⟩
  · rename_i hnone
    rw [Option.not_isSome_iff_eq_none] at hnone
    refine ⟨?_, ?_, fun line hline => ?_⟩
    · rw [List.length_append, List.length_singleton]
      exact hlines hnone
    · rw [List.map_append, List.map_singleton, ← List.concat_eq_append, List.nodup_concat]
      refine ⟨fun hin => ?_, h.skus⟩
      obtain ⟨line, hline, hsku⟩ := List.mem_map.1 hin
      exact List.find?_eq_none.1 hnone line hline (decide_eq_true hsku)
    · rcases List.mem_append.1 hline with hold | hnew
      · exact h.quantities line hold
      · rw [List.mem_singleton.1 hnew]
        exact hamount

theorem Orderable.reprice {cart : List CartLine} {i : ℕ} {line : CartLine} (h : Orderable cart)
    (hline : cart[i]? = some line) (unitPrice : String) :
    Orderable (cart.set i { line with unitPrice := unitPrice }) := by
  obtain ⟨hlt, rfl⟩ := List.getElem?_eq_some_iff.1 hline
  refine h.rewrite ?_ fun line hin => ?_
  · rw [List.map_set]
    refine (congrArg (List.set _ i) ?_).trans (List.set_getElem_self (by rw [List.length_map]; exact hlt))
    rw [List.getElem_map]
  · refine (List.mem_or_eq_of_mem_set hin).imp_right fun heq => ?_
    have hquantity := h.quantities _ (List.getElem_mem hlt)
    rw [heq]
    exact hquantity

/-! ## Turns -/

/-- What is asked of the portal is in order. -/
structure View.Ok (v : View) : Prop where
  deal : v.deal.Ok
  amounts : v.c.Amounts
  orders : ∀ r ∈ v.c.request, r.Ok

variable {v v' : View} {data : Option String}

theorem Plain.orders (h : Plain v v') (hv : v.Ok) : ∀ r ∈ v'.c.request, r.Ok := by
  intro r hr hpath
  rcases h.pending r hr with ⟨hold, -⟩ | ⟨-, hother⟩
  · exact hv.orders r hold hpath
  · exact absurd hpath hother

theorem Plain.ok (h : Plain v v') (hv : v.Ok) (hdeal : v'.deal.Ok) : v'.Ok :=
  ⟨hdeal, h.amounts hv.amounts, h.orders hv⟩

theorem CheckedOut.ok {d : Deal} (h : CheckedOut d v v') (hv : v.Ok) (hd : d.Ok) : v'.Ok := by
  refine ⟨by rw [h.deal]; exact hd, h.amounts hv.amounts, fun r hr => ?_⟩
  rw [h.request] at hr
  cases hr

theorem Quiet.ok (h : Quiet v v') (hv : v.Ok) : v'.Ok := by
  refine h.toPlain.ok hv ?_
  rw [h.deal]
  exact hv.deal

/-- What an update leaves is in order. An order that is being sent is left alone. -/
theorem Prepared.ok (h : Prepared data v v') (hwaiting : v.deal.submission.isSome → Quiet v v')
    (hv : v.Ok) : v'.Ok := by
  by_cases hsubmission : v.deal.submission.isSome
  · exact (hwaiting hsubmission).ok hv
  cases h with
  | quiet h => exact h.ok hv
  | cleared h hstage hdeal =>
    refine h.ok hv ?_
    rw [hdeal]
    exact ⟨orderable_nil, fun hsome => absurd hsome hsubmission⟩
  | checkedOut h => exact h.ok hv hv.deal
  | entered field value hdata hstage hread h =>
    refine h.ok hv ?_
    cases field with
    | address => exact ⟨hv.deal.cart, hv.deal.submitted⟩
    | name => exact ⟨hv.deal.cart, hv.deal.submitted⟩
    | phone => exact ⟨hv.deal.cart, hv.deal.submitted⟩
  | submitted first rest hcart hstage hstage' hdeal hcontext =>
    refine ⟨?_, ?_, fun r hr hpath => ?_⟩
    · rw [hdeal]
      exact ⟨hv.deal.cart, fun _ => by rw [hcart]; exact List.cons_ne_nil _ _⟩
    · rw [hcontext]
      exact ⟨nofun, hv.amounts.items⟩
    · rw [hcontext] at hr
      cases hr
      exact absurd hpath (detailPath_ne _)

theorem Deal.Ok.setStatus {d : Deal} (h : d.Ok) (status : SubmissionStatus) : (d.setStatus status).Ok := by
  refine ⟨h.cart, fun hsome => h.submitted ?_⟩
  unfold Deal.setStatus at hsome
  rw [Option.isSome_map] at hsome
  exact hsome

theorem Deal.Ok.link {d : Deal} (h : d.Ok) (body : Body) : (d.link body).Ok := by
  unfold Deal.link
  dsimp only
  split
  all_goals
    split
    · exact ⟨h.cart, h.submitted⟩
    · exact ⟨h.cart, h.submitted⟩

theorem Asks.amounts {op : Op} {r : Request} (h : Asks op r v v') (hop : op ≠ .quantity) (hv : v.Ok) :
    v'.c.Amounts := by
  refine ⟨fun hquantity => ?_, ?_⟩
  · rw [h.op] at hquantity
    exact absurd (Option.some.inj hquantity) hop
  · rw [h.items]
    exact hv.amounts.items

theorem OrderFor.ok {c : Context} {d : Deal} {r : Request} (h : OrderFor c d r) (hd : d.Ok)
    (hsubmission : d.submission.isSome) : r.Ok :=
  fun _ => ⟨d.cart, hd.submitted hsubmission, hd.cart, h.items⟩

/-- What an answer leaves is in order. -/
theorem Responded.ok {lang : Language} {response : Response} (h : Responded lang response v v')
    (hv : v.Ok) : v'.Ok := by
  have hasks {op : Op} {r : Request} (h : Asks op r v v') (hop : op ≠ .quantity) (hdeal : v'.deal.Ok)
      (horder : r.Ok) : v'.Ok := by
    refine ⟨hdeal, h.amounts hop hv, fun r' hr' => ?_⟩
    rw [h.request] at hr'
    cases hr'
    exact horder
  cases h with
  | quiet h hasks => exact h.ok hv
  | added p variant amount hpriced hvariant hamount h =>
    refine h.plain.ok hv ?_
    rw [h.deal]
    refine ⟨hv.deal.cart.addLine (hamount hv.amounts) h.quantity h.lines, fun _ hempty => ?_⟩
    obtain ⟨line, hline, -⟩ := find?_addLine v.deal.cart p variant amount
    rw [show addLine v.deal.cart p variant amount = [] from hempty] at hline
    cases hline
  | verified b hok hbody hop h hstage hdeal =>
    refine h.ok hv ?_
    rw [hdeal]
    exact ⟨hv.deal.cart, hv.deal.submitted⟩
  | accountChecked b hok hbody hop h hdeal =>
    refine h.ok hv ?_
    rw [hdeal]
    exact ⟨hv.deal.cart, hv.deal.submitted⟩
  | linked b hok hbody hop h => exact h.ok hv (hv.deal.link b)
  | released h hdeal hrequest =>
    refine h.ok hv ?_
    rw [hdeal]
    exact ⟨hv.deal.cart, nofun⟩
  | repriced p line variant price hop hok hbody hline hvariant hprice hother h =>
    exact h.ok hv ⟨hv.deal.cart.reprice hline _, nofun⟩
  | nextLine p line next r hop hbody hline hconfirmed hnext hpath hindex hdeal h =>
    refine hasks h nofun (by rw [hdeal]; exact hv.deal) fun horder => ?_
    rw [hpath] at horder
    exact absurd horder (detailPath_ne _)
  | profileAsked p line r hop hbody hline hconfirmed hlast hdirty hpath hname hphone hdeal h =>
    exact hasks h nofun (by rw [hdeal]; exact hv.deal) fun horder => absurd horder hpath
  | sent p line r hop hbody hline hconfirmed hlast hdirty horder hsubmission hdeal h =>
    refine hasks h nofun ?_ (horder.ok hv.deal hsubmission)
    rw [hdeal]
    exact hv.deal.setStatus _
  | sentAfterProfile r hop horder hsubmission hdeal h =>
    have hclean : Deal.Ok { v.deal with profileDirty := false } := ⟨hv.deal.cart, hv.deal.submitted⟩
    refine hasks h nofun ?_ (horder.ok hv.deal hsubmission)
    rw [hdeal]
    exact hclean.setStatus _
  | uncertain hop h hrequest hdeal =>
    refine h.ok hv ?_
    rw [hdeal]
    exact hv.deal.setStatus _
  | ordered hop h hrequest hstage hdeal =>
    refine h.ok hv ?_
    rw [hdeal]
    exact ⟨orderable_nil, nofun⟩

/-! ## Calls -/

/-- What every run keeps. -/
structure Calls.Ok (s : Calls) : Prop where
  keys : (s.store.map Prod.fst).Nodup
  deals : ∀ userId, (dealOf (s.store.lookup userId)).Ok
  amounts : ∀ call ∈ s.log, call.context.Amounts
  orders : ∀ call ∈ s.log, ∀ r ∈ call.context.request, r.Ok

theorem deal_fresh_ok : Deal.fresh.Ok := ⟨orderable_nil, nofun⟩

theorem calls_ok_start : Calls.start.Ok where
  keys := List.nodup_nil
  deals := fun _ => deal_fresh_ok
  amounts := fun _ h => by cases h
  orders := fun _ h => by cases h

theorem Calls.Awaits.amounts {s : Calls} {asked : Context} (h : s.Awaits asked) (hs : s.Ok) :
    asked.Amounts := by
  obtain ⟨call, hcall, -, hbare⟩ := h
  have hamounts : call.context.bare.Amounts :=
    ⟨(hs.amounts call hcall).amount, (hs.amounts call hcall).items⟩
  rw [← hbare] at hamounts
  exact ⟨hamounts.amount, hamounts.items⟩

/-- What a call leaves is in order: the session it is about, and what it asks for. -/
theorem EngineCall.Made.ok {lang : Language} {call : EngineCall} (h : call.Made lang)
    (hbefore : ∀ userId, (dealOf (call.before.lookup userId)).Ok)
    (hasked : ∀ asked response now, call.invocation = .respond asked response now → asked.Amounts) :
    (∀ userId, (dealOf (call.after.lookup userId)).Ok) ∧ call.context.Amounts ∧
      ∀ r ∈ call.context.request, r.Ok := by
  have hkept {userId : String} (hkept : ∀ shopper, call.after.lookup userId = some shopper →
      call.before.lookup userId = some shopper) : (dealOf (call.after.lookup userId)).Ok := by
    cases hafter : call.after.lookup userId with
    | none => exact deal_fresh_ok
    | some shopper =>
      rw [← hkept shopper hafter]
      exact hbefore userId
  cases h with
  | unheard update config now text hinvocation hcontext hstore =>
    rw [hcontext]
    exact ⟨fun userId => hkept (hstore userId), ⟨nofun, fun _ h => by cases h⟩, fun r hr => by cases hr⟩
  | prepared update config now found t hinvocation hfound hprepare hcontext hleft hstore =>
    obtain ⟨hprepared, hwaiting⟩ := prepare_found rfl hprepare
    have hview : (viewOf found (update.context config)).Ok := by
      refine ⟨?_, ⟨nofun, fun _ h => by cases h⟩, fun r hr => by cases hr⟩
      rcases hfound with rfl | rfl
      · exact deal_fresh_ok
      · exact hbefore _
    have hok := hprepared.ok (fun hsubmission => (hwaiting hsubmission).1) hview
    rw [hcontext]
    refine ⟨fun userId => ?_, hok.amounts, hok.orders⟩
    by_cases huser : userId = (update.context config).userId
    · rw [huser, hleft]
      exact hok.deal
    · exact hkept fun shopper => hstore userId shopper huser
  | lost asked response now hinvocation hfound hafter hcontext =>
    have hamounts := hasked asked response now hinvocation
    rw [hcontext, hafter]
    exact ⟨hbefore, ⟨hamounts.amount, hamounts.items⟩, fun r hr => by cases hr⟩
  | responded asked response now shopper t hinvocation hfound hrespond hcontext hafter =>
    have hamounts := hasked asked response now hinvocation
    have hview : (Turn.view { s := shopper, c := asked.next }).Ok := by
      refine ⟨?_, ⟨hamounts.amount, hamounts.items⟩, fun r hr => by cases hr⟩
      have hdeal := hbefore asked.userId
      rw [hfound] at hdeal
      exact hdeal
    have hok := (respond_spec lang hrespond).ok hview
    rw [hcontext]
    refine ⟨fun userId => ?_, hok.amounts, hok.orders⟩
    rw [hafter userId]
    split
    · exact hok.deal
    · exact hbefore userId

/-- A call keeps the shop in order. -/
theorem Calls.Ok.step {lang : Language} {s s' : Calls} {invocation : Invocation} (hs : s.Ok)
    (h : (calls lang).step s invocation = some s') : s'.Ok := by
  obtain ⟨call, hmade, -, hbefore, rfl, hkeys, hawaits⟩ := calls_made hs.keys h
  obtain ⟨hdeals, hamounts, horders⟩ := hmade.ok (by rw [hbefore]; exact hs.deals)
    fun asked response now hinvocation => (hawaits asked response now hinvocation).amounts hs
  refine ⟨hkeys, hdeals, fun call' hcall' => ?_, fun call' hcall' => ?_⟩
  all_goals rcases List.mem_append.1 hcall' with hold | hnew
  · exact hs.amounts call' hold
  · rw [List.mem_singleton.1 hnew]
    exact hamounts
  · exact hs.orders call' hold
  · rw [List.mem_singleton.1 hnew]
    exact horders

/-- Nothing is ordered that cannot be: whatever is written, pressed and answered, a cart has at
most 20 lines of different SKUs and of 1 to 999 pieces, and an order is for such a cart. -/
theorem carts_orderable {lang : Language} {s : Calls} (h : (calls lang).Reaches .start s) :
    (∀ userId, Orderable (dealOf (s.store.lookup userId)).cart) ∧
      ∀ call ∈ s.log, ∀ r ∈ call.context.request, r.path = ordersPath →
        ∃ cart, cart ≠ [] ∧ Orderable cart ∧ r.body.items = some (orderItemsOf cart) := by
  have hok : s.Ok := h.invariant calls_ok_start fun _ _ _ hs hstep => hs.step hstep
  exact ⟨fun userId => (hok.deals userId).cart, hok.orders⟩

theorem carts_orderable_dress : ∃ s, (calls BudgetDemo.lang).Reaches .start s ∧
    (s.store.line "7" "D-1").isSome ∧ Orderable (dealOf (s.store.lookup "7")).cart := by
  obtain ⟨s, hrun, hs⟩ := Machine.exists_runWith (calls BudgetDemo.lang) (fun _ _ => True)
    .start (BudgetDemo.invocations "MMK") (fun s => (s.store.line "7" "D-1").isSome) (by decide +kernel)
  exact ⟨s, ⟨_, hrun⟩, hs, (carts_orderable ⟨_, hrun⟩).1 "7"⟩

/-! ## Sessions of others -/

def Invocation.userId : Invocation → String
  | prepare update config _ => (update.context config).userId
  | respond context _ _ => context.userId

/-- A call finds the sessions of the others as it leaves them, but for those it lets expire. -/
theorem EngineCall.Made.others {lang : Language} {call : EngineCall} (h : call.Made lang)
    {userId : String} (hother : call.invocation.userId ≠ userId) {shopper : Shopper}
    (hafter : call.after.lookup userId = some shopper) : call.before.lookup userId = some shopper := by
  cases h with
  | unheard update config now text hinvocation hcontext hkept => exact hkept userId shopper hafter
  | prepared update config now found t hinvocation hfound hprepare hcontext hleft hkept =>
    rw [hinvocation] at hother
    exact hkept userId shopper hother.symm hafter
  | lost asked response now hinvocation hfound hsame =>
    rw [hsame] at hafter
    exact hafter
  | responded asked response now shopper' t hinvocation hfound hrespond hcontext hlookup =>
    rw [hinvocation] at hother
    have hne : userId ≠ asked.userId := hother.symm
    rw [hlookup, if_neg hne] at hafter
    exact hafter

/-- Nobody shops for somebody else: while only others write, press and are answered, in whatever
order, a shopper's session stays as it is or expires. -/
theorem session_of_its_shopper {lang : Language} {s s' : Calls} {ls : List Invocation}
    {userId : String} (hreach : (calls lang).Reaches .start s)
    (hothers : (calls lang).RunWith (fun _ l => l.userId ≠ userId) s ls s') :
    s'.store.lookup userId = s.store.lookup userId ∨ s'.store.lookup userId = none := by
  have hok : s.Ok := hreach.invariant calls_ok_start fun _ _ _ hs hstep => hs.step hstep
  have hkept : s'.Ok ∧ ∀ shopper, s'.store.lookup userId = some shopper →
      s.store.lookup userId = some shopper := by
    refine hothers.invariant (I := fun t => t.Ok ∧ ∀ shopper, t.store.lookup userId = some shopper →
      s.store.lookup userId = some shopper) ⟨hok, fun _ h => h⟩ ?_
    rintro t invocation t' ⟨ht, hback⟩ hother hstep
    refine ⟨ht.step hstep, fun shopper hafter => ?_⟩
    obtain ⟨call, hmade, rfl, hbefore, rfl, -⟩ := calls_made ht.keys hstep
    have hfound := hmade.others hother hafter
    rw [hbefore] at hfound
    exact hback shopper hfound
  cases hlookup : s'.store.lookup userId with
  | none => exact .inr rfl
  | some shopper => exact .inl (hkept.2 shopper hlookup).symm

theorem session_of_its_shopper_dress : ∃ s s' : Calls, (s.store.line "7" "D-1").isSome ∧
    (s'.store.lookup "8").isSome ∧
      (s'.store.lookup "7" = s.store.lookup "7" ∨ s'.store.lookup "7" = none) := by
  let others : List Invocation := [.prepare
    { updateId := some 5
      message := some {
        chat := some { id := .number 8, type := "private" }, sender := some { id := .number 8 }
        text := some "dress" } } BudgetDemo.config 18]
  let C (_ : Calls) (l : Invocation) := l.userId ≠ "7"
  obtain ⟨s, hrun, hs⟩ := Machine.exists_runWith (calls BudgetDemo.lang) (fun _ _ => True)
    .start (BudgetDemo.invocations "MMK")
    (fun s => (s.store.line "7" "D-1").isSome && ((calls BudgetDemo.lang).execWith C s others).any
      fun s' => (s'.store.lookup "8").isSome) (by decide +kernel)
  rw [Bool.and_eq_true] at hs
  obtain ⟨s', hothers, hs'⟩ := Machine.exists_runWith (calls BudgetDemo.lang) C s others _ hs.2
  exact ⟨s, s', hs.1, hs', session_of_its_shopper ⟨_, hrun⟩ hothers⟩

end Shopping

end FashionErp
