/-
Calls of `createOrder`, and whatever else runs beside them: exactly once.

A call that goes on with a sale has found it under its creation key or has committed it
while holding the key's entry in the unique index, so the sale it goes on with carries its
key and its hash (`StageOk`).
-/
import FashionErp.Portal.CustomerOrders

namespace FashionErp

open Lib Lib.Tx

namespace CustomerOrders

/-! ## What the indexes and the other services keep -/

structure SameCreation (a b : Sale) : Prop where
  id : b.id = a.id
  companyId : b.companyId = a.companyId
  creationKey : b.creationKey = a.creationKey
  creationHash : b.creationHash = a.creationHash

theorem SameCreation.refl (a : Sale) : SameCreation a a := ⟨rfl, rfl, rfl, rfl⟩

variable {a : Sale}

theorem SameCreation.trans {b c : Sale} (h : SameCreation a b) (h' : SameCreation b c) :
    SameCreation a c :=
  ⟨h'.id.trans h.id, h'.companyId.trans h.companyId, h'.creationKey.trans h.creationKey,
    h'.creationHash.trans h.creationHash⟩

structure Grows (w w' : PortalDb) : Prop where
  sales : ∀ a ∈ w.sales, ∃ b ∈ w'.sales, SameCreation a b
  orders : ∀ a ∈ w.onlineOrders.rows, ∃ b ∈ w'.onlineOrders.rows, b.id = a.id ∧ b.saleId = a.saleId

theorem Grows.refl (w : PortalDb) : Grows w w :=
  ⟨fun a ha => ⟨a, ha, .refl a⟩, fun a ha => ⟨a, ha, rfl, rfl⟩⟩

theorem Grows.trans {w₁ w₂ w₃ : PortalDb} (h : Grows w₁ w₂) (h' : Grows w₂ w₃) : Grows w₁ w₃ := by
  constructor
  · intro a ha
    obtain ⟨b, hb, hab⟩ := h.sales a ha
    obtain ⟨c, hc, hbc⟩ := h'.sales b hb
    exact ⟨c, hc, hab.trans hbc⟩
  · intro a ha
    obtain ⟨b, hb, hid, hsale⟩ := h.orders a ha
    obtain ⟨c, hc, hid', hsale'⟩ := h'.orders b hb
    exact ⟨c, hc, hid'.trans hid, hsale'.trans hsale⟩

/-- What the unique indexes and the source of ids keep. -/
structure Indexed (w : PortalDb) : Prop where
  keys : ∀ a ∈ w.sales, ∀ b ∈ w.sales, a.companyId = b.companyId → a.creationKey = b.creationKey →
    a.creationKey ≠ none → a.id = b.id
  orders : ∀ a ∈ w.onlineOrders.rows, ∀ b ∈ w.onlineOrders.rows, a.saleId = b.saleId → a.id = b.id
  saleIds : ∀ a ∈ w.sales, a.id < w.erp.sequences.nextId
  orderIds : ∀ a ∈ w.onlineOrders.rows, a.id < w.erp.sequences.nextId

/-- What everything else keeps: it inserts sales without a creation key only, and no
online order; it writes none of the columns the indexes are about; and it draws its ids. -/
structure Kept (w w' : PortalDb) : Prop extends Grows w w' where
  keyed : ∀ b ∈ w'.sales, b.creationKey ≠ none → ∃ a ∈ w.sales, SameCreation a b
  noOrders : ∀ b ∈ w'.onlineOrders.rows, ∃ a ∈ w.onlineOrders.rows,
    b.id = a.id ∧ b.saleId = a.saleId
  ids : Indexed w → (∀ a ∈ w'.sales, a.id < w'.erp.sequences.nextId) ∧
    ∀ a ∈ w'.onlineOrders.rows, a.id < w'.erp.sequences.nextId

variable {w' : PortalDb}

theorem Kept.indexed {w : PortalDb} (h : Kept w w') (hw : Indexed w) : Indexed w' where
  keys a ha b hb hcompany hkey hsome := by
    obtain ⟨a₀, ha₀, hsameA⟩ := h.keyed a ha hsome
    obtain ⟨b₀, hb₀, hsameB⟩ := h.keyed b hb (hkey ▸ hsome)
    rw [hsameA.id, hsameB.id]
    refine hw.keys a₀ ha₀ b₀ hb₀ ?_ ?_ ?_
    · rw [← hsameA.companyId, ← hsameB.companyId, hcompany]
    · rw [← hsameA.creationKey, ← hsameB.creationKey, hkey]
    · rwa [← hsameA.creationKey]
  orders a ha b hb hsale := by
    obtain ⟨a₀, ha₀, hidA, hsaleA⟩ := h.noOrders a ha
    obtain ⟨b₀, hb₀, hidB, hsaleB⟩ := h.noOrders b hb
    rw [hidA, hidB]
    refine hw.orders a₀ ha₀ b₀ hb₀ ?_
    rw [← hsaleA, ← hsaleB, hsale]
  saleIds := (h.ids hw).1
  orderIds := (h.ids hw).2

/-- `ALLOWED_TRANSITIONS` of an online order. -/
def allowedTransitions : OnlineOrderStatus → List OnlineOrderStatus
  | .PendingReview => [.Confirmed, .Cancelled]
  | .Confirmed => [.Packed, .Cancelled]
  | .Packed => [.OnMyWay, .Cancelled]
  | .OnMyWay => [.Delivered]
  | .Delivered => []
  | .Cancelled => []

def updateStatus (id companyId : Uuid) (target : OnlineOrderStatus) (now : Instant)
    (w : PortalDb) : PortalDb :=
  match (w.onlineOrders.find? id).filter fun order =>
      order.companyId = companyId && target ∈ allowedTransitions order.status with
  | none => w
  | some order =>
    let changed := { order with status := target, statusUpdatedAt := some now }
    { w with onlineOrders := w.onlineOrders.save changed }

theorem Kept.refl (w : PortalDb) : Kept w w :=
  { Grows.refl w with
    keyed := fun b hb _ => ⟨b, hb, .refl b⟩
    noOrders := fun b hb => ⟨b, hb, rfl, rfl⟩
    ids := fun hw => ⟨hw.saleIds, hw.orderIds⟩ }

theorem kept_updateStatus (id companyId : Uuid) (target : OnlineOrderStatus) (now : Instant)
    (w : PortalDb) : Kept w (updateStatus id companyId target now w) := by
  unfold updateStatus
  split
  · exact .refl w
  · rename_i order hfound
    have horder := (Option.filter_eq_some_iff.1 hfound).1
    have hmem := Table.mem_of_find? horder
    have hback : ∀ b ∈ (w.onlineOrders.save
        { order with status := target, statusUpdatedAt := some now }).rows,
        ∃ a ∈ w.onlineOrders.rows, b.id = a.id ∧ b.saleId = a.saleId := by
      intro b hb
      rcases (Table.mem_save _ _ _).1 hb with rfl | ⟨hb, -⟩
      · exact ⟨order, hmem, rfl, rfl⟩
      · exact ⟨b, hb, rfl, rfl⟩
    refine ⟨⟨fun a ha => ⟨a, ha, .refl a⟩, fun a ha => ?_⟩, fun b hb _ => ⟨b, hb, .refl b⟩, hback,
      fun hw => ⟨hw.saleIds, fun b hb => ?_⟩⟩
    · by_cases hid : a.id = order.id
      · obtain rfl : a = order := Table.eq_of_key ha hmem hid
        exact ⟨_, (Table.mem_save _ _ _).2 (.inl rfl), rfl, rfl⟩
      · exact ⟨a, (Table.mem_save _ _ _).2 (.inr ⟨ha, hid⟩), rfl, rfl⟩
    · obtain ⟨a, ha, hid, -⟩ := hback b hb
      rw [hid]
      exact hw.orderIds a ha

/-! ## What the functions of the call do -/

section Functions

variable {hash : HashInput → String} {c : Call} {customer : Customer}
  {creation : SalesService.Creation}

theorem mem_of_findSaleByKey {w : PortalDb} {companyId : Uuid}
    {sale : Sale} (h : SalesService.findSaleByKey w.erp companyId creation = some sale) :
    sale ∈ w.sales ∧ sale.companyId = companyId ∧ sale.creationKey = some creation.key := by
  have hsome := List.find?_some h
  simp only [Bool.and_eq_true, decide_eq_true_eq] at hsome
  exact ⟨List.mem_of_find?_eq_some h, hsome⟩

theorem findSaleByKey_eq_none {w : PortalDb} {companyId : Uuid} :
    SalesService.findSaleByKey w.erp companyId creation = none ↔
      ∀ a ∈ w.sales, a.companyId = companyId → a.creationKey ≠ some creation.key := by
  unfold SalesService.findSaleByKey
  rw [List.find?_eq_none]
  refine forall₂_congr fun a _ => ?_
  simp only [Bool.and_eq_true, decide_eq_true_eq, not_and]

def checkoutConflict : Failure :=
  appException .Conflict "Checkout key was already used or its sale is unavailable"

theorem run_findByCreationKey (companyId : Uuid) (creation : Option SalesService.Creation)
    (db : Db) :
    (run (SalesService.findByCreationKey companyId creation) db).1 =
      match creation with
      | none => .ok none
      | some creation =>
        match SalesService.findSaleByKey db companyId creation with
        | none => .ok none
        | some sale =>
          if sale.creationHash = some creation.hash then .ok (some sale)
          else .error checkoutConflict := by
  cases creation with
  | none => rfl
  | some creation =>
    dsimp only
    cases hfind : SalesService.findSaleByKey db companyId creation with
    | none =>
      have h : SalesService.findByCreationKey companyId (some creation) db = .ok (none, db) := by
        simp only [SalesService.findByCreationKey]
        show (match SalesService.findSaleByKey db companyId creation with
          | none => pure none
          | some sale => do
            SalesService.assertCreationHash sale creation.hash
            return some sale : DbTx (Option Sale)) db = _
        rw [hfind]
        rfl
      unfold run
      rw [h]
    | some sale =>
      have h : SalesService.findByCreationKey companyId (some creation) db =
          (do
            SalesService.assertCreationHash sale creation.hash
            return some sale : DbTx (Option Sale)) db := by
        simp only [SalesService.findByCreationKey]
        show (match SalesService.findSaleByKey db companyId creation with
          | none => pure none
          | some sale => do
            SalesService.assertCreationHash sale creation.hash
            return some sale : DbTx (Option Sale)) db = _
        rw [hfind]
      unfold run
      rw [h]
      unfold SalesService.assertCreationHash rejectIf
      dsimp only
      by_cases hhash : sale.creationHash = some creation.hash
      · rw [if_neg (not_not.2 hhash), if_pos hhash]
        rfl
      · rw [if_pos hhash, if_neg hhash]
        rfl

theorem saveSaleItems_nextId {lines : List SalesService.PricedLine} {items items' : List SaleItem}
    {db db' : Db} (h : Commits (lines.foldlM SalesService.saveSaleItem items) db items' db') :
    db.sequences.nextId ≤ db'.sequences.nextId := by
  induction lines generalizing items db with
  | nil =>
    obtain ⟨-, rfl⟩ := (commits_foldlM_nil _ _ _ _ _).1 h
    exact Nat.le_refl _
  | cons line lines ih =>
    obtain ⟨items₁, db₁, hitem, hrest⟩ := (commits_foldlM_cons _ _ _ _ _ _ _).1 h
    simp only [SalesService.saveSaleItem, randomUUID, commits_bind, commits_get, commits_set,
      commits_pure] at hitem
    obtain ⟨_, _, ⟨_, _, ⟨rfl, rfl⟩, _, _, rfl, -, rfl⟩, -, rfl⟩ := hitem
    exact Nat.le_trans (Nat.le_succ _) (ih hrest)

/-- What the transaction commits: a sale of a new id under a free key, with the key and
the hash of the call. -/
theorem persist_spec {dto : SalesService.CreateSaleDto} {charge : SalesService.Charge}
    {db db' : Db} {sale : Sale} (h : Commits (persist hash c customer dto charge) db sale db') :
    db'.selling.sales = db.selling.sales.save sale ∧ sale.id = db.sequences.nextId ∧
      sale.id < db'.sequences.nextId ∧ sale.companyId = customer.companyId ∧
      sale.creationKey = (c.creation hash customer).map (·.key) ∧
      sale.creationHash = (c.creation hash customer).map (·.hash) := by
  simp only [persist, SalesService.generateSaleNumber, commits_bind] at h
  obtain ⟨saleNumber, db₁, hnumber, hinsert⟩ := h
  have hnext := nextDocumentNumber_nextId hnumber
  have hseq := nextDocumentNumber_spec hnumber
  rw [SequencesOnly] at hseq
  obtain ⟨id, items, hsale, -, hdb'⟩ := SalesService.insertSale_spec hinsert
  simp only [SalesService.insertSale, SalesService.saveSale, randomUUID, commits_bind, commits_get,
    commits_rejectIf, commits_modify, commits_set, commits_pure] at hinsert
  obtain ⟨_, _, ⟨rfl, rfl⟩, _, _, ⟨-, rfl⟩, id', db₂, ⟨_, _, ⟨rfl, rfl⟩, _, _, rfl, rfl, rfl⟩, items',
    db₃, hitems, _, _, rfl, hend⟩ := hinsert
  have hle := saveSaleItems_nextId hitems
  have hid : sale.id = db₁.sequences.nextId ∧ db₁.sequences.nextId < db'.sequences.nextId := by
    split at hend
    · obtain ⟨rfl, rfl⟩ := (commits_pure _ _ _ _).1 hend
      exact ⟨rfl, hle⟩
    · simp only [PromotionsService.incrementUsage, commits_bind, commits_modify, commits_pure] at hend
      obtain ⟨_, _, rfl, rfl, rfl⟩ := hend
      exact ⟨rfl, hle⟩
  rw [hnext] at hid
  have hsales : db'.selling.sales = db.selling.sales.save sale := by
    rw [hdb', hseq]
  have hcolumns : sale.companyId = customer.companyId ∧
      sale.creationKey = (c.creation hash customer).map (·.key) ∧
      sale.creationHash = (c.creation hash customer).map (·.hash) := by
    rw [hsale]
    exact ⟨rfl, rfl, rfl⟩
  exact ⟨hsales, hid.1, hid.1 ▸ hid.2, hcolumns⟩

end Functions

/-! ## The invariant -/

section Invariant

variable (hash : HashInput → String) (c : Call) (customer : Customer)

def HasSale (w : PortalDb) (saleId : Uuid) : Prop :=
  ∃ a ∈ w.sales, a.id = saleId ∧ a.companyId = customer.companyId ∧
    a.creationKey = (c.creation hash customer).map (·.key) ∧
    a.creationHash = (c.creation hash customer).map (·.hash)

def HasOrder (w : PortalDb) (saleId orderId : Uuid) : Prop :=
  ∃ a ∈ w.onlineOrders.rows, a.id = orderId ∧ a.saleId = saleId

/-- What is known of a call that holds the locks `held`. -/
def StageOk (held : Lock → Prop) (w : PortalDb) : Stage → Prop
  | .inserted _ _ => ∀ creation ∈ c.creation hash customer,
      SalesService.findSaleByKey w.erp customer.companyId creation = none ∧
        held (.creationKey customer.companyId creation.key)
  | .duplicated error => ∃ index, error = .duplicateEntry index
  | .placed sale | .unordered sale | .orderDuplicated sale => HasSale hash c customer w sale.id
  | .returned sale order => HasSale hash c customer w sale.id ∧ HasOrder w sale.id order.id
  | _ => True

structure CallOk (held : Lock → Prop) (w : PortalDb) (p : Phase) : Prop where
  early : p.customer = none → p.stage.sale = none
  stage : ∀ customer ∈ p.customer, StageOk hash c customer held w p.stage

/-- What a commit of a holder of the locks `held` may add. -/
structure Adds (held : Lock → Prop) (w w' : PortalDb) : Prop extends Grows w w' where
  keyed : ∀ b ∈ w'.sales, ∀ key, b.creationKey = some key →
    (∃ a ∈ w.sales, SameCreation a b) ∨ held (.creationKey b.companyId key)

variable {hash c customer} {saleId : Uuid}

theorem HasSale.grows {w : PortalDb} (h : HasSale hash c customer w saleId)
    (hgrows : Grows w w') : HasSale hash c customer w' saleId := by
  obtain ⟨a, ha, hid, hcompany, hkey, hhash⟩ := h
  obtain ⟨b, hb, hsame⟩ := hgrows.sales a ha
  exact ⟨b, hb, hsame.id.trans hid, hsame.companyId.trans hcompany, hsame.creationKey.trans hkey,
    hsame.creationHash.trans hhash⟩

theorem HasOrder.grows {w : PortalDb} {orderId : Uuid} (h : HasOrder w saleId orderId)
    (hgrows : Grows w w') : HasOrder w' saleId orderId := by
  obtain ⟨a, ha, hid, hsale⟩ := h
  obtain ⟨b, hb, hid', hsale'⟩ := hgrows.orders a ha
  exact ⟨b, hb, hid'.trans hid, hsale'.trans hsale⟩

variable {stage absent : Stage}

theorem StageOk.adds {held heldI : Lock → Prop} {w : PortalDb}
    (h : StageOk hash c customer held w stage) (hadds : Adds heldI w w')
    (hdisjoint : ∀ k, held k → ¬ heldI k) : StageOk hash c customer held w' stage := by
  cases stage with
  | inserted dto charge =>
    intro creation hcreation
    obtain ⟨hnone, hheld⟩ := h creation hcreation
    refine ⟨?_, hheld⟩
    rw [findSaleByKey_eq_none] at hnone ⊢
    intro b hb hcompany hkey
    rcases hadds.keyed b hb creation.key hkey with ⟨a, ha, hsame⟩ | hlock
    · refine hnone a ha ?_ ?_
      · rw [← hsame.companyId, hcompany]
      · rw [← hsame.creationKey, hkey]
    · rw [hcompany] at hlock
      exact hdisjoint _ hheld hlock
  | duplicated error => exact h
  | placed sale => exact HasSale.grows h hadds.toGrows
  | unordered sale => exact HasSale.grows h hadds.toGrows
  | orderDuplicated sale => exact HasSale.grows h hadds.toGrows
  | returned sale order => exact ⟨h.1.grows hadds.toGrows, h.2.grows hadds.toGrows⟩
  | _ => trivial

variable {p : Phase}

theorem CallOk.adds {held heldI : Lock → Prop} {w : PortalDb}
    (h : CallOk hash c held w p) (hadds : Adds heldI w w')
    (hdisjoint : ∀ k, held k → ¬ heldI k) : CallOk hash c held w' p :=
  ⟨h.early, fun customer hcustomer => (h.stage customer hcustomer).adds hadds hdisjoint⟩

theorem callOk_withCustomer {held : Lock → Prop} {w : PortalDb}
    (h : StageOk hash c customer held w stage) :
    CallOk hash c held w (withCustomer customer stage) := by
  constructor
  · intro hnone
    cases hnone
  · intro other hother
    cases hother
    exact h

/-! ## The commits -/

theorem indexed_of_drawn {w : PortalDb} {erp : Db} (hsales : erp.selling.sales = w.erp.selling.sales)
    (hnext : w.erp.sequences.nextId ≤ erp.sequences.nextId) (hw : Indexed w) :
    Indexed { w with erp } := by
  have hsame : ({ w with erp } : PortalDb).sales = w.sales := by
    unfold PortalDb.sales
    rw [hsales]
  refine ⟨?_, hw.orders, ?_, fun a ha => lt_of_lt_of_le (hw.orderIds a ha) hnext⟩
  · rw [hsame]
    exact hw.keys
  · rw [hsame]
    exact fun a ha => lt_of_lt_of_le (hw.saleIds a ha) hnext

theorem adds_of_drawn {held : Lock → Prop} {w : PortalDb} {erp : Db}
    (hsales : erp.selling.sales = w.erp.selling.sales) : Adds held w { w with erp } := by
  have hsame : ({ w with erp } : PortalDb).sales = w.sales := by
    unfold PortalDb.sales
    rw [hsales]
  refine ⟨⟨?_, fun a ha => ⟨a, ha, rfl, rfl⟩⟩, ?_⟩
  · rw [hsame]
    exact fun a ha => ⟨a, ha, .refl a⟩
  · rw [hsame]
    exact fun b hb _ _ => .inl ⟨b, hb, .refl b⟩

variable {sale : Sale} {charge : SalesService.Charge} {dto : SalesService.CreateSaleDto}

theorem persist_commits {held : Lock → Prop} {w : PortalDb} {erp : Db} (hw : Indexed w)
    (hok : StageOk hash c customer held w (.inserted dto charge))
    (h : Commits (persist hash c customer dto charge) w.erp sale erp) :
    Adds held w { w with erp } ∧ Indexed { w with erp } ∧
      HasSale hash c customer { w with erp } sale.id ∧
      ∀ b ∈ ({ w with erp } : PortalDb).sales, b = sale ∨ b ∈ w.sales := by
  obtain ⟨hsales, hid, hlt, hcompany, hkey, hhash⟩ := persist_spec h
  have hmem : ∀ b, b ∈ ({ w with erp } : PortalDb).sales ↔ b = sale ∨ (b ∈ w.sales ∧ b.id ≠ sale.id) := by
    intro b
    unfold PortalDb.sales
    rw [hsales]
    exact Table.mem_save _ _ _
  have hold : ∀ a ∈ w.sales, a ∈ ({ w with erp } : PortalDb).sales := by
    intro a ha
    refine (hmem a).2 (.inr ⟨ha, fun heq => ?_⟩)
    have hlower := hw.saleIds a ha
    rw [heq, hid] at hlower
    exact lt_irrefl _ hlower
  -- a sale of the new one's key was not there before
  have hfree : ∀ a ∈ w.sales, a.companyId = sale.companyId → a.creationKey = sale.creationKey →
      a.creationKey = none := by
    intro a ha hcompanyA hkeyA
    rw [hkey] at hkeyA
    cases hcreation : c.creation hash customer with
    | none => rw [hkeyA, hcreation, Option.map_none]
    | some creation =>
      rw [hcreation, Option.map_some] at hkeyA
      have hnone := findSaleByKey_eq_none.1 (hok creation hcreation).1
      exact absurd hkeyA (hnone a ha (hcompanyA.trans hcompany))
  refine ⟨⟨⟨fun a ha => ⟨a, hold a ha, .refl a⟩, fun a ha => ⟨a, ha, rfl, rfl⟩⟩,
    fun b hb key hbkey => ?_⟩, ⟨fun a ha b hb hab hkeys hsome => ?_, hw.orders, fun a ha => ?_,
    fun a ha => ?_⟩, ⟨sale, (hmem sale).2 (.inl rfl), rfl, hcompany, hkey, hhash⟩,
    fun b hb => ((hmem b).1 hb).imp_right And.left⟩
  · rcases (hmem b).1 hb with rfl | ⟨hb, -⟩
    · rw [hkey] at hbkey
      obtain ⟨creation, hcreation, rfl⟩ := Option.map_eq_some_iff.1 hbkey
      rw [hcompany]
      exact .inr (hok creation hcreation).2
    · exact .inl ⟨b, hb, .refl b⟩
  · rcases (hmem a).1 ha with rfl | ⟨ha, -⟩
    · rcases (hmem b).1 hb with rfl | ⟨hb, -⟩
      · rfl
      · exact absurd (hkeys.trans (hfree b hb hab.symm hkeys.symm)) hsome
    · rcases (hmem b).1 hb with rfl | ⟨hb, -⟩
      · exact absurd (hfree a ha hab hkeys) hsome
      · exact hw.keys a ha b hb hab hkeys hsome
  · rcases (hmem a).1 ha with rfl | ⟨ha, -⟩
    · exact hlt
    · exact lt_trans (hw.saleIds a ha) (hid ▸ hlt)
  · exact lt_trans (hw.orderIds a ha) (hid ▸ hlt)

theorem insertOrder_commits {held : Lock → Prop} {w : PortalDb} {erp : Db} {order : OnlineOrder}
    (hw : Indexed w)
    (hnone : w.onlineOrders.rows.find? (fun other => other.saleId = order.saleId) = none)
    (hid : Commits randomUUID w.erp order.id erp) :
    Adds held w { w with erp, onlineOrders := w.onlineOrders.save order } ∧
      Indexed { w with erp, onlineOrders := w.onlineOrders.save order } ∧
      erp.selling.sales = w.erp.selling.sales := by
  simp only [randomUUID, commits_bind, commits_get, commits_set, commits_pure] at hid
  obtain ⟨_, _, ⟨rfl, rfl⟩, _, _, rfl, hkey, rfl⟩ := hid
  rw [List.find?_eq_none] at hnone
  have hfree : ∀ a ∈ w.onlineOrders.rows, a.saleId ≠ order.saleId := by
    intro a ha heq
    exact hnone a ha (decide_eq_true heq)
  refine ⟨⟨⟨fun a ha => ⟨a, ha, .refl a⟩, fun a ha => ?_⟩, fun b hb _ _ => .inl ⟨b, hb, .refl b⟩⟩,
    ⟨hw.keys, fun a ha b hb hab => ?_, fun a ha => Nat.lt_succ_of_lt (hw.saleIds a ha),
      fun a ha => ?_⟩, rfl⟩
  · refine ⟨a, (Table.mem_save _ _ _).2 (.inr ⟨ha, fun heq => ?_⟩), rfl, rfl⟩
    have hlower := hw.orderIds a ha
    rw [show a.id = order.id from heq, hkey] at hlower
    exact lt_irrefl _ hlower
  · rcases (Table.mem_save _ _ _).1 ha with rfl | ⟨haOld, -⟩
    · rcases (Table.mem_save _ _ _).1 hb with rfl | ⟨hbOld, -⟩
      · rfl
      · exact absurd hab.symm (hfree b hbOld)
    · rcases (Table.mem_save _ _ _).1 hb with rfl | ⟨hbOld, -⟩
      · exact absurd hab (hfree a haOld)
      · exact hw.orders a haOld b hbOld hab
  · rcases (Table.mem_save _ _ _).1 ha with rfl | ⟨ha, -⟩
    · rw [hkey]
      exact Nat.lt_succ_self _
    · exact Nat.lt_succ_of_lt (hw.orderIds a ha)

/-! ## The moves -/

variable (hash c) in
/-- What a commit that ends in phase `p` establishes: the one sale it may add is the one
the call goes on with. -/
structure CommitOk (held : Lock → Prop) (w w' : PortalDb) (p : Phase) : Prop where
  adds : Adds held w w'
  indexed : Indexed w'
  answers : p.stage.sale.isSome
  added : ∀ b ∈ w'.sales, b.creationKey ≠ none →
    (∃ a ∈ w.sales, SameCreation a b) ∨ p.stage.sale = some b
  call : CallOk hash c (fun _ => False) w' p

variable (hash c) in
/-- What a move of a holder of the locks `held` establishes. -/
def Sound (held : Lock → Prop) (w : PortalDb) : Step → Prop
  | .goto p => CallOk hash c held w p
  | .acquire k p => CallOk hash c (fun j => j = k ∨ held j) w p
  | .commit w' p => CommitOk hash c held w w' p
  | .leave p => CallOk hash c (fun _ => False) w p

variable {held : Lock → Prop} {w : PortalDb}

theorem hasSale_of_found
    (h : (run (SalesService.findByCreationKey customer.companyId (c.creation hash customer))
      w.erp).1 = .ok (some sale)) : HasSale hash c customer w sale.id := by
  rw [run_findByCreationKey] at h
  split at h
  · cases h
  · rename_i creation hcreation
    split at h
    · cases h
    · rename_i found hfound
      split at h
      · rename_i hhash
        obtain rfl := Option.some.inj (Except.ok.inj h)
        obtain ⟨hmem, hcompany, hkey⟩ := mem_of_findSaleByKey hfound
        refine ⟨found, hmem, rfl, hcompany, ?_⟩
        rw [hcreation]
        exact ⟨hkey, hhash⟩
      · cases h

theorem hasSale_of_recovered {error : Failure}
    (h : (run (SalesService.recoverCreation customer.companyId (c.creation hash customer) error)
      w.erp).1 = .ok sale) : HasSale hash c customer w sale.id := by
  obtain ⟨db, hcommits⟩ := run_fst_eq_ok.1 h
  unfold SalesService.recoverCreation at hcommits
  split at hcommits
  · simp only [commits_bind, commits_orReject] at hcommits
    obtain ⟨replay, db₁, hfind, rfl, -⟩ := hcommits
    exact hasSale_of_found (run_fst_eq_ok.2 ⟨db₁, hfind⟩)
  · exact absurd hcommits (commits_throw _ _ _ _)

theorem stageOk_failed (held : Lock → Prop) (w : PortalDb) (error : Failure) :
    StageOk hash c customer held w (failed hash c customer error) := by
  unfold failed
  split
  · split
    · exact ⟨_, rfl⟩
    · trivial
  · trivial

theorem failed_sound (error : Failure) :
    Sound hash c held w (.leave (withCustomer customer (failed hash c customer error))) :=
  callOk_withCustomer (stageOk_failed _ _ _)

theorem linkMove_sound : Sound hash c held w (linkMove c w) := by
  unfold linkMove
  split
  · exact ⟨fun _ => rfl, fun _ hnone => by cases hnone⟩
  · split
    · exact callOk_withCustomer trivial
    · exact callOk_withCustomer trivial

theorem lookupMove_sound (h : StageOk hash c customer held w absent) :
    Sound hash c held w (lookupMove hash c customer absent w) := by
  unfold lookupMove
  split
  · rename_i sale hsale
    exact callOk_withCustomer (hasSale_of_found hsale)
  · exact callOk_withCustomer h
  · exact callOk_withCustomer trivial

theorem resolveMove_sound : Sound hash c held w (resolveMove c customer w) := by
  unfold resolveMove
  split <;> exact callOk_withCustomer trivial

theorem validateMove_sound (dto : SalesService.CreateSaleDto) :
    Sound hash c held w (validateMove customer dto w) := by
  unfold validateMove
  split <;> exact callOk_withCustomer trivial

theorem numberMove_sound (dto : SalesService.CreateSaleDto) :
    Sound hash c held w (numberMove hash c customer dto w) := by
  unfold numberMove
  split
  · exact callOk_withCustomer trivial
  · exact failed_sound _

theorem run_generateSaleNumber (companyId : Uuid) (year : ℕ) (db : Db) :
    (run (SalesService.generateSaleNumber companyId year) db).2.selling.sales = db.selling.sales ∧
      (run (SalesService.generateSaleNumber companyId year) db).2.sequences.nextId =
        db.sequences.nextId :=
  ⟨rfl, rfl⟩

theorem replayMove_sound (dto : SalesService.CreateSaleDto) (hw : Indexed w) :
    Sound hash c held w (replayMove hash c customer dto w) := by
  unfold replayMove
  obtain ⟨hsales, hnext⟩ := run_generateSaleNumber customer.companyId (saleYear c dto) w.erp
  split
  · rename_i sale hsale
    have hadds : Adds held w { w with erp :=
      (run (SalesService.generateSaleNumber customer.companyId (saleYear c dto)) w.erp).2 } :=
        adds_of_drawn hsales
    exact ⟨hadds, indexed_of_drawn hsales (le_of_eq hnext.symm) hw, rfl,
      fun b hb _ => .inl ⟨b, hb, .refl b⟩,
      callOk_withCustomer ((hasSale_of_found hsale).grows hadds.toGrows)⟩
  · exact callOk_withCustomer trivial
  · exact failed_sound _

theorem chargeMove_sound (dto : SalesService.CreateSaleDto) :
    Sound hash c held w (chargeMove hash c customer dto w) := by
  unfold chargeMove
  split
  · exact callOk_withCustomer trivial
  · exact failed_sound _

theorem insertMove_sound (dto : SalesService.CreateSaleDto) (charge : SalesService.Charge) :
    Sound hash c held w (insertMove hash c customer dto charge w) := by
  unfold insertMove
  cases hcreation : c.creation hash customer with
  | none =>
    refine callOk_withCustomer fun creation hsome => ?_
    rw [hcreation] at hsome
    cases hsome
  | some creation =>
    dsimp only
    split
    · exact failed_sound _
    · rename_i hfree
      refine callOk_withCustomer fun other hother => ?_
      rw [hcreation] at hother
      cases hother
      exact ⟨Option.not_isSome_iff_eq_none.1 hfree, .inl rfl⟩

theorem commitMove_sound
    (hw : Indexed w) (hok : StageOk hash c customer held w (.inserted dto charge)) :
    Sound hash c held w (commitMove hash c customer dto charge w) := by
  unfold commitMove
  split
  · rename_i sale erp hrun
    obtain ⟨hadds, hindexed, hsale, hadded⟩ := persist_commits hw hok (run_eq_ok.1 hrun)
    refine ⟨hadds, hindexed, rfl, fun b hb _ => ?_, callOk_withCustomer hsale⟩
    rcases hadded b hb with rfl | hold
    · exact .inr rfl
    · exact .inl ⟨b, hold, .refl b⟩
  · exact failed_sound _

theorem recoverMove_sound (error : Failure) :
    Sound hash c held w (recoverMove hash c customer error w) := by
  unfold recoverMove
  split
  · rename_i sale hsale
    exact callOk_withCustomer (hasSale_of_recovered hsale)
  · exact callOk_withCustomer trivial

theorem findExisting_some {order : OnlineOrder}
    (h : findExisting c customer saleId w = .ok (some order)) : HasOrder w saleId order.id := by
  unfold findExisting at h
  split at h
  · cases h
  · rename_i existing hfound
    split at h
    · cases h
    · obtain rfl := Option.some.inj (Except.ok.inj h)
      exact ⟨existing, List.mem_of_find?_eq_some hfound, rfl, by simpa using List.find?_some hfound⟩

theorem findMove_sound (hsale : HasSale hash c customer w sale.id)
    (habsent : StageOk hash c customer held w absent) :
    Sound hash c held w (findMove c customer sale absent w) := by
  unfold findMove
  split
  · rename_i order horder
    exact callOk_withCustomer ⟨hsale, findExisting_some horder⟩
  · exact callOk_withCustomer habsent
  · exact callOk_withCustomer trivial

theorem insertOrderMove_sound (hw : Indexed w) (hsale : HasSale hash c customer w sale.id) :
    Sound hash c held w (insertOrderMove c customer sale w) := by
  unfold insertOrderMove
  split
  · exact callOk_withCustomer hsale
  · rename_i hnone
    rw [Option.not_isSome_iff_eq_none] at hnone
    split
    · rename_i id erp hrun
      obtain ⟨hadds, hindexed, hsales⟩ := @insertOrder_commits held w erp
        (newOnlineOrder c customer sale.id id) hw hnone (run_eq_ok.1 hrun)
      refine ⟨hadds, hindexed, rfl, fun b hb _ => .inl ⟨b, ?_, .refl b⟩,
        callOk_withCustomer ⟨hsale.grows hadds.toGrows, ?_⟩⟩
      · unfold PortalDb.sales at hb ⊢
        rwa [← hsales]
      exact ⟨_, (Table.mem_save _ _ _).2 (.inl rfl), rfl, rfl⟩
    · exact callOk_withCustomer trivial

variable {l : Label} {m : Step}

theorem orderMove_sound (hw : Indexed w)
    (hp : CallOk hash c held w p) (hm : orderMove hash c l p w = some m) : Sound hash c held w m := by
  unfold orderMove at hm
  split at hm
  · split at hm
    · cases hm
    · cases hm
      exact ⟨fun _ => rfl, fun _ _ => trivial⟩
  · cases hm
    exact linkMove_sound
  · cases hm
    exact lookupMove_sound trivial
  · cases hm
    exact resolveMove_sound
  · cases hm
    exact lookupMove_sound trivial
  · cases hm
    exact validateMove_sound _
  · cases hm
    exact numberMove_sound _
  · cases hm
    exact replayMove_sound _ hw
  · cases hm
    exact chargeMove_sound _
  · cases hm
    exact insertMove_sound _ _
  · rename_i customer dto charge hcustomer hstage
    cases hm
    have hok := hp.stage customer hcustomer
    rw [hstage] at hok
    exact commitMove_sound hw hok
  · cases hm
    exact recoverMove_sound _
  · rename_i customer sale hcustomer hstage
    cases hm
    have hok := hp.stage customer hcustomer
    rw [hstage] at hok
    exact findMove_sound hok hok
  · rename_i customer sale hcustomer hstage
    cases hm
    have hok := hp.stage customer hcustomer
    rw [hstage] at hok
    exact insertOrderMove_sound hw hok
  · rename_i customer sale hcustomer hstage
    cases hm
    have hok := hp.stage customer hcustomer
    rw [hstage] at hok
    exact findMove_sound hok trivial
  · cases hm

/-! ## Looking at a key that is taken -/

def Label.looks : Label → Bool
  | lookup | recheck | replay | recover => true
  | _ => false

variable (hash c customer) in
def Taken (w : PortalDb) : Prop :=
  ∃ creation ∈ c.creation hash customer, ∃ b ∈ w.sales, b.companyId = customer.companyId ∧
    b.creationKey = some creation.key ∧ b.creationHash ≠ some creation.hash

theorem run_find_of_taken (hw : Indexed w) (h : Taken hash c customer w) :
    (run (SalesService.findByCreationKey customer.companyId (c.creation hash customer)) w.erp).1 =
      .error checkoutConflict := by
  obtain ⟨creation, hcreation, b, hb, hcompany, hkey, hhash⟩ := h
  rw [run_findByCreationKey, Option.mem_def.1 hcreation]
  dsimp only
  cases hfound : SalesService.findSaleByKey w.erp customer.companyId creation with
  | none => exact absurd hkey (findSaleByKey_eq_none.1 hfound b hb hcompany)
  | some found =>
    -- the index leaves only one sale to be found
    obtain ⟨hmem, hcompanyF, hkeyF⟩ := mem_of_findSaleByKey hfound
    have hid : found.id = b.id := by
      refine hw.keys found hmem b hb (hcompanyF.trans hcompany.symm) (hkeyF.trans hkey.symm) ?_
      rw [hkeyF]
      exact Option.some_ne_none _
    obtain rfl : found = b := Table.eq_of_key hmem hb hid
    dsimp only
    rw [if_neg hhash]

theorem lookupMove_taken (hw : Indexed w) (h : Taken hash c customer w) :
    lookupMove hash c customer absent w =
      .goto (withCustomer customer (.rejected checkoutConflict)) := by
  unfold lookupMove
  rw [run_find_of_taken hw h]

theorem looks_conflict (hw : Indexed w)
    (hp : CallOk hash c held w p) (hcustomer : p.customer = some customer)
    (htaken : Taken hash c customer w) (hlooks : l.looks = true)
    (hm : orderMove hash c l p w = some m) : m.dest.stage = .rejected checkoutConflict := by
  unfold orderMove at hm
  rw [hcustomer] at hm
  have hstage := hp.stage customer hcustomer
  cases l with
  | lookup =>
    cases hp : p.stage with
    | linked =>
      rw [hp] at hm
      cases hm
      rw [lookupMove_taken hw htaken]
      rfl
    | _ => rw [hp] at hm; cases hm
  | recheck =>
    cases hp : p.stage with
    | resolved dto =>
      rw [hp] at hm
      cases hm
      rw [lookupMove_taken hw htaken]
      rfl
    | _ => rw [hp] at hm; cases hm
  | replay =>
    cases hp : p.stage with
    | numbered dto =>
      rw [hp] at hm
      cases hm
      unfold replayMove
      rw [run_find_of_taken hw htaken]
      rfl
    | _ => rw [hp] at hm; cases hm
  | recover =>
    cases hp : p.stage with
    | duplicated error =>
      rw [hp] at hm hstage
      obtain ⟨index, rfl⟩ := hstage
      cases hm
      have hrejects : (run (SalesService.recoverCreation customer.companyId
          (c.creation hash customer) (.duplicateEntry index)) w.erp).1 = .error checkoutConflict := by
        rw [run_fst_eq_error]
        unfold SalesService.recoverCreation
        rw [rejects_bind]
        exact .inl (run_fst_eq_error.1 (run_find_of_taken hw htaken))
      unfold recoverMove
      rw [hrejects]
      rfl
    | _ => rw [hp] at hm; cases hm
  | _ => cases hlooks

theorem hasSale_of_stage (h : StageOk hash c customer held w stage)
    (hsale : stage.sale = some sale) : HasSale hash c customer w sale.id := by
  cases stage with
  | placed other =>
    cases hsale
    exact h
  | unordered other =>
    cases hsale
    exact h
  | orderDuplicated other =>
    cases hsale
    exact h
  | returned other order =>
    cases hsale
    exact h.1
  | _ => cases hsale

theorem orderMove_customer (hcustomer : p.customer = some customer)
    (hm : orderMove hash c l p w = some m) : m.dest.customer = some customer := by
  obtain ⟨_, stage⟩ := p
  obtain rfl := hcustomer
  unfold orderMove at hm
  split at hm
  · split at hm
    · cases hm
    · cases hm
      rfl
  · rename_i hnone _
    cases hnone
  any_goals
    rename_i hother _
    cases hother
    cases hm
  · unfold lookupMove
    split <;> rfl
  · unfold resolveMove
    split <;> rfl
  · unfold lookupMove
    split <;> rfl
  · unfold validateMove
    split <;> rfl
  · unfold numberMove
    split <;> rfl
  · unfold replayMove
    split <;> rfl
  · unfold chargeMove
    split <;> rfl
  · unfold insertMove
    split
    · rfl
    · split <;> rfl
  · unfold commitMove
    split <;> rfl
  · unfold recoverMove
    split <;> rfl
  · unfold findMove
    split <;> rfl
  · unfold insertOrderMove
    split
    · rfl
    · split <;> rfl
  · unfold findMove
    split <;> rfl
  · cases hm

theorem not_looks_early (hnone : p.customer = none)
    (hlooks : l.looks = true) : orderMove hash c l p w ≠ some m := by
  intro hm
  unfold orderMove at hm
  rw [hnone] at hm
  cases l with
  | lookup | recheck | replay | recover => cases hm
  | _ => cases hlooks

theorem orderMove_links (hnone : p.customer = none)
    (hm : orderMove hash c l p w = some m) (hcustomer : m.dest.customer = some customer) :
    getLinkedCustomerOrThrow w c.dto.telegramUserId = .ok customer := by
  obtain ⟨_, stage⟩ := p
  obtain rfl := hnone
  unfold orderMove at hm
  split at hm
  · split at hm
    · cases hm
    · cases hm
      cases hcustomer
  · cases hm
    unfold linkMove at hcustomer
    split at hcustomer
    · cases hcustomer
    · rename_i linked hlinked
      rw [hlinked]
      split at hcustomer
      · rw [Option.some.inj hcustomer]
      · rw [Option.some.inj hcustomer]
  any_goals
    rename_i hother _
    cases hother
  cases hm

end Invariant

/-! ## Runs -/

section Runs

variable (hash : HashInput → String) (party : ℕ → Party)

def PhaseOk (held : Lock → Prop) (w : PortalDb) (i : ℕ) (p : Phase) : Prop :=
  ∀ c, party i = .order c → CallOk hash c held w p

/-- The invariant. -/
abbrev Inv (s : Shared PortalDb Lock Phase) : Prop := s.Inv Indexed (PhaseOk hash party)

def OthersKeep : Prop := ∀ i f, party i = .other f → ∀ w, Kept w (f w)

variable {hash party}

theorem Kept.adds {held : Lock → Prop} {w : PortalDb} (h : Kept w w') : Adds held w w' where
  toGrows := h.toGrows
  keyed b hb key hkey := .inl (h.keyed b hb (by rw [hkey]; exact Option.some_ne_none _))

theorem protocol_cases {i : ℕ} {l : Label} {p : Phase} {w : PortalDb} {m : Step}
    (hm : protocol hash party i l p w = some m) :
    (∃ c, party i = .order c ∧ orderMove hash c l p w = some m) ∨
      ∃ f, party i = .other f ∧ m = .commit (f w) p := by
  unfold protocol at hm
  cases hparty : party i with
  | order c =>
    rw [hparty] at hm
    exact .inl ⟨c, rfl, hm⟩
  | other f =>
    rw [hparty] at hm
    dsimp only at hm
    split at hm
    · exact .inr ⟨f, rfl, (Option.some.inj hm).symm⟩
    · cases hm

variable {s s' : Shared PortalDb Lock Phase}

theorem inv_step {l : ℕ × Label} (hothers : OthersKeep party)
    (h : Inv hash party s) (hs : (machine hash party).step s l = some s') : Inv hash party s' := by
  obtain ⟨i, l⟩ := l
  refine h.step hs (fun m hm => ?_) fun w' p hm j _ held hdisjoint hok => ?_
  · rcases protocol_cases hm with ⟨c, hparty, hmove⟩ | ⟨f, hparty, rfl⟩
    · have hsound := orderMove_sound h.db (h.phase i c hparty) hmove
      have hcall : ∀ {held w p}, CallOk hash c held w p → PhaseOk hash party held w i p := by
        intro held w p hok c' hc'
        obtain rfl := Party.order.inj (hparty.symm.trans hc')
        exact hok
      cases m with
      | goto p => exact hcall hsound
      | acquire k p => exact hcall hsound
      | commit w' p => exact ⟨hsound.indexed, hcall hsound.call⟩
      | leave p => exact hcall hsound
    · refine ⟨(hothers i f hparty s.db).indexed h.db, fun c hc => ?_⟩
      rw [hparty] at hc
      cases hc
  · have hadds : Adds (s.Holds i) s.db w' := by
      rcases protocol_cases hm with ⟨c, hparty, hmove⟩ | ⟨f, hparty, heq⟩
      · exact (orderMove_sound h.db (h.phase i c hparty) hmove).adds
      · obtain ⟨rfl, -⟩ := Move.commit.inj heq
        exact (hothers i f hparty s.db).adds
    exact fun c hc => (hok c hc).adds hadds hdisjoint

structure StepFacts (party : ℕ → Party) (i : ℕ) (s s' : Shared PortalDb Lock Phase) : Prop where
  grows : Grows s.db s'.db
  customer : ∀ j customer, (s.phase j).customer = some customer →
    (s'.phase j).customer = some customer
  commits : ∀ c, party i = .order c → s'.db = s.db ∨ (s'.phase i).stage.sale.isSome
  added : ∀ b ∈ s'.db.sales, b.creationKey ≠ none → (∃ a ∈ s.db.sales, SameCreation a b) ∨
    ∃ c, party i = .order c ∧ (s'.phase i).stage.sale = some b

theorem step_facts {i : ℕ} {l : Label} (hothers : OthersKeep party) (h : Inv hash party s)
    (hs : (machine hash party).step s (i, l) = some s') : StepFacts party i s s' := by
  obtain ⟨m, hm, hphase⟩ := Shared.step_phase hs
  have hself : s'.phase i = m.dest := by rw [hphase, Function.update_self]
  have hcustomer : ∀ j customer, (s.phase j).customer = some customer →
      (s'.phase j).customer = some customer := by
    intro j customer hj
    rw [hphase]
    by_cases hji : j = i
    · subst hji
      rw [Function.update_self]
      rcases protocol_cases hm with ⟨c, -, hmove⟩ | ⟨f, -, rfl⟩
      · exact orderMove_customer hj hmove
      · exact hj
    · rwa [Function.update_of_ne hji]
  rcases Shared.step_db hs with hdb | ⟨p, hcommit⟩
  · refine ⟨?_, hcustomer, fun _ _ => .inl hdb, fun b hb _ => .inl ⟨b, ?_, .refl b⟩⟩
    · rw [hdb]
      exact .refl _
    · rwa [hdb] at hb
  · obtain rfl := Option.some.inj (hm.symm.trans hcommit)
    rcases protocol_cases hm with ⟨c, hparty, hmove⟩ | ⟨f, hparty, heq⟩
    · have hsound := orderMove_sound h.db (h.phase i c hparty) hmove
      refine ⟨hsound.adds.toGrows, hcustomer, fun _ _ => .inr ?_, fun b hb hkey => ?_⟩
      · rw [hself]
        exact hsound.answers
      · rcases hsound.added b hb hkey with hold | hnew
        · exact .inl hold
        · refine .inr ⟨c, hparty, ?_⟩
          rw [hself]
          exact hnew
    · obtain ⟨heq, -⟩ := Move.commit.inj heq
      have hkept := hothers i f hparty s.db
      rw [← heq] at hkept
      refine ⟨hkept.toGrows, hcustomer, fun c hc => ?_, fun b hb hkey => .inl (hkept.keyed b hb hkey)⟩
      rw [hparty] at hc
      cases hc

variable {w₀ : PortalDb}

theorem start_inv (hw₀ : Indexed w₀) : Inv hash party (start w₀) := by
  refine Shared.inv_start hw₀ fun i held c _ => ⟨fun _ => rfl, fun customer hcustomer => ?_⟩
  cases hcustomer

variable {ls : List (ℕ × Label)}

theorem run_facts {C : Shared PortalDb Lock Phase → ℕ × Label → Prop} (hothers : OthersKeep party)
    (h : Inv hash party s) (hrun : (machine hash party).RunWith C s ls s') :
    Inv hash party s' ∧ Grows s.db s'.db ∧
      ∀ j customer, (s.phase j).customer = some customer → (s'.phase j).customer = some customer := by
  refine hrun.invariant (I := fun s' => Inv hash party s' ∧ Grows s.db s'.db ∧
    ∀ j customer, (s.phase j).customer = some customer → (s'.phase j).customer = some customer)
    ⟨h, .refl _, fun _ _ hj => hj⟩ fun s₁ l s₂ hI _ hs => ?_
  obtain ⟨hinv, hgrows, hcustomer⟩ := hI
  have hfacts := step_facts hothers hinv hs
  exact ⟨inv_step hothers hinv hs, hgrows.trans hfacts.grows,
    fun j customer hj => hfacts.customer j customer (hcustomer j customer hj)⟩

def Authored (hash : HashInput → String) (party : ℕ → Party) (w₀ : PortalDb)
    (s : Shared PortalDb Lock Phase) : Prop :=
  ∀ b ∈ s.db.sales, b.creationKey ≠ none → (∃ a ∈ w₀.sales, SameCreation a b) ∨
    ∃ j c customer creation, party j = .order c ∧ (s.phase j).customer = some customer ∧
      c.creation hash customer = some creation ∧ b.creationHash = some creation.hash

theorem run_authors (hothers : OthersKeep party) (hw₀ : Indexed w₀)
    (hrun : (machine hash party).Run (start w₀) ls s) : Authored hash party w₀ s := by
  have hstart : Inv hash party (start w₀) ∧ Authored hash party w₀ (start w₀) :=
    ⟨start_inv hw₀, fun b hb _ => .inl ⟨b, hb, .refl b⟩⟩
  suffices h : Inv hash party s ∧ Authored hash party w₀ s from h.2
  refine hrun.invariant (I := fun s => Inv hash party s ∧ Authored hash party w₀ s) hstart
    fun s₁ l s₂ hI _ hs => ?_
  obtain ⟨hinv, hauthors⟩ := hI
  have hfacts := step_facts hothers hinv hs
  have hinv' := inv_step hothers hinv hs
  refine ⟨hinv', fun b hb hkey => ?_⟩
  rcases hfacts.added b hb hkey with ⟨a, ha, hsame⟩ | ⟨c, hparty, hsale⟩
  · rcases hauthors a ha (by rwa [← hsame.creationKey]) with ⟨a₀, ha₀, hsame₀⟩ |
      ⟨j, c, customer, creation, hparty, hcustomer, hcreation, hhash⟩
    · exact .inl ⟨a₀, ha₀, hsame₀.trans hsame⟩
    · exact .inr ⟨j, c, customer, creation, hparty, hfacts.customer j customer hcustomer, hcreation,
        hsame.creationHash.trans hhash⟩
  · -- the sale the call has just inserted
    have hcall := hinv'.phase l.1 c hparty
    cases hcustomer : (s₂.phase l.1).customer with
    | none =>
      rw [hcall.early hcustomer] at hsale
      cases hsale
    | some customer =>
      obtain ⟨a, ha, hid, -, hkeyA, hhashA⟩ :=
        hasSale_of_stage (hcall.stage customer hcustomer) hsale
      obtain rfl : a = b := Table.eq_of_key ha hb hid
      cases hcreation : c.creation hash customer with
      | none =>
        rw [hcreation] at hkeyA
        exact absurd hkeyA hkey
      | some creation =>
        rw [hcreation] at hhashA
        exact .inr ⟨l.1, c, customer, creation, hparty, hcustomer, hcreation, hhashA⟩

/-! ## Exactly once -/

/-- What the calls of one order have in common; the key is not empty (`@MinLength(1)`). -/
structure OrderKey where
  companyId : Uuid
  botUserId : Uuid
  telegramUserId : String
  idempotencyKey : String
  nonempty : idempotencyKey ≠ ""

structure OrderKey.Asks (k : OrderKey) (c : Call) : Prop where
  botUserId : c.botUserId = k.botUserId
  telegramUserId : c.dto.telegramUserId = k.telegramUserId
  idempotencyKey : c.dto.idempotencyKey = some k.idempotencyKey

def OrderKey.hashed (hash : HashInput → String) (k : OrderKey) : String :=
  hash (.key k.companyId k.botUserId k.telegramUserId k.idempotencyKey)

structure OrderKey.SaleIn (hash : HashInput → String) (k : OrderKey) (w : PortalDb) (a : Sale) :
    Prop where
  mem : a ∈ w.sales
  companyId : a.companyId = k.companyId
  creationKey : a.creationKey = some (k.hashed hash)

def OrderKey.LinkedTo (k : OrderKey) (w : PortalDb) : Prop :=
  match getLinkedCustomerOrThrow w k.telegramUserId with
  | .ok customer => customer.companyId = k.companyId
  | .error _ => True

instance (k : OrderKey) (w : PortalDb) : Decidable (k.LinkedTo w) := by
  unfold OrderKey.LinkedTo
  split <;> infer_instance

variable (hash party) in
def CollisionFree : Prop :=
  ∀ i j c c', party i = .order c → party j = .order c' → ∀ x y : Uuid,
    hash (.details (c.details x)) = hash (.details (c'.details y)) → c.details x = c'.details y

variable (hash party) in
/-- `s` is a state the run of `ls` passes. -/
def Passes (w₀ : PortalDb) (ls : List (ℕ × Label)) (s : Shared PortalDb Lock Phase) : Prop :=
  ∃ ks, ks <+: ls ∧ (machine hash party).Run (start w₀) ks s

variable (hash party) in
/-- A call that asks for something else than the committed sale: none of its steps
changes the database or goes on with a sale, and every look at the key once the sale is
there is a conflict. -/
def Refused (w₀ : PortalDb) (ls : List (ℕ × Label)) (k : OrderKey) (i : ℕ) : Prop :=
  ∀ ks l s₁ s₂, ks ++ [(i, l)] <+: ls → (machine hash party).Run (start w₀) ks s₁ →
    (machine hash party).step s₁ (i, l) = some s₂ →
    s₂.db = s₁.db ∧ (s₂.phase i).stage.sale = none ∧
      (l.looks = true → (∃ b, k.SaleIn hash s₁.db b) →
        (s₂.phase i).stage = .rejected checkoutConflict)

variable (hash party) in
/-- Exactly once, of the calls for one key in a run from `w₀` to `s`. -/
structure ExactlyOnce (w₀ : PortalDb) (ls : List (ℕ × Label)) (s : Shared PortalDb Lock Phase)
    (k : OrderKey) : Prop where
  oneSale : ∀ s₁ s₂, Passes hash party w₀ ls s₁ → Passes hash party w₀ ls s₂ →
    ∀ a b, k.SaleIn hash s₁.db a → k.SaleIn hash s₂.db b → a.id = b.id
  oneOrder : ∀ s₁ s₂, Passes hash party w₀ ls s₁ → Passes hash party w₀ ls s₂ →
    ∀ a ∈ s₁.db.onlineOrders.rows, ∀ b ∈ s₂.db.onlineOrders.rows, a.saleId = b.saleId → a.id = b.id
  /-- A call that succeeds returns them. -/
  answers : ∀ i c, party i = .order c → k.Asks c → ∀ sale order,
    (s.phase i).stage = .returned sale order →
      (∃ a, k.SaleIn hash s.db a ∧ a.id = sale.id) ∧ HasOrder s.db sale.id order.id
  first : ∀ a, k.SaleIn hash s.db a → (∃ a₀, k.SaleIn hash w₀ a₀ ∧ a₀.id = a.id) ∨
    ∃ j c customer, party j = .order c ∧ (s.phase j).customer = some customer ∧
      a.creationHash = some (hash (.details (c.details customer.id)))
  /-- A call that asks for something else creates nothing. -/
  refuses : ∀ a, k.SaleIn hash s.db a → ∀ j c' y, party j = .order c' →
    a.creationHash = some (hash (.details (c'.details y))) →
    ∀ i c customer, party i = .order c → k.Asks c → (s.phase i).customer = some customer →
      c.details customer.id ≠ c'.details y → Refused hash party w₀ ls k i

variable {k : OrderKey}

theorem OrderKey.Asks.creation {c : Call} (h : k.Asks c) {customer : Customer}
    (hcompany : customer.companyId = k.companyId) :
    c.creation hash customer =
      some { key := k.hashed hash, hash := hash (.details (c.details customer.id)) } := by
  unfold Call.creation OrderKey.hashed
  rw [h.idempotencyKey, h.botUserId, h.telegramUserId, hcompany,
    Option.filter_some, if_pos (decide_eq_true k.nonempty), Option.map_some]

theorem passes_facts {s₁ : Shared PortalDb Lock Phase}
    (hothers : OthersKeep party) (hw₀ : Indexed w₀) (hrun : (machine hash party).Run (start w₀) ls s)
    (h : Passes hash party w₀ ls s₁) :
    Inv hash party s₁ ∧ Grows s₁.db s.db ∧
      ∀ j customer, (s₁.phase j).customer = some customer → (s.phase j).customer = some customer := by
  obtain ⟨ks, ⟨ks', rfl⟩, hks⟩ := h
  obtain ⟨s₁', hfirst, hrest⟩ := Machine.RunWith.split hrun
  obtain rfl := hks.unique hfirst
  have hinv := (run_facts hothers (start_inv hw₀) hks).1
  obtain ⟨-, hgrows, hcustomer⟩ := run_facts hothers hinv hrest
  exact ⟨hinv, hgrows, hcustomer⟩

theorem OrderKey.SaleIn.grows {w : PortalDb} (h : k.SaleIn hash w a)
    (hgrows : Grows w w') : ∃ b, k.SaleIn hash w' b ∧ SameCreation a b := by
  obtain ⟨b, hb, hsame⟩ := hgrows.sales a h.mem
  exact ⟨b, ⟨hb, hsame.companyId.trans h.companyId, hsame.creationKey.trans h.creationKey⟩, hsame⟩

theorem OrderKey.SaleIn.unique {w : PortalDb} {b : Sale} (hw : Indexed w)
    (ha : k.SaleIn hash w a) (hb : k.SaleIn hash w b) : a = b := by
  refine Table.eq_of_key ha.mem hb.mem (hw.keys a ha.mem b hb.mem (ha.companyId.trans hb.companyId.symm)
    (ha.creationKey.trans hb.creationKey.symm) ?_)
  rw [ha.creationKey]
  exact Option.some_ne_none _

theorem customers_linked (hrun : (machine hash party).RunWith (fun s _ => k.LinkedTo s.db) (start w₀) ls s) :
    ∀ i c customer, party i = .order c → k.Asks c → (s.phase i).customer = some customer →
      customer.companyId = k.companyId := by
  refine hrun.invariant (I := fun s => ∀ i c customer, party i = .order c → k.Asks c →
    (s.phase i).customer = some customer → customer.companyId = k.companyId)
    (fun i c customer _ _ h => by cases h) fun s₁ l s₂ hI hlinked hs => ?_
  intro i c customer hparty hasks hcustomer
  obtain ⟨m, hm, hphase⟩ := Shared.step_phase hs
  rw [hphase] at hcustomer
  by_cases hi : i = l.1
  · subst hi
    rw [Function.update_self] at hcustomer
    rcases protocol_cases hm with ⟨c', hparty', hmove⟩ | ⟨f, hparty', rfl⟩
    · obtain rfl := Party.order.inj (hparty.symm.trans hparty')
      cases hold : (s₁.phase l.1).customer with
      | some other =>
        have hsame := orderMove_customer hold hmove
        rw [hcustomer] at hsame
        cases hsame
        exact hI l.1 c customer hparty hasks hold
      | none =>
        have hlink := orderMove_links hold hmove hcustomer
        unfold OrderKey.LinkedTo at hlinked
        rw [← hasks.telegramUserId, hlink] at hlinked
        exact hlinked
    · rw [hparty] at hparty'
      cases hparty'
  · rw [Function.update_of_ne hi] at hcustomer
    exact hI i c customer hparty hasks hcustomer

theorem refused_of_hash (hothers : OthersKeep party) (hw₀ : Indexed w₀)
    (hrun : (machine hash party).Run (start w₀) ls s) (ha : k.SaleIn hash s.db a)
    {i : ℕ} {c : Call} {customer : Customer} (hparty : party i = .order c) (hasks : k.Asks c)
    (hcustomer : (s.phase i).customer = some customer) (hcompany : customer.companyId = k.companyId)
    (hhash : a.creationHash ≠ some (hash (.details (c.details customer.id)))) :
    Refused hash party w₀ ls k i := by
  have hend := (run_facts hothers (start_inv hw₀) hrun).1
  have hcreation : c.creation hash customer =
      some { key := k.hashed hash, hash := hash (.details (c.details customer.id)) } :=
    hasks.creation hcompany
  -- wherever the call stands in the run, it goes on with no sale
  have hnone : ∀ s₁, Passes hash party w₀ ls s₁ → (s₁.phase i).stage.sale = none := by
    intro s₁ hpasses
    obtain ⟨hinv, hgrows, hkeeps⟩ := passes_facts hothers hw₀ hrun hpasses
    have hcall := hinv.phase i c hparty
    cases hread : (s₁.phase i).customer with
    | none => exact hcall.early hread
    | some other =>
      obtain rfl : other = customer := Option.some.inj ((hkeeps i other hread).symm.trans hcustomer)
      cases hsale : (s₁.phase i).stage.sale with
      | none => rfl
      | some sale =>
        obtain ⟨b, hb, -, hcompanyB, hkeyB, hhashB⟩ :=
          (hasSale_of_stage (hcall.stage other hread) hsale).grows hgrows
        rw [hcreation] at hkeyB hhashB
        have hsame : a = b := ha.unique hend.db ⟨hb, hcompanyB.trans hcompany, hkeyB⟩
        rw [hsame] at hhash
        exact absurd hhashB hhash
  intro ks l s₁ s₂ hks hrun₁ hs
  have hpasses₁ : Passes hash party w₀ ls s₁ :=
    ⟨ks, List.IsPrefix.trans (List.prefix_append ks _) hks, hrun₁⟩
  have hpasses₂ : Passes hash party w₀ ls s₂ :=
    ⟨ks ++ [(i, l)], hks, hrun₁.append (.step trivial hs (.done s₂))⟩
  obtain ⟨hinv, hgrows, hkeeps⟩ := passes_facts hothers hw₀ hrun hpasses₁
  refine ⟨?_, hnone s₂ hpasses₂, fun hlooks ⟨b, hb⟩ => ?_⟩
  · rcases (step_facts hothers hinv hs).commits c hparty with hsame | hsale
    · exact hsame
    · rw [hnone s₂ hpasses₂] at hsale
      cases hsale
  · obtain ⟨m, hm, hphase⟩ := Shared.step_phase hs
    rw [hphase, Function.update_self]
    rcases protocol_cases hm with ⟨c', hparty', hmove⟩ | ⟨f, hparty', -⟩
    · obtain rfl := Party.order.inj (hparty.symm.trans hparty')
      cases hread : (s₁.phase i).customer with
      | none => exact absurd hmove (not_looks_early hread hlooks)
      | some other =>
        obtain rfl : other = customer :=
          Option.some.inj ((hkeeps i other hread).symm.trans hcustomer)
        -- the sale there is now is the one there is at the end
        obtain ⟨b', hb', hsame⟩ := hb.grows hgrows
        obtain rfl : a = b' := ha.unique hend.db hb'
        have htaken₁ : Taken hash c other s₁.db :=
          ⟨_, hcreation, b, hb.mem, hb.companyId.trans hcompany.symm, hb.creationKey,
            by rw [← hsame.creationHash]; exact hhash⟩
        exact looks_conflict hinv.db (hinv.phase i c hparty) hread htaken₁ hlooks hmove
    · rw [hparty] at hparty'
      cases hparty'

/-- Orders are created exactly once. Of all calls for one key, in every run that links
the Telegram user to customers of one company only, at most one sale and one online order
for it are ever committed; every call that succeeds returns these; and a call that asks for
something else than the sale's call creates nothing, and is answered with a conflict
whenever it looks at the key once the sale is there. -/
theorem orders_created_once (hash : HashInput → String) (party : ℕ → Party)
    (hothers : OthersKeep party) (hfree : CollisionFree hash party) {w₀ : PortalDb}
    (hw₀ : Indexed w₀) (k : OrderKey) {ls : List (ℕ × Label)} {s : Shared PortalDb Lock Phase}
    (hrun : (machine hash party).RunWith (fun s _ => k.LinkedTo s.db) (start w₀) ls s) :
    ExactlyOnce hash party w₀ ls s k := by
  have hplain := hrun.run
  have hend := (run_facts hothers (start_inv hw₀) hplain).1
  have hlinked := customers_linked hrun
  constructor
  · intro s₁ s₂ hs₁ hs₂ a b ha hb
    obtain ⟨a', ha', hsameA⟩ := ha.grows (passes_facts hothers hw₀ hplain hs₁).2.1
    obtain ⟨b', hb', hsameB⟩ := hb.grows (passes_facts hothers hw₀ hplain hs₂).2.1
    rw [← hsameA.id, ← hsameB.id, ha'.unique hend.db hb']
  · intro s₁ s₂ hs₁ hs₂ a ha b hb hsale
    obtain ⟨a', ha', hidA, hsaleA⟩ := (passes_facts hothers hw₀ hplain hs₁).2.1.orders a ha
    obtain ⟨b', hb', hidB, hsaleB⟩ := (passes_facts hothers hw₀ hplain hs₂).2.1.orders b hb
    rw [← hidA, ← hidB]
    exact hend.db.orders a' ha' b' hb' (hsaleA.trans (hsale.trans hsaleB.symm))
  · intro i c hparty hasks sale order hstage
    have hcall := hend.phase i c hparty
    cases hread : (s.phase i).customer with
    | none =>
      have hnone := hcall.early hread
      rw [hstage] at hnone
      cases hnone
    | some customer =>
      have hok := hcall.stage customer hread
      have hcompany := hlinked i c customer hparty hasks hread
      rw [hstage] at hok
      obtain ⟨⟨a, ha, hid, hcompanyA, hkey, -⟩, horder⟩ := hok
      rw [hasks.creation hcompany] at hkey
      exact ⟨⟨a, ⟨ha, hcompanyA.trans hcompany, hkey⟩, hid⟩, horder⟩
  · intro a ha
    have hkeyed : a.creationKey ≠ none := by
      rw [ha.creationKey]
      exact Option.some_ne_none _
    rcases run_authors hothers hw₀ hplain a ha.mem hkeyed with ⟨a₀, ha₀, hsame⟩ |
      ⟨j, c, customer, creation, hparty, hread, hcreation, hhash⟩
    · refine .inl ⟨a₀, ⟨ha₀, ?_, ?_⟩, hsame.id.symm⟩
      · rw [← hsame.companyId, ha.companyId]
      · rw [← hsame.creationKey, ha.creationKey]
    · refine .inr ⟨j, c, customer, hparty, hread, ?_⟩
      obtain ⟨key, -, rfl⟩ := Option.map_eq_some_iff.1 hcreation
      exact hhash
  · intro a ha j c' y hpartyJ hhash i c customer hparty hasks hread hne
    refine refused_of_hash hothers hw₀ hplain ha hparty hasks hread
      (hlinked i c customer hparty hasks hread) fun heq => hne ?_
    exact hfree i j c c' hparty hpartyJ customer.id y (Option.some.inj (heq.symm.trans hhash))

end Runs

/-! One order: a call that crashes, its retry, a call for something else, and the back office. -/

namespace OrderDemo

def customer : Customer :=
  { id := 7, companyId := 1, customerCode := "C7", receivableAccountId := none, status := .Active }

def now : Instant := { date := ⟨2026, 3, 1⟩, millis := 0 }

def shop : PortalDb where
  erp :=
    { master :=
        { companies := .ofRows [{ id := 1, status := .Active, baseCurrency := "MMK" }]
          customers := .ofRows [customer]
          productVariants := .ofRows [{ id := 3, companyId := 1, status := .Active, sku := "TEE" }]
          priceLists := .ofRows [{ id := 4, companyId := 1, status := .Active }]
          priceListItems :=
            [{ companyId := 1, priceListId := 4, productVariantId := 3, uomId := none, price := 900
               validFrom := now, validTo := none, status := .Active }] }
      sequences := { nextId := 50 } }
  links := .ofRows [{ telegramUserId := "700", customerId := 7, status := .Active }]

/-- A call with the key `k` for one piece of the product. -/
def call (deliveryAddress sku : String) : Call :=
  { botUserId := 9, now
    dto := { idempotencyKey := some "k", telegramUserId := "700", deliveryAddress
             items := [{ sku, quantity := 1 }] } }

def key : OrderKey := ⟨1, 9, "700", "k", by decide⟩

def party : ℕ → Party
  | 0 => .order (call "A" "TEE")
  | 1 => .order (call "A" "TEE")
  | 2 => .order (call "B" "TEE")
  | 3 => .order (call "B" "HAT")
  | _ => .other (updateStatus 52 1 .Confirmed now)

def digest : HashInput → String
  | .key .. => "key"
  | .details d => String.ofList (d.deliveryAddress.toList ++
      d.items.flatMap (·.sku.toList) ++ List.replicate d.customerId 'i')

def selling (i : ℕ) : List (ℕ × Label) :=
  [(i, .link), (i, .lookup), (i, .resolve), (i, .recheck), (i, .validate), (i, .number),
    (i, .replay), (i, .charge), (i, .insert), (i, .commit)]

def crashAndRetry : List (ℕ × Label) :=
  selling 0 ++ [(0, .abort), (1, .link), (1, .lookup), (1, .find), (1, .order), (4, .elsewhere),
    (2, .link), (2, .lookup)]

def ownCheckFirst : List (ℕ × Label) :=
  [(3, .link), (3, .lookup)] ++ selling 0 ++ [(3, .resolve)]

end OrderDemo

section

open OrderDemo

theorem party_order {i : ℕ} {c : Call} (h : party i = .order c) :
    c = call "A" "TEE" ∨ c = call "B" "TEE" ∨ c = call "B" "HAT" := by
  unfold party at h
  split at h
  · exact .inl (Party.order.inj h).symm
  · exact .inl (Party.order.inj h).symm
  · exact .inr (.inl (Party.order.inj h).symm)
  · exact .inr (.inr (Party.order.inj h).symm)
  · cases h

theorem othersKeep_demo : OthersKeep party := by
  intro i f hf w
  unfold party at hf
  split at hf
  · cases hf
  · cases hf
  · cases hf
  · cases hf
  · obtain rfl := Party.other.inj hf
    exact kept_updateStatus 52 1 .Confirmed now w

theorem collisionFree_demo : CollisionFree digest party := by
  intro i j c c' hc hc' x y h
  have hlist := String.ofList_injective h
  rcases party_order hc with rfl | rfl | rfl <;> rcases party_order hc' with rfl | rfl | rfl <;>
    simp [call, Call.details] at hlist ⊢ <;> exact hlist

theorem indexed_demo : Indexed shop where
  keys _ ha := absurd ha List.not_mem_nil
  orders _ ha := absurd ha List.not_mem_nil
  saleIds _ ha := absurd ha List.not_mem_nil
  orderIds _ ha := absurd ha List.not_mem_nil

theorem orders_created_once_retry :
    OthersKeep party ∧ CollisionFree digest party ∧ Indexed shop ∧
      ∃ s, (machine digest party).RunWith (fun s _ => key.LinkedTo s.db) (start shop)
          crashAndRetry s ∧
        ((∃ sale order, (s.phase 1).stage = .returned sale order) ∧
          (s.phase 2).stage = .rejected checkoutConflict) ∧
        ExactlyOnce digest party shop crashAndRetry s key := by
  obtain ⟨s, hrun, hs⟩ := Machine.exists_runWith (machine digest party)
    (fun s _ => key.LinkedTo s.db) (start shop) crashAndRetry
    (fun s => (match (s.phase 1).stage with
      | .returned .. => true
      | _ => false) && match (s.phase 2).stage with
      | .rejected error => error = checkoutConflict
      | _ => false) (by decide +kernel)
  rw [Bool.and_eq_true] at hs
  refine ⟨othersKeep_demo, collisionFree_demo, indexed_demo, s, hrun, ⟨?_, ?_⟩,
    orders_created_once digest party othersKeep_demo collisionFree_demo indexed_demo key hrun⟩
  · have h := hs.1
    split at h
    · exact ⟨_, _, by assumption⟩
    · cases h
  · have h := hs.2
    split at h
    · rename_i hstage
      rw [hstage, of_decide_eq_true h]
    · cases h

theorem refused_without_conflict :
    ∃ s, (machine digest party).RunWith (fun s _ => key.LinkedTo s.db) (start shop)
        ownCheckFirst s ∧
      (∃ a, key.SaleIn digest s.db a ∧
        a.creationHash = some (digest (.details ((call "A" "TEE").details 7)))) ∧
      party 3 = .order (call "B" "HAT") ∧ key.Asks (call "B" "HAT") ∧
      (call "B" "HAT").details 7 ≠ (call "A" "TEE").details 7 ∧
      (s.phase 3).stage =
        .rejected (appException .ValidationError "No product found for SKU \"HAT\"") := by
  obtain ⟨s, hrun, hs⟩ := Machine.exists_runWith (machine digest party)
    (fun s _ => key.LinkedTo s.db) (start shop) ownCheckFirst
    (fun s => (s.db.sales.any fun a => a.companyId = 1 && a.creationKey = some "key" &&
        a.creationHash = some (digest (.details ((call "A" "TEE").details 7)))) &&
      match (s.phase 3).stage with
      | .rejected error =>
        error = appException .ValidationError "No product found for SKU \"HAT\""
      | _ => false) (by decide +kernel)
  rw [Bool.and_eq_true] at hs
  refine ⟨s, hrun, ?_, rfl, ⟨rfl, rfl, rfl⟩, by decide, ?_⟩
  · obtain ⟨a, ha, hcolumns⟩ := List.any_eq_true.1 hs.1
    simp only [Bool.and_eq_true, decide_eq_true_eq] at hcolumns
    exact ⟨a, ⟨ha, hcolumns.1.1, hcolumns.1.2⟩, hcolumns.2⟩
  · have h := hs.2
    split at h
    · rename_i hstage
      rw [hstage, of_decide_eq_true h]
    · cases h

end

end CustomerOrders

end FashionErp
