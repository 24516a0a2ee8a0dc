/-
Runs of the requests that return a confirmed sale.

Returns are made, confirmed and cancelled, and payments refund them, one request
after the other in any order.
-/
import FashionErp.Payments.PayablesInvariant
import FashionErp.Sales.SaleCreation

namespace FashionErp

open Lib Lib.Tx

/-! ## The machine -/

inductive ReturnRequest
  | create (companyId userId : Uuid) (now : Instant)
      (dto : SaleReturnsService.CreateSaleReturnDto)
  | confirm (id companyId userId : Uuid) (now : Instant)
  | cancel (id companyId : Uuid)
  | refund (companyId userId : Uuid) (now : Instant) (dto : PaymentsService.CreatePaymentDto)
      (idempotencyKey : Option String)

def ReturnRequest.transaction : ReturnRequest → DbTx Unit
  | create companyId userId now dto => void (SaleReturnsService.create companyId userId now dto)
  | confirm id companyId userId now => void (SaleReturnsService.confirm id companyId userId now)
  | cancel id companyId => void (SaleReturnsService.cancel id companyId)
  | refund companyId userId now dto idempotencyKey =>
    void (PaymentsService.create companyId userId now { dto with direction := .Refund }
      idempotencyKey)

/-- Requests that commit, one after the other. -/
def saleReturnMachine : Machine Db ReturnRequest where
  step db request := (result request.transaction db).toOption

/-! ## What is returned of a sale -/

def refundTotal (db : Db) (saleId : Uuid) : Cents :=
  ((db.selling.saleReturns.rows.filter fun r =>
    r.saleId = saleId ∧ r.status ≠ .Cancelled).map (·.refundAmount)).sum

def refundedTotal (db : Db) (saleId : Uuid) : Cents :=
  ((db.selling.saleReturns.rows.filter fun r => r.saleId = saleId).map (·.refundedAmount)).sum

/-- A sale is not refunded for more than it charged. -/
structure RefundsWithinCharge (db : Db) (sale : Sale) : Prop where
  refunds : refundTotal db sale.id ≤ sale.grandTotal
  refunded : refundedTotal db sale.id ≤ sale.grandTotal

def returnedLines (db : Db) (saleId : Uuid) : List SaleReturnItem :=
  (db.selling.saleReturns.rows.filter fun r =>
    r.saleId = saleId ∧ r.status ≠ .Cancelled).flatMap (·.items)

def listValue (sale : Sale) : Cents :=
  (sale.items.map fun i => i.unitPriceSnapshot * i.quantity).sum

def keptValue (db : Db) (sale : Sale) (dto : SaleReturnsService.CreateSaleReturnDto) : Cents :=
  (sale.items.map fun i => i.unitPriceSnapshot * (i.quantity -
    net (SaleReturnsService.draws (returnedLines db sale.id)) i.id -
    net (SaleReturnsService.requested dto.items) i.id)).sum

def namedDiscounts (db : Db) (sale : Sale) (dto : SaleReturnsService.CreateSaleReturnDto) : Cents :=
  SaleReturnsService.discountTotal (returnedLines db sale.id) +
    SaleReturnsService.requestedDiscount dto.items

/-- The request makes up for what the sale was charged less: the pieces the
customer keeps and the discounts named cover the difference between the list value
of the sale and its grand total. -/
def CoversConcession (db : Db) (dto : SaleReturnsService.CreateSaleReturnDto) : Prop :=
  ∀ sale, db.selling.sales.find? dto.saleId = some sale →
    listValue sale - sale.grandTotal ≤ keptValue db sale dto + namedDiscounts db sale dto

def ReturnRequest.CoversConcession (db : Db) : ReturnRequest → Prop
  | create _ _ _ dto => FashionErp.CoversConcession db dto
  | _ => True

/-! ## The invariant -/

def Sale.charged (sale : Sale) : Sale := { sale with warehouseId := none }

def ChargesStay (sales sales' : Table Sale) : Prop :=
  ∀ id, (sales'.find? id).map Sale.charged = (sales.find? id).map Sale.charged

/-- A return as the services keep it: its rows are priced by its sale, its refund
amount is theirs, and no more than that is refunded, nothing before it is confirmed. -/
structure ReturnOk (sales : Table Sale) (r : SaleReturn) : Prop where
  rows : ∃ sale, sales.find? r.saleId = some sale ∧
    ∀ row ∈ r.items, SaleReturnsService.ForItem sale row
  refund : r.refundAmount =
    SaleReturnsService.subtotal r.items - SaleReturnsService.discountTotal r.items
  refunded : r.refundedAmount ≤ r.refundAmount
  unpaid : r.status = .Draft ∨ r.status = .Cancelled → r.refundedAmount = 0

structure ReturnsInv (db : Db) : Prop where
  keyed : ∀ sale ∈ db.selling.sales.rows, (sale.items.map (·.id)).Nodup
  returns : ∀ r ∈ db.selling.saleReturns.rows, ReturnOk db.selling.sales r

theorem ChargesStay.refl (sales : Table Sale) : ChargesStay sales sales := fun _ => rfl

theorem ChargesStay.trans {sales₁ sales₂ sales₃ : Table Sale} (h₁ : ChargesStay sales₁ sales₂)
    (h₂ : ChargesStay sales₂ sales₃) : ChargesStay sales₁ sales₃ :=
  fun id => (h₂ id).trans (h₁ id)

variable {sales : Table Sale} {db db' : Db} {companyId : Uuid} {id userId : Uuid} {sale : Sale}
  {sales' : Table Sale}

theorem ChargesStay.find? (h : ChargesStay sales sales') (hsale : sales.find? id = some sale) :
    ∃ sale', sales'.find? id = some sale' ∧ sale'.charged = sale.charged := by
  have hid := h id
  rw [hsale, Option.map_some, Option.map_eq_some_iff] at hid
  exact hid

theorem ChargesStay.symm (h : ChargesStay sales sales') :
    ChargesStay sales' sales := fun id => (h id).symm

theorem charged_items {sale' : Sale} (h : sale'.charged = sale.charged) :
    sale'.items = sale.items := by
  have hitems : sale'.charged.items = sale.charged.items := by rw [h]
  exact hitems

theorem charged_grandTotal {sale' : Sale} (h : sale'.charged = sale.charged) :
    sale'.grandTotal = sale.grandTotal := by
  have htotal : sale'.charged.grandTotal = sale.charged.grandTotal := by rw [h]
  exact htotal

variable {r : SaleReturn}

theorem ReturnOk.of_stay (h : ReturnOk sales r)
    (hstay : ChargesStay sales sales') : ReturnOk sales' r := by
  obtain ⟨sale, hsale, hrows⟩ := h.rows
  obtain ⟨sale', hsale', hcharged⟩ := hstay.find? hsale
  refine ⟨⟨sale', hsale', fun row hrow => ?_⟩, h.refund, h.refunded, h.unpaid⟩
  obtain ⟨hitem, hquantity, hdiscount⟩ := hrows row hrow
  rw [← charged_items hcharged] at hitem
  exact ⟨hitem, hquantity, hdiscount⟩

theorem ReturnOk.refund_nonneg (h : ReturnOk sales r) : 0 ≤ r.refundAmount := by
  obtain ⟨sale, -, hrows⟩ := h.rows
  rw [h.refund, SaleReturnsService.subtotal, SaleReturnsService.discountTotal]
  refine Int.sub_nonneg_of_le (List.sum_le_sum fun row hrow => ?_)
  exact (hrows row hrow).discount_le

/-! ## What the returns of a sale are worth -/

def countsFor (saleId : Uuid) (r : SaleReturn) : Cents :=
  if r.saleId = saleId ∧ r.status ≠ .Cancelled then r.refundAmount else 0

theorem refundTotal_eq (db : Db) (saleId : Uuid) :
    refundTotal db saleId = db.selling.saleReturns.sum (countsFor saleId) := by
  rw [refundTotal, Table.sum_filter]
  simp only [decide_eq_true_eq]
  rfl

theorem ReturnsInv.refundedTotal_le (h : ReturnsInv db) (saleId : Uuid) :
    refundedTotal db saleId ≤ refundTotal db saleId := by
  rw [refundTotal_eq, refundedTotal, Table.sum_filter]
  refine List.sum_le_sum fun r hr => ?_
  have hok := h.returns r hr
  by_cases hsale : r.saleId = saleId
  · by_cases hcancelled : r.status = .Cancelled
    · simp [countsFor, hsale, hcancelled, hok.unpaid (.inr hcancelled)]
    · simp [countsFor, hsale, hcancelled, hok.refunded]
  · simp [countsFor, hsale]

theorem subtotal_eq (hkeys : (sale.items.map (·.id)).Nodup)
    {rows : List SaleReturnItem} (hrows : ∀ row ∈ rows, SaleReturnsService.ForItem sale row) :
    SaleReturnsService.subtotal rows = (sale.items.map fun i =>
      i.unitPriceSnapshot * net (SaleReturnsService.draws rows) i.id).sum := by
  induction rows with
  | nil =>
    refine (List.sum_eq_zero fun a ha => ?_).symm
    obtain ⟨i, -, rfl⟩ := List.mem_map.1 ha
    exact mul_zero _
  | cons row rows ih =>
    obtain ⟨⟨item, hitem, hid, -, hprice⟩, -, -⟩ := hrows row List.mem_cons_self
    have hsplit : (sale.items.map fun i =>
        i.unitPriceSnapshot * net (SaleReturnsService.draws (row :: rows)) i.id) =
        sale.items.map fun i => (if item.id = i.id then i.unitPriceSnapshot * row.quantity else 0) +
          i.unitPriceSnapshot * net (SaleReturnsService.draws rows) i.id := by
      refine List.map_congr_left fun i _ => ?_
      rw [SaleReturnsService.draws, List.map_cons, net_cons, hid, mul_add, mul_ite, mul_zero]
      rfl
    rw [hsplit, List.sum_map_add, ← ih fun r hr => hrows r (List.mem_cons_of_mem _ hr),
      sum_ite_item hkeys hitem fun i => i.unitPriceSnapshot * row.quantity, ← hprice]
    rfl

theorem ReturnsInv.refundTotal_lines (h : ReturnsInv db) (saleId : Uuid) :
    refundTotal db saleId = SaleReturnsService.subtotal (returnedLines db saleId) -
      SaleReturnsService.discountTotal (returnedLines db saleId) := by
  have hok : ∀ r ∈ db.selling.saleReturns.rows.filter fun r =>
      r.saleId = saleId ∧ r.status ≠ .Cancelled, r.refundAmount =
        SaleReturnsService.subtotal r.items - SaleReturnsService.discountTotal r.items :=
    fun r hr => (h.returns r (List.mem_of_mem_filter hr)).refund
  rw [refundTotal, returnedLines]
  generalize db.selling.saleReturns.rows.filter _ = rs at hok
  induction rs with
  | nil => rfl
  | cons r rs ih =>
    have hr := hok r List.mem_cons_self
    have hrs := ih fun r' hr' => hok r' (List.mem_cons_of_mem r hr')
    simp only [SaleReturnsService.subtotal, SaleReturnsService.discountTotal] at hr hrs ⊢
    rw [List.map_cons, List.sum_cons, List.flatMap_cons, List.map_append, List.map_append,
      List.sum_append, List.sum_append, hr, hrs]
    abel

/-! ## Requests that add no refund -/

structure NoMoreRefunds (db db' : Db) : Prop where
  inv : ReturnsInv db'
  stay : ChargesStay db.selling.sales db'.selling.sales
  total : ∀ saleId, refundTotal db' saleId ≤ refundTotal db saleId

theorem NoMoreRefunds.refl (h : ReturnsInv db) : NoMoreRefunds db db :=
  ⟨h, .refl _, fun _ => Int.le_refl _⟩

theorem NoMoreRefunds.trans {db₁ db₂ db₃ : Db} (h₁ : NoMoreRefunds db₁ db₂)
    (h₂ : NoMoreRefunds db₂ db₃) : NoMoreRefunds db₁ db₃ :=
  ⟨h₂.inv, h₁.stay.trans h₂.stay, fun saleId => Int.le_trans (h₂.total saleId) (h₁.total saleId)⟩

theorem ReturnsInv.keyed_of_stay (h : ReturnsInv db) (hstay : ChargesStay db.selling.sales sales) :
    ∀ sale ∈ sales.rows, (sale.items.map (·.id)).Nodup := by
  intro sale hsale
  obtain ⟨sale₀, hsale₀, hcharged⟩ := hstay.symm.find? ((Table.mem_rows_iff _ _).1 hsale)
  rw [← charged_items hcharged]
  exact h.keyed sale₀ (Table.mem_of_find? hsale₀)

theorem NoMoreRefunds.of_selling (h : ReturnsInv db) (hsales : db'.selling.sales = db.selling.sales)
    (hreturns : db'.selling.saleReturns = db.selling.saleReturns) : NoMoreRefunds db db' := by
  refine ⟨⟨?_, ?_⟩, ?_, fun saleId => ?_⟩
  · rw [hsales]
    exact h.keyed
  · rw [hsales, hreturns]
    exact h.returns
  · rw [hsales]
    exact .refl _
  · rw [refundTotal, refundTotal, hreturns]

/-- Rewriting a return with its own rows and its own refund amount, as long as a
cancelled return stays one. -/
theorem NoMoreRefunds.of_rewrite {r' : SaleReturn} (h : ReturnsInv db)
    (hr : db.selling.saleReturns.find? id = some r)
    (hstay : ChargesStay db.selling.sales db'.selling.sales)
    (hsave : db'.selling.saleReturns = db.selling.saleReturns.save r') (hkey : r'.id = r.id)
    (hsale : r'.saleId = r.saleId) (hitems : r'.items = r.items)
    (hrefund : r'.refundAmount = r.refundAmount) (hrefunded : r'.refundedAmount ≤ r.refundAmount)
    (hunpaid : r'.status = .Draft ∨ r'.status = .Cancelled → r'.refundedAmount = 0)
    (hcancelled : r.status = .Cancelled → r'.status = .Cancelled) : NoMoreRefunds db db' := by
  have hok := h.returns r (Table.mem_of_find? hr)
  have hok' : ReturnOk db.selling.sales r' := by
    refine ⟨?_, ?_, by rw [hrefund]; exact hrefunded, hunpaid⟩
    · rw [hsale, hitems]
      exact hok.rows
    · rw [hrefund, hitems]
      exact hok.refund
  refine ⟨⟨h.keyed_of_stay hstay, fun x hx => ?_⟩, hstay, fun saleId => ?_⟩
  · rw [hsave] at hx
    exact (Table.forall_save h.returns hok' x hx).of_stay hstay
  · have hfind : db.selling.saleReturns.find? (key r') = some r := by
      have hid : r.id = id := Table.key_of_find? hr
      rw [show key r' = id from hkey.trans hid]
      exact hr
    rw [refundTotal_eq, refundTotal_eq, hsave, Table.sum_save_over _ _ _ _ hfind]
    have hnonneg := hok.refund_nonneg
    have hcounts : countsFor saleId r' ≤ countsFor saleId r := by
      simp only [countsFor, hsale, hrefund]
      split
      · rename_i hr'
        rw [if_pos ⟨hr'.1, fun hc => hr'.2 (hcancelled hc)⟩]
      · split
        · exact hnonneg
        · exact Int.le_refl _
    exact add_le_of_nonpos_right (sub_nonpos.2 hcounts)

theorem cancel_noMoreRefunds {cancelled : SaleReturn} (h : ReturnsInv db)
    (hc : Commits (SaleReturnsService.cancel id companyId) db cancelled db') :
    NoMoreRefunds db db' := by
  obtain ⟨draft, hdraft, hstatus, rfl, rfl⟩ := SaleReturnsService.cancel_spec hc
  have hok := h.returns draft (Table.mem_of_find? hdraft)
  have hunpaid := hok.unpaid (.inl hstatus)
  exact .of_rewrite h hdraft (.refl _) rfl rfl rfl rfl rfl hok.refunded (fun _ => hunpaid)
    fun _ => rfl

theorem confirm_noMoreRefunds {now : Instant} {confirmed : SaleReturn} (h : ReturnsInv db)
    (hc : Commits (SaleReturnsService.confirm id companyId userId now) db confirmed db') :
    NoMoreRefunds db db' := by
  obtain ⟨draft, sale, warehouseId, db₁, db₂, hdraft, -, hstatus, hsale, -, hselling, -, hloyal,
    rfl⟩ := SaleReturnsService.confirm_spec hc
  have honly := (SaleReturnsService.reverseLoyalty_succeeds _ _ _ _ db₁).of_commits hloyal
  have hsales : db₂.selling.sales =
      db.selling.sales.save { sale with warehouseId := some warehouseId } := by
    rw [honly]
    exact congrArg SalesTables.sales hselling
  have hok := h.returns draft (Table.mem_of_find? hdraft)
  refine .of_rewrite h hdraft ?_ rfl rfl rfl rfl rfl hok.refunded nofun fun hcancelled => ?_
  · intro k
    show (db₂.selling.sales.find? k).map _ = _
    rw [hsales]
    have hcharged : Sale.charged { sale with warehouseId := some warehouseId } = sale.charged := rfl
    refine Table.map_find?_save_over Sale.charged hsale ?_ hcharged k
    rfl
  · rw [hstatus] at hcancelled
    cases hcancelled

theorem applyRefund_noMoreRefunds {amount : Cents} {u : Unit} (h : ReturnsInv db)
    (hc : Commits (SaleReturnsService.applyRefund id companyId amount) db u db') :
    NoMoreRefunds db db' := by
  obtain ⟨r, hr, hstatus, hroom, status, hstatus', rfl⟩ := SaleReturnsService.applyRefund_spec hc
  refine .of_rewrite h hr (.refl _) rfl rfl rfl rfl rfl hroom (fun hdraft => ?_) fun hcancelled => ?_
  · rcases hstatus' with rfl | rfl <;> rcases hdraft with hdraft | hdraft <;> cases hdraft
  · rw [hcancelled] at hstatus
    rcases hstatus with hstatus | hstatus <;> cases hstatus

variable {idempotencyKey : Option String}

/-- What a refund payment touches of the selling tables: its targets are returns,
and each takes its total by `applyRefund`. A replay of its key touches nothing. -/
theorem PaymentsService.create_refund {now : Instant} {dto : CreatePaymentDto} {result : Payment × Bool} {I : Db → Prop} (hI : I db)
    (hselling : ∀ s s', I s → s'.selling = s.selling → s'.stock = s.stock → I s')
    (hrefund : ∀ s s' id amount u, I s → Commits (SaleReturnsService.applyRefund id companyId amount) s u s' → I s')
    (h : Commits (create companyId userId now { dto with direction := .Refund } idempotencyKey) db result db') :
    I db' := by
  rcases create_cases h with ⟨-, rfl⟩ | ⟨-, hvalid, hrun⟩
  · exact hI
  · obtain ⟨number, id, db₁, db₂, db₃, db₄, hseq₁, hloop, hseq₃, hpayment, -, -, hpost, event,
      hevent⟩ := runCreate_spec hrun
    have hdb' := hevent.db_eq
    rcases postToLedger_cases hpost with ⟨-, rfl⟩ | ⟨hne, -⟩
    · have hI₁ : I db₁ := hselling db db₁ hI (by rw [hseq₁]) (by rw [hseq₁])
      have hI₂ : I db₂ := by
        refine forM_invariant (fun _ s => I s) (fun done target rest s s' heq hs hc => ?_) hI₁ hloop
        -- A refund is allocated to sale returns only.
        have hmem : target ∈ sortedTargets dto.allocations := by
          rw [heq]
          exact List.mem_append_right _ List.mem_cons_self
        obtain ⟨a, ha, rfl⟩ := mem_sortedTargets.1 hmem
        have htype : a.referenceType = .SaleReturn := (hvalid a ha).1
        rw [PaymentAllocation.target, htype] at hc
        exact hrefund s s' _ _ _ hs hc
      refine hselling db₂ _ hI₂ ?_ ?_
      · rw [hdb']
        show db₃.selling = db₂.selling
        rw [hseq₃]
      · rw [hdb']
        show db₃.stock = db₂.stock
        rw [hseq₃]
    · rw [hpayment] at hne
      exact absurd rfl hne

theorem refund_noMoreRefunds {now : Instant}
    {dto : PaymentsService.CreatePaymentDto}
    {result : Payment × Bool} (h : ReturnsInv db)
    (hc : Commits (PaymentsService.create companyId userId now { dto with direction := .Refund } idempotencyKey) db result db') :
    NoMoreRefunds db db' := by
  refine PaymentsService.create_refund (I := fun s => NoMoreRefunds db s) (.refl h)
    (fun s s' hs hselling _ => ?_) (fun s s' id amount u hs hstep => ?_) hc
  · exact hs.trans (.of_selling hs.inv (by rw [hselling]) (by rw [hselling]))
  · exact hs.trans (applyRefund_noMoreRefunds hs.inv hstep)

/-! ## Making a return -/

/-- What making a return adds: the pieces asked back at the prices of the sale, less
the discounts of the request. -/
theorem create_refunds {now : Instant}
    {dto : SaleReturnsService.CreateSaleReturnDto} (h : ReturnsInv db)
    (hc : Commits (SaleReturnsService.create companyId userId now dto) db r db') :
    ReturnsInv db' ∧ db'.selling.sales = db.selling.sales ∧
      ∃ sale, db.selling.sales.find? dto.saleId = some sale ∧ sale.id = dto.saleId ∧
        sale.status = .Confirmed ∧
        (∀ saleId, saleId ≠ sale.id → refundTotal db' saleId = refundTotal db saleId) ∧
        refundTotal db' sale.id =
          listValue sale - keptValue db sale dto - namedDiscounts db sale dto := by
  obtain ⟨sale, hsale, hid, hstatus, -, hnew, hdb', hdraft, hsaleId, -, hunpaid, hrows, hdrawn,
    hdiscount, hrefund⟩ := SaleReturnsService.create_spec hc
  have hselling : db'.selling =
      { db.selling with saleReturns := db.selling.saleReturns.save r } := by rw [hdb']
  have hok : ReturnOk db.selling.sales r := by
    have hnonneg : 0 ≤ r.refundAmount := by
      rw [hrefund]
      exact Int.sub_nonneg_of_le (List.sum_le_sum fun row hrow => (hrows row hrow).discount_le)
    refine ⟨⟨sale, by rw [hsaleId, hid]; exact hsale, hrows⟩, hrefund,
      by rw [hunpaid]; exact hnonneg, fun _ => hunpaid⟩
  have htotal : ∀ saleId, refundTotal db' saleId = refundTotal db saleId + countsFor saleId r := by
    intro saleId
    rw [refundTotal_eq, refundTotal_eq, hselling]
    exact Table.sum_save_new _ _ _ hnew
  refine ⟨⟨?_, ?_⟩, by rw [hselling], sale, hsale, hid, hstatus, fun saleId hne => ?_, ?_⟩
  · rw [hselling]
    exact h.keyed
  · rw [hselling]
    exact Table.forall_save h.returns hok
  · rw [htotal, countsFor, if_neg fun hcounts => hne (hcounts.1.symm.trans hsaleId), add_zero]
  · have hcounts : countsFor sale.id r = r.refundAmount := by
      rw [countsFor, if_pos ⟨hsaleId, by rw [hdraft]; decide⟩]
    have hkeys := h.keyed sale (Table.mem_of_find? hsale)
    have hreturned : ∀ row ∈ returnedLines db sale.id, SaleReturnsService.ForItem sale row := by
      intro row hrow
      obtain ⟨r₀, hr₀, hrow⟩ := List.mem_flatMap.1 hrow
      have hr₀sale : r₀.saleId = sale.id := by
        have := (List.mem_filter.1 hr₀).2
        simp only [Bool.decide_and, Bool.and_eq_true, decide_eq_true_eq] at this
        exact this.1
      obtain ⟨sale₀, hsale₀, hrows₀⟩ := (h.returns r₀ (List.mem_of_mem_filter hr₀)).rows
      rw [hr₀sale, hid, hsale] at hsale₀
      rw [Option.some.inj hsale₀]
      exact hrows₀ row hrow
    -- The request's lines are worked off in another order than they came in.
    have hperm : dto.sortedItems.Perm dto.items := List.perm_insertionSort _ _
    have hdraws : ∀ k, net (SaleReturnsService.draws r.items) k =
        net (SaleReturnsService.requested dto.items) k := by
      intro k
      rw [SaleReturnsService.draws, hdrawn]
      exact net_perm (hperm.map _) k
    have hdiscounts : SaleReturnsService.discountTotal r.items =
        SaleReturnsService.requestedDiscount dto.items :=
      hdiscount.trans (hperm.map _).sum_eq
    have hsplit : listValue sale = keptValue db sale dto + SaleReturnsService.subtotal r.items +
        SaleReturnsService.subtotal (returnedLines db sale.id) := by
      rw [keptValue, listValue, subtotal_eq hkeys hreturned, subtotal_eq hkeys hrows,
        ← List.sum_map_add, ← List.sum_map_add]
      refine congrArg List.sum (List.map_congr_left fun i _ => ?_)
      rw [hdraws, ← mul_add, ← mul_add, sub_add_cancel, sub_add_cancel]
    rw [htotal, hcounts, hrefund, h.refundTotal_lines, hsplit, namedDiscounts, hdiscounts]
    abel

/-! ## Runs -/

/-- No return has been made yet; the items of a sale have their own ids, and no sale
charges less than nothing (`SalesService.Charged.grandTotal_nonneg`). -/
structure BeforeReturns (db : Db) : Prop where
  returns : db.selling.saleReturns = .empty
  keyed : ∀ sale ∈ db.selling.sales.rows, (sale.items.map (·.id)).Nodup
  charged : ∀ sale ∈ db.selling.sales.rows, 0 ≤ sale.grandTotal

def AllRefundsWithinCharge (db : Db) : Prop :=
  ∀ sale ∈ db.selling.sales.rows, sale.status = .Confirmed → RefundsWithinCharge db sale

theorem BeforeReturns.inv (h : BeforeReturns db) : ReturnsInv db := by
  refine ⟨h.keyed, fun r hr => ?_⟩
  rw [h.returns] at hr
  cases hr

theorem ReturnsInv.within_iff (h : ReturnsInv db) (sale : Sale) :
    RefundsWithinCharge db sale ↔ refundTotal db sale.id ≤ sale.grandTotal :=
  ⟨fun hwithin => hwithin.refunds,
    fun hle => ⟨hle, Int.le_trans (h.refundedTotal_le sale.id) hle⟩⟩

theorem NoMoreRefunds.within (h : NoMoreRefunds db db') (hall : AllRefundsWithinCharge db) :
    AllRefundsWithinCharge db' := by
  intro sale' hsale' hstatus
  obtain ⟨sale, hsale, hcharged⟩ := h.stay.symm.find? ((Table.mem_rows_iff _ _).1 hsale')
  have hid : sale.id = sale'.id := Table.key_of_find? hsale
  have hconfirmed : sale.status = .Confirmed := by
    have hsame : sale.charged.status = sale'.charged.status := by rw [hcharged]
    exact hsame.trans hstatus
  refine (h.inv.within_iff sale').2 (Int.le_trans (h.total sale'.id) ?_)
  rw [← charged_grandTotal hcharged, ← hid]
  exact (hall sale (Table.mem_of_find? hsale) hconfirmed).refunds

theorem saleReturnMachine_step {request : ReturnRequest} (h : ReturnsInv db)
    (hall : AllRefundsWithinCharge db) (hs : saleReturnMachine.step db request = some db') :
    ReturnsInv db' ∧ (AllRefundsWithinCharge db' ↔ request.CoversConcession db) := by
  obtain ⟨u, hc⟩ := toOption_result_eq_some.1 hs
  cases request with
  | create companyId userId now dto =>
    obtain ⟨r, hc⟩ := (commits_void _ _ _ _).1 hc
    obtain ⟨hinv, hsales, sale, hsale, hid, hstatus, hother, htotal⟩ := create_refunds h hc
    have hcovers : (ReturnRequest.create companyId userId now dto).CoversConcession db ↔
        refundTotal db' sale.id ≤ sale.grandTotal := by
      simp only [ReturnRequest.CoversConcession, CoversConcession, hsale, Option.some.injEq,
        forall_eq', htotal]
      rw [sub_sub]
      exact sub_le_comm
    refine ⟨hinv, ?_⟩
    rw [hcovers]
    constructor
    · intro hall'
      refine (hall' sale ?_ hstatus).refunds
      rw [hsales]
      exact Table.mem_of_find? hsale
    · intro hle sale' hsale' hconfirmed
      rw [hsales] at hsale'
      refine (hinv.within_iff sale').2 ?_
      by_cases hsame : sale'.id = sale.id
      · have hrow : sale' = sale := Table.eq_of_key hsale' (Table.mem_of_find? hsale) hsame
        rw [hrow]
        exact hle
      · rw [hother sale'.id hsame]
        exact (hall sale' hsale' hconfirmed).refunds
  | confirm id companyId userId now =>
    obtain ⟨r, hc⟩ := (commits_void _ _ _ _).1 hc
    have hnone := confirm_noMoreRefunds h hc
    exact ⟨hnone.inv, iff_of_true (hnone.within hall) trivial⟩
  | cancel id companyId =>
    obtain ⟨r, hc⟩ := (commits_void _ _ _ _).1 hc
    have hnone := cancel_noMoreRefunds h hc
    exact ⟨hnone.inv, iff_of_true (hnone.within hall) trivial⟩
  | refund companyId userId now dto idempotencyKey =>
    obtain ⟨payment, hc⟩ := (commits_void _ _ _ _).1 hc
    have hnone := refund_noMoreRefunds h hc
    exact ⟨hnone.inv, iff_of_true (hnone.within hall) trivial⟩

/-- When a sale is not refunded for more than it charged. Along a run of returns
and refunds, no confirmed sale is worth more in returns than its grand total, and none
is refunded more, at any point, exactly when every return on the way is made with
the difference between list value and charge covered. -/
theorem refunds_within_charge_iff {db₀ db : Db} {ls : List ReturnRequest} (h₀ : BeforeReturns db₀)
    (hrun : saleReturnMachine.Run db₀ ls db) :
    (∀ ks, ks <+: ls → ∀ db₁, saleReturnMachine.Run db₀ ks db₁ → AllRefundsWithinCharge db₁) ↔
      saleReturnMachine.RunWith (fun db l => l.CoversConcession db) db₀ ls db := by
  have hstart : AllRefundsWithinCharge db₀ := by
    intro sale hsale _
    refine (h₀.inv.within_iff sale).2 ?_
    rw [refundTotal_eq, h₀.returns, Table.sum_empty]
    exact h₀.charged sale hsale
  refine Machine.prefixes_iff_runWith (I := fun db => ReturnsInv db ∧ AllRefundsWithinCharge db)
    (fun s l s' hI hcovers hs => ?_) (fun s hI => hI.2) (fun s l s' hI hs hall => ?_)
    ⟨h₀.inv, hstart⟩ hrun
  · obtain ⟨hinv, hiff⟩ := saleReturnMachine_step hI.1 hI.2 hs
    exact ⟨hinv, hiff.2 hcovers⟩
  · exact (saleReturnMachine_step hI.1 hI.2 hs).2.1 hall

theorem ReturnsInv.step {request : ReturnRequest} (h : ReturnsInv db)
    (hs : saleReturnMachine.step db request = some db') : ReturnsInv db' := by
  obtain ⟨u, hc⟩ := toOption_result_eq_some.1 hs
  cases request with
  | create companyId userId now dto =>
    obtain ⟨r, hc⟩ := (commits_void _ _ _ _).1 hc
    exact (create_refunds h hc).1
  | confirm id companyId userId now =>
    obtain ⟨r, hc⟩ := (commits_void _ _ _ _).1 hc
    exact (confirm_noMoreRefunds h hc).inv
  | cancel id companyId =>
    obtain ⟨r, hc⟩ := (commits_void _ _ _ _).1 hc
    exact (cancel_noMoreRefunds h hc).inv
  | refund companyId userId now dto idempotencyKey =>
    obtain ⟨payment, hc⟩ := (commits_void _ _ _ _).1 hc
    exact (refund_noMoreRefunds h hc).inv

/-- A return is refunded what it holds: along any run of returns and refunds its rows are rows
of its sale, its refund is what they come to, no more than that is ever paid, and nothing while it is
a draft or once it is cancelled. -/
theorem returns_refund_their_rows {db₀ db : Db} (h₀ : BeforeReturns db₀)
    (hreaches : saleReturnMachine.Reaches db₀ db) :
    ∀ r ∈ db.selling.saleReturns.rows, ReturnOk db.selling.sales r :=
  (hreaches.invariant h₀.inv fun _ _ _ h hs => h.step hs).returns

/-! A shop with two pieces of a variant at 100.00, of which it sells both with a
discount of 100.00 on the line, and one point for every whole unit of currency. -/

namespace ReturnDemo

def now : Instant := { date := ⟨2026, 3, 1⟩, millis := 0 }

def shop : Db where
  master :=
    { companies := .ofRows [{ id := 10, status := .Active, baseCurrency := "MMK" }]
      warehouses := .ofRows [{ id := 1, companyId := 10, branchId := 2, status := .Active }]
      customers := .ofRows
        [{ id := 30, companyId := 10, customerCode := "C-1", receivableAccountId := none,
           status := .Active }]
      productVariants := .ofRows [{ id := 7, companyId := 10, status := .Active }]
      priceLists := .ofRows [{ id := 40, companyId := 10, status := .Active }]
      priceListItems :=
        [{ companyId := 10, priceListId := 40, productVariantId := 7, uomId := none,
           price := 10000, validFrom := ⟨⟨2026, 1, 1⟩, 0⟩, validTo := none, status := .Active }]
      loyaltyPrograms :=
        [{ companyId := 10, pointsPerCurrencyUnit := 10000, minimumPurchaseForEarning := 0,
           isActive := true }] }
  stock :=
    { warehouseStock := .ofRows
        [{ warehouseId := 1, productVariantId := 7, onHandQuantity := 2, reservedQuantity := 0 }] }

def saleDto : SalesService.CreateSaleDto where
  branchId := none
  warehouseId := some 1
  saleType := none
  customerId := 30
  salesAccountId := none
  transactionDate := none
  currency := "MMK"
  notes := none
  promotionCode := none
  items := [{ productVariantId := 7, uomId := none, quantity := 2, discountAmount := some 10000,
              taxAmount := none, priceListId := none }]

def sold : Db :=
  (run (SalesService.confirm 0 10 99)
    (run (SalesService.create 10 99 now saleDto none) shop).2).2

def returnDto (quantity : ℕ) (discountAmount : Option ℕ) : SaleReturnsService.CreateSaleReturnDto where
  saleId := 0
  reason := none
  notes := none
  items := [{ saleItemId := 1, quantity := quantity, discountAmount := discountAmount,
              condition := none }]

theorem beforeReturns : BeforeReturns sold := by
  refine ⟨rfl, ?_, ?_⟩ <;> decide +kernel

end ReturnDemo

open ReturnDemo in
theorem refunds_within_charge_iff_one_piece :
    ∃ db, saleReturnMachine.Run sold
        [.create 10 99 now (returnDto 1 (some 5000)), .confirm 3 10 99 now] db ∧
      refundTotal db 0 = 5000 ∧
      ((∀ ks, ks <+: [.create 10 99 now (returnDto 1 (some 5000)), .confirm 3 10 99 now] →
        ∀ db₁, saleReturnMachine.Run sold ks db₁ → AllRefundsWithinCharge db₁) ↔
        saleReturnMachine.RunWith (fun db l => l.CoversConcession db) sold
          [.create 10 99 now (returnDto 1 (some 5000)), .confirm 3 10 99 now] db) := by
  obtain ⟨db, hrun, hdb⟩ := Machine.exists_runWith saleReturnMachine (fun _ _ => True) sold
    [.create 10 99 now (returnDto 1 (some 5000)), .confirm 3 10 99 now]
    (fun db => refundTotal db 0 = 5000) (by decide +kernel)
  exact ⟨db, hrun, of_decide_eq_true hdb, refunds_within_charge_iff beforeReturns hrun⟩

open ReturnDemo in
theorem returns_refund_their_rows_one_piece : ∃ db, saleReturnMachine.Reaches sold db ∧
    ∃ r ∈ db.selling.saleReturns.rows, r.refundAmount = 5000 ∧ ReturnOk db.selling.sales r := by
  obtain ⟨db, hrun, hdb⟩ := Machine.exists_runWith saleReturnMachine (fun _ _ => True) sold
    [.create 10 99 now (returnDto 1 (some 5000)), .confirm 3 10 99 now]
    (fun db => db.selling.saleReturns.rows.any fun r => r.refundAmount = 5000) (by decide +kernel)
  obtain ⟨r, hr, hrefund⟩ := List.any_eq_true.1 hdb
  exact ⟨db, ⟨_, hrun⟩, r, hr, of_decide_eq_true hrefund,
    returns_refund_their_rows beforeReturns ⟨_, hrun⟩ r hr⟩

open ReturnDemo in
/-- Both pieces come back without a discount named: a sale charged at 100.00 can be
refunded 200.00. -/
theorem undiscounted_return_refunds_too_much :
    ∃ db, saleReturnMachine.Run sold
        [.create 10 99 now (returnDto 2 none), .confirm 3 10 99 now] db ∧
      (∃ sale, db.selling.sales.find? 0 = some sale ∧ sale.status = .Confirmed ∧
        sale.grandTotal = 10000) ∧
      refundTotal db 0 = 20000 ∧ ¬ AllRefundsWithinCharge db := by
  obtain ⟨db, hrun, hdb⟩ := Machine.exists_runWith saleReturnMachine (fun _ _ => True) sold
    [.create 10 99 now (returnDto 2 none), .confirm 3 10 99 now]
    (fun db => refundTotal db 0 = 20000 && (db.selling.sales.find? 0).any fun sale =>
      sale.status = .Confirmed && sale.grandTotal = 10000)
    (by decide +kernel)
  simp only [Bool.and_eq_true, Option.any_eq_true, decide_eq_true_eq] at hdb
  obtain ⟨hrefunds, sale, hsale, hconfirmed, htotal⟩ := hdb
  refine ⟨db, hrun, ⟨sale, hsale, hconfirmed, htotal⟩, hrefunds, fun hall => ?_⟩
  have hid : sale.id = 0 := Table.key_of_find? hsale
  have hle := (hall sale (Table.mem_of_find? hsale) hconfirmed).refunds
  rw [hid, hrefunds, htotal] at hle
  exact absurd hle (by decide)

end FashionErp
