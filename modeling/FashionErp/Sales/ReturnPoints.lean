/-
The points that returns take back of what a sale earned.

Confirming a return takes back the floor of the points times the return's refund
amount over the sale's grand total, and never more than all of them, each return for
itself.
-/
import FashionErp.Sales.SaleReturnRun
import Mathlib.Algebra.BigOperators.Ring.List

namespace FashionErp

open Lib Lib.Tx LoyaltyService

/-! ## Points taken back -/

def pointsTakenBy (db : Db) (r : SaleReturn) : ℤ :=
  -(((findBySource db r.companyId "SALE_RETURN" r.id).map (·.pointsDelta)).getD 0)

def reversedPoints (db : Db) (saleId : Uuid) : ℤ :=
  ((db.selling.saleReturns.rows.filter fun r => r.saleId = saleId).map (pointsTakenBy db)).sum

def earnedBy (db : Db) (sale : Sale) : Option LoyaltyPointTransaction :=
  findBySource db sale.companyId "SALE" sale.id

/-- No sale gives back more points than it earned. -/
def PointsWithinEarned (db : Db) : Prop :=
  ∀ sale ∈ db.selling.sales.rows, ∀ earn, earnedBy db sale = some earn →
    reversedPoints db sale.id ≤ earn.pointsDelta

def SaleReturn.posted (r : SaleReturn) : Bool := r.status = .Confirmed || r.status = .Refunded

def confirmedTotal (db : Db) (saleId : Uuid) : Cents :=
  ((db.selling.saleReturns.rows.filter fun r => r.saleId = saleId ∧ r.posted).map
    (·.refundAmount)).sum

/-- The confirmation stays within the charge: if the sale of the return earned
points, the refund amounts of its confirmed returns and of this one add up to no more
than its grand total. -/
def FitsCharge (db : Db) (id : Uuid) : Prop :=
  ∀ draft ∈ db.selling.saleReturns.find? id, ∀ sale ∈ db.selling.sales.find? draft.saleId,
    ∀ _earn ∈ earnedBy db sale, 0 < sale.grandTotal →
      confirmedTotal db sale.id + draft.refundAmount ≤ sale.grandTotal

def ReturnRequest.FitsCharge (db : Db) : ReturnRequest → Prop
  | confirm id _ _ _ => FashionErp.FitsCharge db id
  | _ => True

instance (db : Db) (id : Uuid) : Decidable (FitsCharge db id) :=
  inferInstanceAs (Decidable (∀ draft ∈ db.selling.saleReturns.find? id,
    ∀ sale ∈ db.selling.sales.find? draft.saleId, ∀ _earn ∈ earnedBy db sale,
      0 < sale.grandTotal → confirmedTotal db sale.id + draft.refundAmount ≤ sale.grandTotal))

instance (db : Db) : ∀ request : ReturnRequest, Decidable (request.FitsCharge db)
  | .confirm id _ _ _ => inferInstanceAs (Decidable (FitsCharge db id))
  | .create .. | .cancel .. | .refund .. => inferInstanceAs (Decidable True)

/-! ## The invariant -/

/-- The points of one return: nothing is taken before it is confirmed, and then at
most its share of what the sale earned. -/
structure PointsOk (db : Db) (r : SaleReturn) : Prop where
  company : ∀ sale, db.selling.sales.find? r.saleId = some sale → sale.companyId = r.companyId
  untouched : r.posted = false → findBySource db r.companyId "SALE_RETURN" r.id = none
  share : ∀ sale, db.selling.sales.find? r.saleId = some sale → pointsTakenBy db r = 0 ∨
    0 < sale.grandTotal ∧ ∃ earn, earnedBy db sale = some earn ∧
      sale.grandTotal * pointsTakenBy db r ≤ earn.pointsDelta * r.refundAmount

structure PointsInv (db : Db) : Prop where
  returns : ReturnsInv db
  earned : ∀ t ∈ db.selling.loyaltyTransactions, t.sourceType = some "SALE" → 0 ≤ t.pointsDelta
  known : ∀ t ∈ db.selling.loyaltyTransactions, t.sourceType = some "SALE_RETURN" →
    ∃ r ∈ db.selling.saleReturns.rows, t.sourceId = some r.id
  points : ∀ r ∈ db.selling.saleReturns.rows, PointsOk db r
  within : ∀ sale ∈ db.selling.sales.rows, ∀ earn, earnedBy db sale = some earn →
    0 < sale.grandTotal → confirmedTotal db sale.id ≤ sale.grandTotal

def countsConfirmed (saleId : Uuid) (r : SaleReturn) : Cents :=
  if r.saleId = saleId ∧ r.posted then r.refundAmount else 0

theorem confirmedTotal_eq (db : Db) (saleId : Uuid) :
    confirmedTotal db saleId = db.selling.saleReturns.sum (countsConfirmed saleId) := by
  rw [confirmedTotal, Table.sum_filter]
  simp only [decide_eq_true_eq]
  rfl

variable {db db' : Db} {companyId : Uuid}

theorem findBySource_mem {sourceType : String} {sourceId : Uuid} {t : LoyaltyPointTransaction}
    (h : findBySource db companyId sourceType sourceId = some t) :
    t ∈ db.selling.loyaltyTransactions ∧ t.sourceType = some sourceType ∧
      t.sourceId = some sourceId := by
  have hrow := List.find?_some h
  exact ⟨List.mem_of_find?_eq_some h, (of_decide_eq_true hrow).2⟩

/-- The shares add up to no more than the points. -/
theorem PointsInv.pointsWithinEarned (h : PointsInv db) : PointsWithinEarned db := by
  intro sale hsale earn hearn
  have hfind : db.selling.sales.find? sale.id = some sale := (Table.mem_rows_iff _ _).1 hsale
  obtain ⟨hmem, htype, -⟩ := findBySource_mem hearn
  have hpoints : 0 ≤ earn.pointsDelta := h.earned earn hmem htype
  rw [reversedPoints, Table.sum_filter]
  simp only [decide_eq_true_eq]
  rcases lt_or_ge 0 sale.grandTotal with hpos | hnonpos
  · -- Row by row, a share times the charge is at most the points times the refund.
    have hrows : sale.grandTotal * db.selling.saleReturns.sum (fun r =>
        if r.saleId = sale.id then pointsTakenBy db r else 0) ≤
          earn.pointsDelta * confirmedTotal db sale.id := by
      rw [confirmedTotal_eq, Table.sum, Table.sum, ← List.sum_map_mul_left,
        ← List.sum_map_mul_left]
      refine List.sum_le_sum fun r hr => ?_
      have hok := h.points r hr
      by_cases hr_sale : r.saleId = sale.id
      · rw [if_pos hr_sale, countsConfirmed]
        by_cases hposted : r.posted
        · rw [if_pos ⟨hr_sale, hposted⟩]
          rcases hok.share sale (by rw [hr_sale]; exact hfind) with hzero | ⟨-, e, he, hshare⟩
          · rw [hzero, mul_zero]
            exact mul_nonneg hpoints (h.returns.returns r hr).refund_nonneg
          · rw [hearn] at he
            rw [Option.some.inj he]
            exact hshare
        · have hnone := hok.untouched (Bool.eq_false_iff.2 hposted)
          rw [pointsTakenBy, hnone, if_neg fun hc => hposted hc.2]
          simp
      · rw [if_neg hr_sale, countsConfirmed, if_neg fun hc => hr_sale hc.1]
        simp
    have hcharge := mul_le_mul_of_nonneg_left (h.within sale hsale earn hearn hpos) hpoints
    refine le_of_mul_le_mul_left (le_trans hrows (le_trans hcharge ?_)) hpos
    rw [mul_comm]
  · have hzero : db.selling.saleReturns.sum (fun r =>
        if r.saleId = sale.id then pointsTakenBy db r else 0) = 0 := by
      refine List.sum_eq_zero fun a ha => ?_
      obtain ⟨r, hr, rfl⟩ := List.mem_map.1 ha
      split
      · rename_i hr_sale
        rcases (h.points r hr).share sale (by rw [hr_sale]; exact hfind) with hzero | ⟨hpos, -⟩
        · exact hzero
        · exact absurd hpos (Int.not_lt.2 hnonpos)
      · rfl
    rw [hzero]
    exact hpoints

/-! ## Steps -/

variable {sale' : Sale}

theorem charged_companyId {sale : Sale} (h : sale'.charged = sale.charged) :
    sale'.companyId = sale.companyId := by
  have hcompany : sale'.charged.companyId = sale.charged.companyId := by rw [h]
  exact hcompany

theorem charged_id {sale : Sale} (h : sale'.charged = sale.charged) : sale'.id = sale.id := by
  have hid : sale'.charged.id = sale.charged.id := by rw [h]
  exact hid

def EarningsStay (db db' : Db) : Prop :=
  ∀ companyId saleId, findBySource db' companyId "SALE" saleId =
    findBySource db companyId "SALE" saleId

theorem EarningsStay.earnedBy (h : EarningsStay db db') {sale : Sale}
    (hcharged : sale'.charged = sale.charged) : earnedBy db' sale' = earnedBy db sale := by
  unfold FashionErp.earnedBy
  rw [charged_companyId hcharged, charged_id hcharged]
  exact h _ _

variable {r : SaleReturn}

theorem PointsOk.of_same {r' : SaleReturn} (h : PointsOk db r)
    (hstay : ChargesStay db.selling.sales db'.selling.sales) (hearnings : EarningsStay db db')
    (hid : r'.id = r.id) (hsale : r'.saleId = r.saleId) (hcompany : r'.companyId = r.companyId)
    (hrefund : r'.refundAmount = r.refundAmount) (hposted : r'.posted = r.posted)
    (hrow : findBySource db' r.companyId "SALE_RETURN" r.id = findBySource db r.companyId "SALE_RETURN" r.id) :
    PointsOk db' r' := by
  have htaken : pointsTakenBy db' r' = pointsTakenBy db r := by
    rw [pointsTakenBy, pointsTakenBy, hid, hcompany, hrow]
  refine ⟨fun sale' hsale' => ?_, fun hnot => ?_, fun sale' hsale' => ?_⟩
  · rw [hsale] at hsale'
    obtain ⟨sale, hfind, hcharged⟩ := hstay.symm.find? hsale'
    rw [hcompany, ← charged_companyId hcharged]
    exact h.company sale hfind
  · rw [hid, hcompany, hrow]
    exact h.untouched (hposted ▸ hnot)
  · rw [hsale] at hsale'
    obtain ⟨sale, hfind, hcharged⟩ := hstay.symm.find? hsale'
    rw [htaken, hrefund, ← charged_grandTotal hcharged, hearnings.earnedBy hcharged.symm]
    exact h.share sale hfind

theorem PointsInv.within_of_le (h : PointsInv db)
    (hstay : ChargesStay db.selling.sales db'.selling.sales) (hearnings : EarningsStay db db')
    (hle : ∀ saleId, confirmedTotal db' saleId ≤ confirmedTotal db saleId) :
    ∀ sale ∈ db'.selling.sales.rows, ∀ earn, earnedBy db' sale = some earn →
      0 < sale.grandTotal → confirmedTotal db' sale.id ≤ sale.grandTotal := by
  intro sale' hsale' earn hearn hpos
  obtain ⟨sale, hfind, hcharged⟩ := hstay.symm.find? ((Table.mem_rows_iff _ _).1 hsale')
  rw [hearnings.earnedBy hcharged.symm] at hearn
  rw [← charged_grandTotal hcharged] at hpos ⊢
  refine le_trans (hle sale'.id) ?_
  rw [← charged_id hcharged]
  exact h.within sale (Table.mem_of_find? hfind) earn hearn hpos

variable {id userId : Uuid}

theorem PointsInv.of_rewrite {r' : SaleReturn} (h : PointsInv db)
    (hr : db.selling.saleReturns.find? id = some r) (hnone : NoMoreRefunds db db')
    (hsave : db'.selling.saleReturns = db.selling.saleReturns.save r')
    (hledger : db'.selling.loyaltyTransactions = db.selling.loyaltyTransactions)
    (hid : r'.id = r.id) (hsale : r'.saleId = r.saleId) (hcompany : r'.companyId = r.companyId)
    (hrefund : r'.refundAmount = r.refundAmount) (hposted : r'.posted = r.posted) :
    PointsInv db' := by
  have hsource : ∀ companyId sourceType sourceId, findBySource db' companyId sourceType sourceId =
      findBySource db companyId sourceType sourceId := by
    intro companyId sourceType sourceId
    rw [findBySource, findBySource, hledger]
  have hearnings : EarningsStay db db' := fun companyId saleId => hsource companyId "SALE" saleId
  have hkey : db.selling.saleReturns.find? (key r') = some r := by
    have hrid : r.id = id := Table.key_of_find? hr
    rw [show key r' = id from hid.trans hrid]
    exact hr
  have hmem := Table.mem_of_find? hr
  refine ⟨hnone.inv, ?_, ?_, ?_, h.within_of_le hnone.stay hearnings fun saleId => ?_⟩
  · rw [hledger]
    exact h.earned
  · rw [hledger, hsave]
    intro t ht htype
    obtain ⟨x, hx, hxid⟩ := h.known t ht htype
    by_cases hxr : x.id = r'.id
    · exact ⟨r', (Table.mem_save _ _ _).2 (.inl rfl), hxr ▸ hxid⟩
    · exact ⟨x, (Table.mem_save _ _ _).2 (.inr ⟨hx, hxr⟩), hxid⟩
  · rw [hsave]
    intro x hx
    rcases (Table.mem_save _ _ _).1 hx with rfl | ⟨hx, -⟩
    · exact (h.points r hmem).of_same hnone.stay hearnings hid hsale hcompany hrefund hposted
        (hsource _ _ _)
    · exact (h.points x hx).of_same hnone.stay hearnings rfl rfl rfl rfl rfl (hsource _ _ _)
  · have hcounts : countsConfirmed saleId r' = countsConfirmed saleId r := by
      simp only [countsConfirmed, hsale, hposted, hrefund]
    rw [confirmedTotal_eq, confirmedTotal_eq, hsave, Table.sum_save_over _ _ _ _ hkey, hcounts,
      sub_self, add_zero]

theorem PointsInv.cancel {cancelled : SaleReturn} (h : PointsInv db)
    (hc : Commits (SaleReturnsService.cancel id companyId) db cancelled db') : PointsInv db' := by
  have hnone := cancel_noMoreRefunds h.returns hc
  obtain ⟨draft, hdraft, hstatus, rfl, rfl⟩ := SaleReturnsService.cancel_spec hc
  refine h.of_rewrite hdraft hnone rfl rfl rfl rfl rfl rfl ?_
  simp [SaleReturn.posted, hstatus]

theorem PointsInv.applyRefund {amount : Cents} {u : Unit} (h : PointsInv db)
    (hc : Commits (SaleReturnsService.applyRefund id companyId amount) db u db') :
    PointsInv db' := by
  have hnone := applyRefund_noMoreRefunds h.returns hc
  obtain ⟨r, hr, hstatus, -, status, hstatus', rfl⟩ := SaleReturnsService.applyRefund_spec hc
  refine h.of_rewrite hr hnone rfl rfl rfl rfl rfl rfl ?_
  simp only [SaleReturn.posted, Bool.or_eq_decide, decide_eq_decide]
  rw [iff_true_right (by simpa using hstatus)]
  simpa using hstatus'

theorem PointsInv.of_selling (h : PointsInv db) (hselling : db'.selling = db.selling) :
    PointsInv db' := by
  have hnone : NoMoreRefunds db db' :=
    .of_selling h.returns (by rw [hselling]) (by rw [hselling])
  have hsource : ∀ companyId sourceType sourceId, findBySource db' companyId sourceType sourceId =
      findBySource db companyId sourceType sourceId := by
    intro companyId sourceType sourceId
    rw [findBySource, findBySource, hselling]
  have hearnings : EarningsStay db db' := fun companyId saleId => hsource companyId "SALE" saleId
  refine ⟨hnone.inv, ?_, ?_, fun r hr => ?_, h.within_of_le hnone.stay hearnings fun saleId => ?_⟩
  · rw [hselling]
    exact h.earned
  · rw [hselling]
    exact h.known
  · rw [hselling] at hr
    exact (h.points r hr).of_same hnone.stay hearnings rfl rfl rfl rfl rfl (hsource _ _ _)
  · rw [confirmedTotal_eq, confirmedTotal_eq, hselling]

theorem PointsInv.refund {now : Instant} {dto : PaymentsService.CreatePaymentDto}
    {idempotencyKey : Option String} {result : Payment × Bool} (h : PointsInv db)
    (hc : Commits (PaymentsService.create companyId userId now { dto with direction := .Refund } idempotencyKey) db result db') :
    PointsInv db' :=
  PaymentsService.create_refund h (fun _ _ hs hselling _ => hs.of_selling hselling)
    (fun _ _ _ _ _ hs hstep => hs.applyRefund hstep) hc

/-- A new return takes nothing back yet. -/
theorem PointsInv.create {now : Instant}
    {dto : SaleReturnsService.CreateSaleReturnDto} (h : PointsInv db)
    (hc : Commits (SaleReturnsService.create companyId userId now dto) db r db') :
    PointsInv db' := by
  obtain ⟨hinv, -⟩ := create_refunds h.returns hc
  obtain ⟨sale, hsale, hid, -, hcompany, hnew, hdb', hdraft, hsaleId, hrcompany, -⟩ :=
    SaleReturnsService.create_spec hc
  have hselling : db'.selling =
      { db.selling with saleReturns := db.selling.saleReturns.save r } := by rw [hdb']
  have hstay : ChargesStay db.selling.sales db'.selling.sales := by
    rw [hselling]
    exact .refl _
  have hsource : ∀ companyId sourceType sourceId, findBySource db' companyId sourceType sourceId =
      findBySource db companyId sourceType sourceId := by
    intro companyId sourceType sourceId
    rw [findBySource, findBySource, hselling]
  have hearnings : EarningsStay db db' := fun companyId saleId => hsource companyId "SALE" saleId
  have hposted : r.posted = false := by simp [SaleReturn.posted, hdraft]
  have hsilent : findBySource db' r.companyId "SALE_RETURN" r.id = none := by
    rw [hsource]
    cases hrow : findBySource db r.companyId "SALE_RETURN" r.id with
    | none => rfl
    | some t =>
      -- A row of this id would be a return's, and the id is new.
      obtain ⟨hmem, htype, hsourceId⟩ := findBySource_mem hrow
      obtain ⟨x, hx, hxid⟩ := h.known t hmem htype
      have hxr : x.id = r.id := Option.some.inj (hxid.symm.trans hsourceId)
      have hfind : db.selling.saleReturns.find? x.id = some x := (Table.mem_rows_iff _ _).1 hx
      rw [hxr, hnew] at hfind
      cases hfind
  refine ⟨hinv, ?_, ?_, ?_, h.within_of_le hstay hearnings fun saleId => ?_⟩
  · rw [hselling]
    exact h.earned
  · rw [hselling]
    intro t ht htype
    obtain ⟨x, hx, hxid⟩ := h.known t ht htype
    refine ⟨x, (Table.mem_save _ _ _).2 (.inr ⟨hx, fun hkey => ?_⟩), hxid⟩
    have hfind := (Table.mem_rows_iff _ _).1 hx
    rw [hkey] at hfind
    cases hfind.symm.trans hnew
  · rw [hselling]
    intro x hx
    rcases (Table.mem_save _ _ _).1 hx with rfl | ⟨hx, -⟩
    · refine ⟨fun sale' hsale' => ?_, fun _ => hsilent, fun _ _ => .inl ?_⟩
      · rw [hselling, hsaleId, hid, hsale] at hsale'
        rw [← Option.some.inj hsale', hcompany, hrcompany]
      · rw [pointsTakenBy, hsilent]
        rfl
    · exact (h.points x hx).of_same hstay hearnings rfl rfl rfl rfl rfl (hsource _ _ _)
  · have hcounts : countsConfirmed saleId r = 0 := by
      rw [countsConfirmed, if_neg]
      rintro ⟨-, hconfirmed⟩
      rw [hposted] at hconfirmed
      cases hconfirmed
    rw [confirmedTotal_eq, confirmedTotal_eq, hselling, Table.sum_save_new _ _ _ hnew, hcounts,
      add_zero]

/-! ## Confirming -/

/-- A share times the charge is at most the points times the refund. -/
theorem reversalPoints_share {points : ℤ} {refundAmount grandTotal : Cents} (hpoints : 0 ≤ points)
    (hcharge : 0 < grandTotal) :
    grandTotal * SaleReturnsService.reversalPoints points refundAmount grandTotal ≤
      points * refundAmount := by
  unfold SaleReturnsService.reversalPoints
  split
  · rename_i hall
    rw [mul_comm]
    exact mul_le_mul_of_nonneg_left hall hpoints
  · exact Int.mul_ediv_self_le hcharge.ne'

def AddsReversal (db db' : Db) (saleReturnId : Uuid) : Prop :=
  db'.selling.loyaltyTransactions = db.selling.loyaltyTransactions ∨
    ∃ t, db'.selling.loyaltyTransactions = db.selling.loyaltyTransactions ++ [t] ∧
      t.sourceType = some "SALE_RETURN" ∧ t.sourceId = some saleReturnId

theorem AddsReversal.findBySource {saleReturnId : Uuid} (h : AddsReversal db db' saleReturnId)
    {sourceType : String} {sourceId : Uuid}
    (hne : sourceType ≠ "SALE_RETURN" ∨ sourceId ≠ saleReturnId) :
    findBySource db' companyId sourceType sourceId =
      findBySource db companyId sourceType sourceId := by
  rcases h with hsame | ⟨t, hrow, htype, hsourceId⟩
  · unfold LoyaltyService.findBySource
    rw [hsame]
  · refine findBySource_append hrow ?_
    rintro ⟨-, htype', hsourceId'⟩
    rw [htype] at htype'
    rw [hsourceId] at hsourceId'
    rcases hne with hne | hne
    · exact hne (Option.some.inj htype').symm
    · exact hne (Option.some.inj hsourceId').symm

theorem PointsInv.confirm {now : Instant} {confirmed : SaleReturn}
    (h : PointsInv db) (hfits : FitsCharge db id)
    (hc : Commits (SaleReturnsService.confirm id companyId userId now) db confirmed db') :
    PointsInv db' := by
  have hnone := confirm_noMoreRefunds h.returns hc
  obtain ⟨draft, sale, warehouseId, db₁, db₂, hdraft, hcompany, hstatus, hsale, -, hselling, -,
    hloyal, rfl⟩ := SaleReturnsService.confirm_spec hc
  have hsaleId : sale.id = draft.saleId := Table.key_of_find? hsale
  have hok := h.points draft (Table.mem_of_find? hdraft)
  have hposted : draft.posted = false := by simp [SaleReturn.posted, hstatus]
  have hsilent := hok.untouched hposted
  have hledger₁ : db₁.selling.loyaltyTransactions = db.selling.loyaltyTransactions := by
    rw [hselling]
  have hreversed := SaleReturnsService.reverseLoyalty_spec hloyal
  set confirmed' : SaleReturn :=
    { draft with status := .Confirmed, confirmedBy := some userId, confirmedAt := some now }
  set db' : Db := { db₂ with
    selling := { db₂.selling with saleReturns := db.selling.saleReturns.save confirmed' } }
  have hadds : AddsReversal db db' draft.id := by
    rcases hreversed with rfl | ⟨-, -, -, t, hrow, -, htype, hsourceId, -⟩
    · exact .inl hledger₁
    · exact .inr ⟨t, by rw [← hledger₁]; exact hrow, htype, hsourceId⟩
  have hearnings : EarningsStay db db' := fun _ _ => hadds.findBySource (.inl (by decide))
  have hkey : db.selling.saleReturns.find? (key confirmed') = some draft := by
    have hid : draft.id = id := Table.key_of_find? hdraft
    rw [← hdraft, ← hid]
    rfl
  refine ⟨hnone.inv, ?_, ?_, ?_, ?_⟩
  · intro t ht htype
    rcases hadds with hsame | ⟨reversal, hrow, hreversal, -⟩
    · rw [hsame] at ht
      exact h.earned t ht htype
    · rw [hrow] at ht
      rcases List.mem_append.1 ht with ht | ht
      · exact h.earned t ht htype
      · rw [List.mem_singleton.1 ht, hreversal] at htype
        exact absurd htype (by decide)
  · intro t ht htype
    have hknown : ∃ r ∈ db.selling.saleReturns.rows, t.sourceId = some r.id := by
      rcases hadds with hsame | ⟨reversal, hrow, -, hsourceId⟩
      · rw [hsame] at ht
        exact h.known t ht htype
      · rw [hrow] at ht
        rcases List.mem_append.1 ht with ht | ht
        · exact h.known t ht htype
        · rw [List.mem_singleton.1 ht]
          exact ⟨draft, Table.mem_of_find? hdraft, hsourceId⟩
    obtain ⟨x, hx, hxid⟩ := hknown
    by_cases hxr : x.id = draft.id
    · exact ⟨confirmed', (Table.mem_save _ _ _).2 (.inl rfl), hxid.trans (congrArg some hxr)⟩
    · exact ⟨x, (Table.mem_save _ _ _).2 (.inr ⟨hx, hxr⟩), hxid⟩
  · intro x hx
    rcases (Table.mem_save _ _ _).1 hx with rfl | ⟨hx, hne⟩
    · refine ⟨fun sale' hsale' => ?_, nofun, fun sale' hsale' => ?_⟩
      · obtain ⟨sale₀, hfind, hcharged⟩ := hnone.stay.symm.find? hsale'
        rw [← charged_companyId hcharged]
        exact hok.company sale₀ hfind
      · obtain ⟨sale₀, hfind, hcharged⟩ := hnone.stay.symm.find? hsale'
        obtain rfl : sale = sale₀ := Option.some.inj (hsale.symm.trans hfind)
        rw [← charged_grandTotal hcharged, hearnings.earnedBy hcharged.symm]
        rcases hreversed with rfl | ⟨hpos, earn, hearn, t, hrow, htcompany, htype, hsourceId, hdelta⟩
        · refine .inl ?_
          have hstill : findBySource db' draft.companyId "SALE_RETURN" draft.id = none := by
            rw [← hsilent, LoyaltyService.findBySource, LoyaltyService.findBySource]
            exact congrArg _ hledger₁
          rw [pointsTakenBy]
          show -((findBySource db' draft.companyId "SALE_RETURN" draft.id).map _).getD 0 = 0
          rw [hstill]
          rfl
        · have hrow' : db'.selling.loyaltyTransactions = db.selling.loyaltyTransactions ++ [t] := by
            rw [← hledger₁]
            exact hrow
          have hfound : findBySource db' draft.companyId "SALE_RETURN" draft.id = some t :=
            findBySource_append_self hrow' hsilent ⟨htcompany.trans hcompany.symm, htype, hsourceId⟩
          have hearn' : earnedBy db sale = some earn := by
            rw [earnedBy, hok.company sale hsale, hcompany, ← hearn, LoyaltyService.findBySource,
              LoyaltyService.findBySource, hledger₁]
          obtain ⟨hmem, hearnType, -⟩ := findBySource_mem hearn'
          have hpoints := h.earned earn hmem hearnType
          refine .inr ⟨hpos, earn, hearn', ?_⟩
          rw [pointsTakenBy]
          show _ * -((findBySource db' draft.companyId "SALE_RETURN" draft.id).map _).getD 0 ≤ _
          rw [hfound, Option.map_some, Option.getD_some, hdelta, neg_neg]
          exact reversalPoints_share hpoints hpos
    · exact (h.points x hx).of_same hnone.stay hearnings rfl rfl rfl rfl rfl
        (hadds.findBySource (.inr hne))
  · -- The confirmed refunds of the sale have grown by this return's.
    intro sale' hsale' earn hearn hpos
    obtain ⟨sale₀, hfind, hcharged⟩ := hnone.stay.symm.find? ((Table.mem_rows_iff _ _).1 hsale')
    rw [hearnings.earnedBy hcharged.symm] at hearn
    rw [← charged_grandTotal hcharged] at hpos ⊢
    rw [← charged_id hcharged, confirmedTotal_eq]
    show (db.selling.saleReturns.save confirmed').sum _ ≤ _
    rw [Table.sum_save_over _ _ _ _ hkey, ← confirmedTotal_eq]
    have hbefore : countsConfirmed sale₀.id draft = 0 := by
      rw [countsConfirmed, if_neg]
      rintro ⟨-, hconfirmed⟩
      rw [hposted] at hconfirmed
      cases hconfirmed
    rw [hbefore, sub_zero]
    by_cases hsame : draft.saleId = sale₀.id
    · have hafter : countsConfirmed sale₀.id confirmed' = draft.refundAmount :=
        if_pos ⟨hsame, rfl⟩
      have hsale₀ : db.selling.sales.find? draft.saleId = some sale₀ := by
        rw [hsame]
        exact (Table.mem_rows_iff _ _).1 (Table.mem_of_find? hfind)
      rw [hafter]
      exact hfits draft hdraft sale₀ hsale₀ earn hearn hpos
    · have hafter : countsConfirmed sale₀.id confirmed' = 0 := if_neg fun hc => hsame hc.1
      rw [hafter, add_zero]
      exact h.within sale₀ (Table.mem_of_find? hfind) earn hearn hpos

/-! ## Runs -/

/-- No return has been made and no points taken back; what sales earned is not negative
(`LoyaltyService.earnForSale_spec`). -/
structure BeforeReversals (db : Db) : Prop extends BeforeReturns db where
  earned : ∀ t ∈ db.selling.loyaltyTransactions, t.sourceType = some "SALE" → 0 ≤ t.pointsDelta
  unreversed : ∀ t ∈ db.selling.loyaltyTransactions, t.sourceType ≠ some "SALE_RETURN"

theorem BeforeReversals.pointsInv (h : BeforeReversals db) : PointsInv db := by
  refine ⟨h.toBeforeReturns.inv, h.earned, fun t ht htype => absurd htype (h.unreversed t ht),
    fun r hr => ?_, fun sale hsale _ _ _ => ?_⟩
  · rw [h.returns] at hr
    cases hr
  · rw [confirmedTotal_eq, h.returns, Table.sum_empty]
    exact h.charged sale hsale

theorem saleReturnMachine_pointsInv {request : ReturnRequest} (h : PointsInv db)
    (hfits : request.FitsCharge db) (hs : saleReturnMachine.step db request = some db') :
    PointsInv db' := by
  obtain ⟨u, hc⟩ := toOption_result_eq_some.1 hs
  cases request with
  | create companyId userId now dto =>
    obtain ⟨r, hc⟩ := (commits_void _ _ _ _).1 hc
    exact h.create hc
  | confirm id companyId userId now =>
    obtain ⟨r, hc⟩ := (commits_void _ _ _ _).1 hc
    exact h.confirm hfits hc
  | cancel id companyId =>
    obtain ⟨r, hc⟩ := (commits_void _ _ _ _).1 hc
    exact h.cancel hc
  | refund companyId userId now dto idempotencyKey =>
    obtain ⟨payment, hc⟩ := (commits_void _ _ _ _).1 hc
    exact h.refund hc

end FashionErp
