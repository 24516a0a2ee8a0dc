/-
The totals of a sale and of a purchase order, to the cent.

An order is charged in whole cents: every line is, and so are the three sums.
-/
import FashionErp.Purchase.OrderCreation

namespace FashionErp

open Lib Lib.Tx

/-! ## What should hold -/

/-- The stored amounts of a document agree: its columns with each other, and its lines with
its total. -/
structure TotalsAgree (subtotal discountAmount taxAmount grandTotal balanceAmount : Cents)
    (lineTotals : List Cents) (promotionDiscount : Cents) : Prop where
  columns : grandTotal = subtotal - discountAmount + taxAmount
  balance : balanceAmount = grandTotal
  nonneg : 0 ≤ balanceAmount
  lines : lineTotals.sum - promotionDiscount = grandTotal

/-- A sale, of which a promotion took off `promotionDiscount`. -/
def Sale.TotalsAgree (sale : Sale) (promotionDiscount : Cents) : Prop :=
  FashionErp.TotalsAgree sale.subtotal sale.discountAmount sale.taxAmount sale.grandTotal
    sale.balanceAmount (sale.items.map (·.lineTotal)) promotionDiscount

def PurchaseOrder.TotalsAgree (order : PurchaseOrder) : Prop :=
  FashionErp.TotalsAgree order.subtotal order.discountAmount order.taxAmount order.grandTotal
    order.balanceAmount (order.items.map (·.lineTotal)) 0

def Sale.lineDiscounts (sale : Sale) : Cents := (sale.items.map (·.discountSnapshot)).sum

namespace PromotionsService

def EndsInHalfCent (promotion : Promotion) (orderSubtotal : Cents) : Prop :=
  match promotion.discountType with
  | .Percentage =>
    orderSubtotal * promotion.discountValue % 1000000 = 500000 ∧
      orderSubtotal * promotion.discountValue < orderSubtotal * 1000000 ∧
      ∀ maximum ∈ promotion.maximumDiscountAmount,
        orderSubtotal * promotion.discountValue < maximum * 1000000
  | .FixedAmount =>
    promotion.discountValue % 100 = 50 ∧
      promotion.discountValue * 10000 < orderSubtotal * 1000000

instance (promotion : Promotion) (orderSubtotal : Cents) :
    Decidable (EndsInHalfCent promotion orderSubtotal) := by
  unfold EndsInHalfCent
  split
  · have : Decidable (∀ maximum ∈ promotion.maximumDiscountAmount,
        orderSubtotal * promotion.discountValue < maximum * 1000000) := by
      cases promotion.maximumDiscountAmount with
      | none => exact isTrue nofun
      | some maximum =>
        exact decidable_of_iff (orderSubtotal * promotion.discountValue < maximum * 1000000)
          (by simp)
    infer_instance
  · infer_instance

theorem min_half_iff (a c : ℤ) :
    min a (c * 1000000) % 1000000 = 500000 ↔ a % 1000000 = 500000 ∧ a < c * 1000000 := by
  rcases le_total a (c * 1000000) with h | h
  · rw [min_eq_left h]
    omega
  · rw [min_eq_right h]
    omega

theorem half_iff_endsInHalfCent (promotion : Promotion) (orderSubtotal : Cents) :
    computeDiscountAmount promotion orderSubtotal % 1000000 = 500000 ↔
      EndsInHalfCent promotion orderSubtotal := by
  unfold computeDiscountAmount EndsInHalfCent
  dsimp only
  rw [min_half_iff]
  cases promotion.discountType with
  | Percentage =>
    dsimp only
    cases promotion.maximumDiscountAmount with
    | none => simp
    | some maximum =>
      have hmaximum : (∀ m ∈ some maximum, orderSubtotal * promotion.discountValue < m * 1000000) ↔
          orderSubtotal * promotion.discountValue < maximum * 1000000 := by simp
      dsimp only
      rw [min_half_iff, hmaximum, min_lt_iff, and_assoc]
      constructor
      · rintro ⟨hhalf, hmax, hlt⟩
        refine ⟨hhalf, ?_, hmax⟩
        rcases hlt with hlt | hlt
        · exact hlt
        · exact lt_trans hmax hlt
      · rintro ⟨hhalf, hlt, hmax⟩
        exact ⟨hhalf, hmax, .inl hlt⟩
  | FixedAmount =>
    dsimp only
    constructor
    · rintro ⟨hhalf, hlt⟩
      exact ⟨by omega, hlt⟩
    · rintro ⟨hhalf, hlt⟩
      exact ⟨by omega, hlt⟩

end PromotionsService

instance (subtotal discountAmount taxAmount grandTotal balanceAmount : Cents)
    (lineTotals : List Cents) (promotionDiscount : Cents) :
    Decidable (TotalsAgree subtotal discountAmount taxAmount grandTotal balanceAmount lineTotals
      promotionDiscount) :=
  decidable_of_iff (grandTotal = subtotal - discountAmount + taxAmount ∧ balanceAmount = grandTotal ∧
      0 ≤ balanceAmount ∧ lineTotals.sum - promotionDiscount = grandTotal)
    ⟨fun ⟨hcolumns, hbalance, hnonneg, hlines⟩ => ⟨hcolumns, hbalance, hnonneg, hlines⟩,
      fun h => ⟨h.columns, h.balance, h.nonneg, h.lines⟩⟩

instance (sale : Sale) (promotionDiscount : Cents) : Decidable (sale.TotalsAgree promotionDiscount) :=
  inferInstanceAs (Decidable (FashionErp.TotalsAgree ..))

/-! ## Two roundings -/

/-- What is left of whole cents, rounded, is what the rounded discount leaves, except at
half a cent, which both round up. -/
theorem roundToCents_sub {whole millionths : ℤ} (h : 0 ≤ whole * 1000000 - millionths) :
    roundToCents (whole * 1000000 - millionths) = whole - roundToCents millionths ↔
      ¬ (millionths % 1000000 = 500000 ∧ 0 < millionths) := by
  unfold roundToCents
  split <;> split <;> omega

namespace SalesService

/-! ## What a sale is charged -/

def promotionOf (db : Db) (companyId : Uuid) (dto : CreateSaleDto) : Option Promotion :=
  dto.code.bind (PromotionsService.findByCode db companyId)

def promotionDiscount (promotion : Option Promotion) (orderSubtotal : Cents) : ℤ :=
  promotion.elim 0 fun p => PromotionsService.computeDiscountAmount p orderSubtotal

variable {companyId : Uuid} {dto : CreateSaleDto} {creation : Option Creation} {db : Db}
  {transactionDate : Instant}

variable {db' : Db}

theorem chargeSale_promotion {charge : Charge}
    (h : Commits (chargeSale companyId dto transactionDate) db charge db') :
    charge.promotionDiscount =
      promotionDiscount (promotionOf db companyId dto) (charge.subtotal - charge.lineDiscounts) := by
  obtain ⟨rfl, -⟩ := chargeSale_spec h
  have hlines : ∀ {lines : List PricedLine} {db₁ : Db} {list : Option Uuid},
      Commits (dto.items.foldlM (priceLine companyId list transactionDate) []) db lines db₁ →
        db = db₁ := by
    intro lines db₁ list hloop
    refine foldlM_invariant (fun _ _ s => db = s) (fun _ _ _ _ _ _ _ _ hI hstep => ?_) rfl hloop
    exact hI.trans (priceLine_spec hstep).1
  simp only [chargeSale, commits_bind, commits_resolveDefaultPriceListId] at h
  obtain ⟨_, _, ⟨-, rfl⟩, lines, db₁, hloop, h⟩ := h
  obtain rfl := hlines hloop
  unfold promotionOf
  split at h
  · rename_i hcode
    obtain ⟨rfl, -⟩ := (commits_pure _ _ _ _).1 h
    rw [hcode]
    rfl
  · rename_i code hcode
    simp only [commits_bind, commits_pure] at h
    obtain ⟨p, _, hp, rfl, -⟩ := h
    obtain ⟨-, hfind, -⟩ := PromotionsService.resolveAndLockForUse_spec hp
    rw [hcode, Option.bind_some, hfind]
    rfl

theorem lineTotals_sum (lines : List PricedLine) :
    (lines.map (·.lineTotal)).sum =
      (lines.map (·.lineSubtotal)).sum - (lines.map (·.discount)).sum + (lines.map (·.tax)).sum := by
  induction lines with
  | nil => rfl
  | cons line lines ih =>
    rw [List.map_cons, List.map_cons, List.map_cons, List.map_cons, List.sum_cons, List.sum_cons,
      List.sum_cons, List.sum_cons, ih, PricedLine.lineTotal]
    abel

theorem map_items {lines : List PricedLine} {items : List SaleItem} (f : SaleItem → Cents)
    (g : PricedLine → Cents) (hfg : ∀ line id, f (line.toSaleItem id) = g line)
    (h : List.Forall₂ (fun line item => ∃ id, item = line.toSaleItem id) lines items) :
    items.map f = lines.map g := by
  induction h with
  | nil => rfl
  | cons hitem _ ih =>
    obtain ⟨id, rfl⟩ := hitem
    rw [List.map_cons, List.map_cons, hfg, ih]

theorem findByCreationKey_spec {replay : Option Sale}
    (h : Commits (findByCreationKey companyId creation) db replay db') :
    db = db' ∧ ∀ sale ∈ replay, db.selling.sales.find? sale.id = some sale := by
  simp only [findByCreationKey, commits_bind, commits_get] at h
  obtain ⟨_, _, ⟨rfl, rfl⟩, h⟩ := h
  cases creation with
  | none =>
    obtain ⟨rfl, rfl⟩ := (commits_pure _ _ _ _).1 h
    exact ⟨rfl, fun _ hsale => by cases hsale⟩
  | some creation =>
    dsimp only at h
    split at h
    · obtain ⟨rfl, rfl⟩ := (commits_pure _ _ _ _).1 h
      exact ⟨rfl, fun _ hsale => by cases hsale⟩
    · rename_i found hfound
      simp only [assertCreationHash, commits_bind, commits_rejectIf, commits_pure] at h
      obtain ⟨_, _, ⟨-, rfl⟩, rfl, rfl⟩ := h
      refine ⟨rfl, fun sale hsale => ?_⟩
      cases hsale
      exact (Table.mem_rows_iff _ _).1 (List.mem_of_find?_eq_some hfound)

theorem assertCreatable_reads {u : Unit}
    (h : Commits (assertCreatable companyId dto) db u db') : db = db' := by
  have hrest : ∀ {db₁ : Db} {u : Unit}, Commits (do
      assertValidCustomer dto.customerId companyId
      dto.items.forM (assertVariantActive companyId)) db₁ u db' → db₁ = db' := by
    intro db₁ u h
    simp only [commits_bind, assertValidCustomer, commits_findCustomer, commits_rejectIf] at h
    obtain ⟨_, _, ⟨_, _, ⟨-, rfl⟩, -, rfl⟩, hitems⟩ := h
    refine forM_invariant (fun _ s => db₁ = s) (fun _ _ _ _ _ _ hI hstep => ?_) rfl hitems
    simp only [assertVariantActive, commits_bind, commits_findVariantInCompany, commits_rejectIf]
      at hstep
    obtain ⟨_, _, ⟨-, rfl⟩, -, rfl⟩ := hstep
    exact hI
  unfold assertCreatable at h
  obtain ⟨_, db₁, hcompany, h⟩ := (commits_bind _ _ _ _ _).1 h
  obtain rfl := assertCompanyAndBranch_reads hcompany
  split at h
  · exact hrest h
  · obtain ⟨_, db₂, hwarehouse, h⟩ := (commits_bind _ _ _ _ _).1 h
    simp only [assertValidWarehouse, commits_bind, commits_findById, commits_assertWarehouseUsable,
      commits_rejectIf] at hwarehouse
    obtain ⟨_, _, ⟨-, rfl⟩, _, _, ⟨-, rfl⟩, -, rfl⟩ := hwarehouse
    exact hrest h

variable {userId : Uuid}

theorem createTransaction_numbered {sale : Sale}
    (h : Commits (createTransaction companyId userId dto transactionDate creation) db sale db') :
    ∃ saleNumber db₁, SequencesOnly db db₁ ∧ Commits (do
      let replay ← findByCreationKey companyId creation
      match replay with
      | some replay => return replay
      | none =>
        let charge ← chargeSale companyId dto transactionDate
        insertSale companyId userId dto transactionDate creation saleNumber charge) db₁ sale db' := by
  unfold createTransaction at h
  split at h
  · obtain ⟨saleNumber, db₁, hnumber, h⟩ := (commits_bind _ _ _ _ _).1 h
    exact ⟨saleNumber, db₁, nextDocumentNumber_spec hnumber, h⟩
  · obtain ⟨_, db₁, haccount, h⟩ := (commits_bind _ _ _ _ _).1 h
    simp only [assertValidSalesAccount, commits_bind, commits_get, commits_orReject,
      commits_rejectIf] at haccount
    obtain ⟨_, _, ⟨rfl, rfl⟩, _, _, ⟨-, rfl⟩, _, _, ⟨-, rfl⟩, -, rfl⟩ := haccount
    obtain ⟨saleNumber, db₂, hnumber, h⟩ := (commits_bind _ _ _ _ _).1 h
    exact ⟨saleNumber, db₂, nextDocumentNumber_spec hnumber, h⟩

/-- A new sale as it is charged: a charge of the tables before it, and the row made of it. -/
theorem create_charged {now : Instant} {sale : Sale}
    (h : Commits (create companyId userId now dto creation) db sale db')
    (hnew : db.selling.sales.find? sale.id = none) :
    ∃ charge saleNumber id items,
      Charged db companyId dto charge ∧
      charge.promotionDiscount = promotionDiscount (promotionOf db companyId dto)
        (charge.subtotal - charge.lineDiscounts) ∧
      List.Forall₂ (fun line item => ∃ id, item = line.toSaleItem id) charge.lines items ∧
      sale = newSale companyId userId dto (dto.transactionDate.getD now) creation saleNumber charge
        id items := by
  unfold create at h
  obtain ⟨replay, db₁, hfind, h⟩ := (commits_bind _ _ _ _ _).1 h
  obtain ⟨rfl, hreplay⟩ := findByCreationKey_spec hfind
  cases replay with
  | some found =>
    obtain ⟨rfl, -⟩ := (commits_pure _ _ _ _).1 h
    rw [hreplay _ rfl] at hnew
    cases hnew
  | none =>
    obtain ⟨_, db₂, hchecks, h⟩ := (commits_bind _ _ _ _ _).1 h
    obtain rfl := assertCreatable_reads hchecks
    rcases (commits_tryCatch _ _ _ _ _).1 h with h | ⟨error, -, h⟩
    · obtain ⟨saleNumber, db₁, hsequences, h⟩ := createTransaction_numbered h
      rw [SequencesOnly] at hsequences
      have hselling : db₁.selling = db.selling := by rw [hsequences]
      obtain ⟨replay, db₂, hfind', h⟩ := (commits_bind _ _ _ _ _).1 h
      obtain ⟨rfl, hreplay'⟩ := findByCreationKey_spec hfind'
      cases replay with
      | some found =>
        obtain ⟨rfl, -⟩ := (commits_pure _ _ _ _).1 h
        rw [← hselling, hreplay' _ rfl] at hnew
        cases hnew
      | none =>
        obtain ⟨charge, db₂, hcharge, hinsert⟩ := (commits_bind _ _ _ _ _).1 h
        have hpromotion := chargeSale_promotion hcharge
        obtain ⟨rfl, hcharged⟩ := chargeSale_spec hcharge
        obtain ⟨id, items, hsale, hitems, -⟩ := insertSale_spec hinsert
        rw [hsequences] at hcharged hpromotion
        exact ⟨charge, saleNumber, id, items,
          ⟨hcharged.lines, hcharged.discount, hcharged.promotion⟩, hpromotion, hitems, hsale⟩
    · -- What the handler finds after a duplicate entry is a sale of the table too.
      exfalso
      unfold recoverCreation at h
      split at h
      · obtain ⟨replay, db₁, hfind', h⟩ := (commits_bind _ _ _ _ _).1 h
        obtain ⟨rfl, hreplay'⟩ := findByCreationKey_spec hfind'
        obtain ⟨hfound, -⟩ := (commits_orReject _ _ _ _ _).1 h
        rw [hreplay' _ hfound] at hnew
        cases hnew
      · exact commits_throw _ _ _ _ h

theorem half_iff_promotion (promotion : Option Promotion) (orderSubtotal : Cents) :
    promotionDiscount promotion orderSubtotal % 1000000 = 500000 ↔
      ∃ p ∈ promotion, PromotionsService.EndsInHalfCent p orderSubtotal := by
  cases promotion with
  | none => simp [promotionDiscount]
  | some p => simp [promotionDiscount, PromotionsService.half_iff_endsInHalfCent]

def RoundsTwice (promotion : Option Promotion) (sale : Sale) : Prop :=
  (∃ p ∈ promotion, PromotionsService.EndsInHalfCent p (sale.subtotal - sale.lineDiscounts)) ∧
    0 < sale.lineDiscounts * 1000000 +
      promotionDiscount promotion (sale.subtotal - sale.lineDiscounts)

/-- The totals of a charge agree unless its discount is rounded twice. -/
theorem newSale_totals {saleNumber : String}
    {charge : Charge} {id : Uuid} {items : List SaleItem} {promotion : Option Promotion}
    (hcharged : Charged db companyId dto charge)
    (hitems : List.Forall₂ (fun line item => ∃ id, item = line.toSaleItem id) charge.lines items)
    (hpromotion : charge.promotionDiscount = promotionDiscount promotion (charge.subtotal - charge.lineDiscounts)) :
    let sale := newSale companyId userId dto transactionDate creation saleNumber charge id items
    sale.TotalsAgree (roundToCents
        (promotionDiscount promotion (sale.subtotal - sale.lineDiscounts))) ↔
      ¬ RoundsTwice promotion sale := by
  intro sale
  have hdiscounts : sale.lineDiscounts = charge.lineDiscounts :=
    congrArg List.sum (map_items (·.discountSnapshot) (·.discount) (fun _ _ => rfl) hitems)
  have htotals : (sale.items.map (·.lineTotal)).sum =
      charge.subtotal - charge.lineDiscounts + charge.taxTotal := by
    rw [show sale.items.map (·.lineTotal) = charge.lines.map (·.lineTotal) from
      map_items _ _ (fun _ _ => rfl) hitems]
    exact lineTotals_sum charge.lines
  have hnonneg := hcharged.grandTotal_nonneg
  have hline : 0 ≤ charge.lineDiscounts := by
    refine List.sum_nonneg fun discount hmem => ?_
    obtain ⟨line, hline, rfl⟩ := List.mem_map.1 hmem
    exact (hcharged.lines line hline).discount_nonneg
  have htaxes : 0 ≤ charge.taxTotal := by
    refine List.sum_nonneg fun tax hmem => ?_
    obtain ⟨line, hline, rfl⟩ := List.mem_map.1 hmem
    exact (hcharged.lines line hline).tax_nonneg
  have hle := hcharged.discount
  unfold RoundsTwice
  rw [show sale.subtotal = charge.subtotal from rfl, hdiscounts, ← half_iff_promotion, ← hpromotion]
  -- The columns round the discount in all, the lines that of the promotion alone.
  have hcolumns : roundToCents charge.grandTotal =
      charge.subtotal - roundToCents charge.discountTotal + charge.taxTotal ↔
        ¬ (charge.promotionDiscount % 1000000 = 500000 ∧
          0 < charge.lineDiscounts * 1000000 + charge.promotionDiscount) := by
    have hsum : charge.grandTotal =
        (charge.subtotal + charge.taxTotal) * 1000000 - charge.discountTotal := by
      unfold Charge.grandTotal
      unfold Cents at *
      omega
    have hround : roundToCents ((charge.subtotal + charge.taxTotal) * 1000000 -
        charge.discountTotal) = charge.subtotal + charge.taxTotal - roundToCents charge.discountTotal ↔
          ¬ (charge.discountTotal % 1000000 = 500000 ∧ 0 < charge.discountTotal) := by
      refine roundToCents_sub ?_
      unfold Charge.discountTotal
      unfold Cents at *
      omega
    rw [hsum]
    unfold Charge.discountTotal at hround ⊢
    unfold Cents at *
    omega
  have hlines : charge.subtotal - charge.lineDiscounts + charge.taxTotal -
      roundToCents charge.promotionDiscount = roundToCents charge.grandTotal ↔
        ¬ (charge.promotionDiscount % 1000000 = 500000 ∧ 0 < charge.promotionDiscount) := by
    have hsum : charge.grandTotal =
        (charge.subtotal - charge.lineDiscounts + charge.taxTotal) * 1000000 -
          charge.promotionDiscount := by
      unfold Charge.grandTotal Charge.discountTotal
      unfold Cents at *
      omega
    rw [hsum, eq_comm]
    refine roundToCents_sub ?_
    unfold Cents at *
    omega
  constructor
  · intro h
    exact hcolumns.1 h.columns
  · intro h
    refine ⟨hcolumns.2 h, rfl, hnonneg, ?_⟩
    rw [htotals]
    refine hlines.2 fun ⟨hhalf, hpos⟩ => h ⟨hhalf, ?_⟩
    unfold Cents at *
    omega

end SalesService

/-! ## Purchase orders -/

namespace PurchaseOrdersService

variable {companyId : Uuid}

theorem priceItem_lineTotal {rows rows' : List ItemRow}
    {itemDto : CreatePurchaseOrderItemDto} {db db' : Db}
    (h : Commits (priceItem companyId rows itemDto) db rows' db') :
    ∃ row : ItemRow, rows' = rows ++ [row] ∧ ∀ id, (row id).lineTotal = (row id).charge := by
  simp only [priceItem, SalesService.computeBaseQuantity, commits_bind, commits_get,
    commits_orReject, commits_rejectIf, commits_pure] at h
  obtain ⟨_, _, ⟨rfl, rfl⟩, variant, _, ⟨-, rfl⟩, selectedUom, db₁, -, _, _, -, _, _, -, _, _, -,
    rfl, -⟩ := h
  exact ⟨_, rfl, fun _ => rfl⟩

variable {dto : CreatePurchaseOrderDto}

theorem create_lineTotals {userId : Uuid} {now : Instant}
    {db : RfqDb} {order : PurchaseOrder} {db' : Db}
    (h : create companyId userId now dto db = .ok (order, db')) :
    ∃ id number transactionDate items,
      order = newOrder id number companyId userId transactionDate dto items ∧
        ∀ item ∈ items, item.lineTotal = item.charge := by
  obtain ⟨_, -, h⟩ := except_bind_eq_ok.1 h
  have hc : Commits (createTransaction companyId userId now dto) db.base order db' := h
  simp only [createTransaction, commits_bind, commits_pure] at hc
  obtain ⟨number, db₁, -, rows, db₂, hprice, id, db₃, -, items, db₄, hinsert, _, _, -, rfl, -⟩ := hc
  have hrows : ∀ row ∈ rows, ∀ id, (row id).lineTotal = (row id).charge := by
    refine foldlM_invariant
      (fun _ rows _ => ∀ row ∈ rows, ∀ id, (row id).lineTotal = (row id).charge)
      (fun _ _ _ rows _ _ _ _ hI hstep => ?_) (fun _ hrow => absurd hrow List.not_mem_nil) hprice
    obtain ⟨row, rfl, hrow⟩ := priceItem_lineTotal hstep
    intro x hx
    rcases List.mem_append.1 hx with hx | hx
    · exact hI x hx
    · rw [List.mem_singleton.1 hx]
      exact hrow
  refine ⟨id, number, _, items, rfl, ?_⟩
  refine foldlM_invariant (fun _ items _ => ∀ item ∈ items, item.lineTotal = item.charge)
    (fun _ row _ items _ _ _ heq hI hstep => ?_) (fun _ hitem => absurd hitem List.not_mem_nil)
    hinsert
  simp only [insertItem, commits_bind, commits_pure] at hstep
  obtain ⟨itemId, _, -, rfl, -⟩ := hstep
  intro x hx
  rcases List.mem_append.1 hx with hx | hx
  · exact hI x hx
  · rw [List.mem_singleton.1 hx]
    refine hrows row ?_ itemId
    rw [heq]
    exact List.mem_append_right _ List.mem_cons_self

theorem create_totals {userId : Uuid} {now : Instant}
    {db : RfqDb} {order : PurchaseOrder} {db' : Db}
    (h : create companyId userId now dto db = .ok (order, db')) : order.TotalsAgree := by
  have hpriced := (create_spec h).1
  obtain ⟨id, number, transactionDate, items, rfl, htotals⟩ := create_lineTotals h
  refine ⟨rfl, rfl, hpriced.total_nonneg, ?_⟩
  rw [sub_zero]
  have hcharges : items.map (·.lineTotal) = items.map (·.charge) := List.map_congr_left htotals
  exact (congrArg List.sum hcharges).trans (sums_eq items).symm

end PurchaseOrdersService

/-! ## What holds of every document -/

/-- The totals of a new document agree to the cent: those of every purchase order, and
those of a sale exactly when its discount does not end in half a cent. -/
theorem totals_agree_iff (companyId userId : Uuid) (now : Instant) :
    (∀ (dto : SalesService.CreateSaleDto) (creation : Option SalesService.Creation) (db : Db)
        (sale : Sale) (db' : Db),
      Commits (SalesService.create companyId userId now dto creation) db sale db' →
      db.selling.sales.find? sale.id = none →
      (sale.TotalsAgree (roundToCents (SalesService.promotionDiscount
          (SalesService.promotionOf db companyId dto) (sale.subtotal - sale.lineDiscounts))) ↔
        ¬ SalesService.RoundsTwice (SalesService.promotionOf db companyId dto) sale)) ∧
    ∀ (dto : PurchaseOrdersService.CreatePurchaseOrderDto) (db : RfqDb) (order : PurchaseOrder)
        (db' : Db),
      PurchaseOrdersService.create companyId userId now dto db = .ok (order, db') →
        order.TotalsAgree := by
  constructor
  · intro dto creation db sale db' h hnew
    obtain ⟨charge, saleNumber, id, items, hcharged, hpromotion, hitems, rfl⟩ :=
      SalesService.create_charged h hnew
    exact SalesService.newSale_totals hcharged hitems hpromotion
  · intro dto db order db' h
    exact PurchaseOrdersService.create_totals h

namespace TotalsDemo

def now : Instant := { date := ⟨2026, 3, 1⟩, millis := 0 }

def shop : Db where
  master :=
    { companies := .ofRows [{ id := 10, status := .Active, baseCurrency := "MMK" }]
      customers := .ofRows
        [{ id := 30, companyId := 10, customerCode := "C-1", receivableAccountId := none,
           status := .Active }]
      productVariants := .ofRows [{ id := 7, companyId := 10, status := .Active }]
      priceLists := .ofRows [{ id := 40, companyId := 10, status := .Active }]
      priceListItems :=
        [{ companyId := 10, priceListId := 40, productVariantId := 7, uomId := none,
           price := 105, validFrom := ⟨⟨2026, 1, 1⟩, 0⟩, validTo := none, status := .Active }] }
  selling :=
    { promotions := .ofRows
        [{ id := 50, companyId := 10, code := "HALF", name := "Half", description := none,
           discountType := .Percentage, discountValue := 500000, minimumPurchase := 0,
           maximumDiscountAmount := none, startDate := ⟨2026, 1, 1⟩, endDate := none,
           usageLimit := none, usageCount := 0, status := .Active, createdBy := none,
           updatedBy := none }] }

def saleDto (quantity : ℕ) : SalesService.CreateSaleDto where
  branchId := none
  warehouseId := none
  saleType := none
  customerId := 30
  salesAccountId := none
  transactionDate := none
  currency := "MMK"
  notes := none
  promotionCode := some "HALF"
  items := [{ productVariantId := 7, uomId := none, quantity := quantity, discountAmount := none,
              taxAmount := none, priceListId := none }]

def check (quantity : ℕ) (agrees : Bool) (sale : Sale) : Bool :=
  (shop.selling.sales.find? sale.id).isNone &&
    decide (sale.TotalsAgree (roundToCents (SalesService.promotionDiscount
      (SalesService.promotionOf shop 10 (saleDto quantity)) (sale.subtotal - sale.lineDiscounts)))) =
        agrees

end TotalsDemo

open TotalsDemo in
theorem totals_agree_iff_two_articles :
    ∃ sale db', Commits (SalesService.create 10 99 now (saleDto 2) none) shop sale db' ∧
      (sale.TotalsAgree (roundToCents (SalesService.promotionDiscount
          (SalesService.promotionOf shop 10 (saleDto 2)) (sale.subtotal - sale.lineDiscounts))) ↔
        ¬ SalesService.RoundsTwice (SalesService.promotionOf shop 10 (saleDto 2)) sale) := by
  obtain ⟨sale, hsale, hcheck⟩ := commits_of_run_any (p := check 2 true)
    (t := SalesService.create 10 99 now (saleDto 2) none) (s := shop) (by decide +kernel)
  have hnew : shop.selling.sales.find? sale.id = none := by
    unfold check at hcheck
    rw [Bool.and_eq_true, Option.isNone_iff_eq_none] at hcheck
    exact hcheck.1
  exact ⟨sale, _, hsale, (totals_agree_iff 10 99 now).1 _ _ _ _ _ hsale hnew⟩

open TotalsDemo in
/-- Half of 1.05 off: 0.53 and a total of 0.53. -/
theorem half_of_an_odd_cent_is_rounded_twice :
    ∃ sale db', Commits (SalesService.create 10 99 now (saleDto 1) none) shop sale db' ∧
      shop.selling.sales.find? sale.id = none ∧
      ¬ sale.TotalsAgree (roundToCents (SalesService.promotionDiscount
        (SalesService.promotionOf shop 10 (saleDto 1)) (sale.subtotal - sale.lineDiscounts))) := by
  obtain ⟨sale, hsale, hcheck⟩ := commits_of_run_any (p := check 1 false)
    (t := SalesService.create 10 99 now (saleDto 1) none) (s := shop) (by decide +kernel)
  unfold check at hcheck
  rw [Bool.and_eq_true, Option.isNone_iff_eq_none, decide_eq_true_eq, decide_eq_false_iff_not] at hcheck
  exact ⟨sale, _, hsale, hcheck⟩

end FashionErp
