/-
`SalesService.create`: a sale is priced, charged and inserted.

Master data is checked before the transaction.
-/
import FashionErp.Sales.Pricing
import FashionErp.Sales.Promotions
import FashionErp.Sales.Sales

namespace FashionErp.SalesService

open Lib Lib.Tx

structure CreateSaleDto where
  branchId : Option Uuid
  warehouseId : Option Uuid
  saleType : Option SaleType
  customerId : Uuid
  salesAccountId : Option Uuid
  transactionDate : Option Instant
  currency : String
  notes : Option String
  promotionCode : Option String
  items : List CreateSaleItemDto

/-- The `creation` argument: the key a caller retries under, and the hash of what it
asks for. -/
structure Creation where
  key : String
  hash : String

def CreateSaleDto.code (dto : CreateSaleDto) : Option String := dto.promotionCode.filter (· ≠ "")

/-! ## Checks -/

def assertValidWarehouse (warehouseId companyId : Uuid) (branchId : Option Uuid) : DbTx Unit := do
  let warehouse ← WarehousesService.findById warehouseId
  assertWarehouseUsable "warehouseId" warehouse companyId
  rejectIf (branchId.any fun branchId => warehouse.branchId ≠ branchId)
    (appException .ValidationError "warehouseId does not belong to the resolved branch")

def assertValidCustomer (customerId companyId : Uuid) : DbTx Unit := do
  let customer ← CustomersService.findByIdInCompany customerId companyId
  rejectIf (customer.status = .Blocked)
    (appException .ValidationError "customerId references a blocked customer")

def assertVariantActive (companyId : Uuid) (itemDto : CreateSaleItemDto) : DbTx Unit := do
  let id := itemDto.productVariantId
  let variant ← ProductVariantsService.findByIdInCompany id companyId
  rejectIf (variant.status ≠ .Active)
    (appException .ValidationError s!"Product variant {id} is not active")

/-- The checks of `create` before its transaction. -/
def assertCreatable (companyId : Uuid) (dto : CreateSaleDto) : DbTx Unit := do
  assertCompanyAndBranch companyId dto.branchId
  match dto.warehouseId with
  | none => pure ()
  | some warehouseId => assertValidWarehouse warehouseId companyId dto.branchId
  assertValidCustomer dto.customerId companyId
  dto.items.forM (assertVariantActive companyId)

/-- `assertValidSalesAccount`, with `canAccessSalesAccount` in it. -/
def assertValidSalesAccount (salesAccountId companyId userId : Uuid) : DbTx Unit := do
  let db ← get
  let salesAccount ← orReject
    ((db.master.salesAccounts.find? salesAccountId).filter fun a =>
      a.companyId = companyId && !a.deleted)
    (appException .NotFound "Sales account not found")
  rejectIf (salesAccount.status ≠ .Active)
    (appException .ValidationError "salesAccountId must reference an active sales account")
  let canAccess := db.master.salesAccountAssignments.any fun a =>
    a.userId = userId && a.salesAccountId = salesAccountId && a.status = .Active && !a.deleted
  rejectIf (canAccess = false)
    (appException .Forbidden "You are not authorized to attribute sales to this sales account")

/-! ## Replays -/

def findSaleByKey (db : Db) (companyId : Uuid) (creation : Creation) : Option Sale :=
  db.selling.sales.rows.find? fun s =>
    s.companyId = companyId && s.creationKey = some creation.key

def assertCreationHash (sale : Sale) (hash : String) : DbTx Unit :=
  rejectIf (sale.creationHash ≠ some hash)
    (appException .Conflict "Checkout key was already used or its sale is unavailable")

def findByCreationKey (companyId : Uuid) (creation : Option Creation) : DbTx (Option Sale) := do
  let db ← get
  match creation with
  | none => return none
  | some creation =>
    match findSaleByKey db companyId creation with
    | none => return none
    | some sale =>
      assertCreationHash sale creation.hash
      return some sale

/-! ## The charge -/

/-- A line as it is priced: the row of `itemRows`. -/
structure PricedLine where
  pricing : ResolvedSaleItemPricing
  discount : Cents
  tax : Cents

def PricedLine.lineSubtotal (line : PricedLine) : Cents :=
  line.pricing.unitPrice * line.pricing.quantity

def PricedLine.lineTotal (line : PricedLine) : Cents :=
  line.lineSubtotal - line.discount + line.tax

def PricedLine.toSaleItem (line : PricedLine) (id : Uuid) : SaleItem where
  id := id
  productVariantId := line.pricing.productVariantId
  uomId := line.pricing.uomId
  uomCodeSnapshot := line.pricing.uomCode
  uomNameSnapshot := line.pricing.uomName
  quantity := line.pricing.quantity
  baseQuantitySnapshot := some line.pricing.baseQuantity
  conversionFactorToBaseSnapshot := line.pricing.conversionFactorToBase
  unitPriceSnapshot := line.pricing.unitPrice
  discountSnapshot := line.discount
  taxSnapshot := line.tax
  lineTotal := line.lineTotal
  productNameSnapshot := line.pricing.variant.productName
  skuSnapshot := line.pricing.variant.sku

def priceLine (companyId : Uuid) (defaultPriceListId : Option Uuid) (transactionDate : Instant)
    (lines : List PricedLine) (itemDto : CreateSaleItemDto) : DbTx (List PricedLine) := do
  let resolvedItem ← resolveItemPricing itemDto companyId defaultPriceListId transactionDate
  let discount := itemDto.discountAmount.getD 0
  let tax := itemDto.taxAmount.getD 0
  rejectIf (discount < 0 ∨ tax < 0)
    (appException .ValidationError "discountAmount and taxAmount must be non-negative")
  let line : PricedLine := { pricing := resolvedItem, discount := discount, tax := tax }
  let id := itemDto.productVariantId
  rejectIf (line.lineSubtotal < discount)
    (appException .ValidationError
      s!"discountAmount cannot exceed the line subtotal for product variant {id}")
  return lines ++ [line]

structure Charge where
  lines : List PricedLine
  promotionId : Option Uuid
  promotionDiscount : ℤ

namespace Charge

def subtotal (c : Charge) : Cents := (c.lines.map (·.lineSubtotal)).sum

def lineDiscounts (c : Charge) : Cents := (c.lines.map (·.discount)).sum

def taxTotal (c : Charge) : Cents := (c.lines.map (·.tax)).sum

def discountTotal (c : Charge) : ℤ := c.lineDiscounts * 1000000 + c.promotionDiscount

def grandTotal (c : Charge) : ℤ :=
  c.subtotal * 1000000 - c.discountTotal + c.taxTotal * 1000000

end Charge

def chargeSale (companyId : Uuid) (dto : CreateSaleDto) (transactionDate : Instant) :
    DbTx Charge := do
  let defaultPriceListId ← resolveDefaultPriceListId companyId
  let lines ← dto.items.foldlM (priceLine companyId defaultPriceListId transactionDate) []
  let charge : Charge := { lines := lines, promotionId := none, promotionDiscount := 0 }
  match dto.code with
  | none => return charge
  | some code =>
    let promotion ← PromotionsService.resolveAndLockForUse companyId code charge.subtotal
      transactionDate
    let promotionDiscount := PromotionsService.computeDiscountAmount promotion
      (charge.subtotal - charge.lineDiscounts)
    return { charge with promotionId := some promotion.id, promotionDiscount := promotionDiscount }

/-! ## The insert -/

def generateSaleNumber (companyId : Uuid) (year : ℕ) : DbTx String :=
  nextDocumentNumber .Sale "SAL" companyId year

def saveSaleItem (items : List SaleItem) (line : PricedLine) : DbTx (List SaleItem) := do
  let id ← randomUUID
  return items ++ [line.toSaleItem id]

def newSale (companyId userId : Uuid) (dto : CreateSaleDto) (transactionDate : Instant)
    (creation : Option Creation) (saleNumber : String) (charge : Charge) (id : Uuid)
    (items : List SaleItem) : Sale where
  id := id
  creationKey := creation.map (·.key)
  creationHash := creation.map (·.hash)
  saleNumber := saleNumber
  saleType := dto.saleType.getD .Retail
  salesAccountId := dto.salesAccountId
  transactionDate := transactionDate
  subtotal := charge.subtotal
  discountAmount := roundToCents charge.discountTotal
  taxAmount := charge.taxTotal
  notes := dto.notes
  createdBy := some userId
  companyId := companyId
  customerId := dto.customerId
  branchId := dto.branchId
  warehouseId := dto.warehouseId
  status := .Draft
  grandTotal := roundToCents charge.grandTotal
  paidAmount := 0
  balanceAmount := roundToCents charge.grandTotal
  currency := dto.currency
  fulfillmentStatus := none
  shippedAt := none
  deliveredAt := none
  updatedBy := some userId
  items := items

def insertSale (companyId userId : Uuid) (dto : CreateSaleDto) (transactionDate : Instant)
    (creation : Option Creation) (saleNumber : String) (charge : Charge) : DbTx Sale := do
  let db ← get
  rejectIf (creation.any fun creation => (findSaleByKey db companyId creation).isSome)
    (.duplicateEntry "uq_sales_creation_key")
  let id ← randomUUID
  let items ← charge.lines.foldlM saveSaleItem []
  let sale := newSale companyId userId dto transactionDate creation saleNumber charge id items
  saveSale sale
  match charge.promotionId with
  | none => pure ()
  | some promotionId => PromotionsService.incrementUsage promotionId
  return sale

/-- The transaction of `create`. -/
def createTransaction (companyId userId : Uuid) (dto : CreateSaleDto) (transactionDate : Instant)
    (creation : Option Creation) : DbTx Sale := do
  match dto.salesAccountId with
  | none => pure ()
  | some salesAccountId => assertValidSalesAccount salesAccountId companyId userId
  let saleNumber ← generateSaleNumber companyId transactionDate.getUTCFullYear
  let replay ← findByCreationKey companyId creation
  match replay with
  | some replay => return replay
  | none =>
    let charge ← chargeSale companyId dto transactionDate
    insertSale companyId userId dto transactionDate creation saleNumber charge

/-- The `catch`: a duplicate entry is answered with the sale of the key, if there is
one by now. -/
def recoverCreation (companyId : Uuid) (creation : Option Creation) (error : Failure) :
    DbTx Sale := do
  match error with
  | .duplicateEntry _ =>
    let replay ← findByCreationKey companyId creation
    orReject replay error
  | _ => throw error

def create (companyId userId : Uuid) (now : Instant) (dto : CreateSaleDto)
    (creation : Option Creation) : DbTx Sale := do
  let replay ← findByCreationKey companyId creation
  match replay with
  | some replay => return replay
  | none =>
    assertCreatable companyId dto
    let transactionDate := dto.transactionDate.getD now
    tryCatch (createTransaction companyId userId dto transactionDate creation)
      (recoverCreation companyId creation)

/-! ## What a creation does -/

structure PricedLine.Valid (line : PricedLine) : Prop where
  discount_nonneg : 0 ≤ line.discount
  tax_nonneg : 0 ≤ line.tax
  discount_le : line.discount ≤ line.lineSubtotal

variable {companyId : Uuid} {transactionDate : Instant} {db db' : Db} {dto : CreateSaleDto}
  {lines : List PricedLine}

theorem priceLine_spec {defaultPriceListId : Option Uuid} {lines' : List PricedLine}
    {itemDto : CreateSaleItemDto}
    (h : Commits (priceLine companyId defaultPriceListId transactionDate lines itemDto) db lines' db') :
    db = db' ∧ ∃ line, lines' = lines ++ [line] ∧ line.Valid := by
  simp only [priceLine, commits_bind, commits_rejectIf, commits_pure] at h
  obtain ⟨pricing, _, hpricing, _, _, ⟨hnonneg, rfl⟩, _, _, ⟨hle, rfl⟩, rfl, rfl⟩ := h
  obtain ⟨rfl, -⟩ := resolveItemPricing_readsOnly _ _ _ _ db db rfl _ _ hpricing
  obtain ⟨hdiscount, htax⟩ := not_or.1 hnonneg
  exact ⟨rfl, _, rfl, ⟨not_lt.1 hdiscount, not_lt.1 htax, not_lt.1 hle⟩⟩

/-- What is charged: valid lines, and a promotion of the given code with room for
the use, which takes off no more than is left of the order. -/
structure Charged (db : Db) (companyId : Uuid) (dto : CreateSaleDto) (charge : Charge) : Prop where
  lines : ∀ line ∈ charge.lines, line.Valid
  discount : charge.promotionDiscount ≤ (charge.subtotal - charge.lineDiscounts) * 1000000
  promotion : ∀ id ∈ charge.promotionId, ∃ code ∈ dto.code, ∃ p,
    PromotionsService.findByCode db companyId code = some p ∧ p.id = id ∧
      PromotionsService.UnderLimit p

theorem discounts_le (h : ∀ line ∈ lines, line.Valid) :
    (lines.map (·.discount)).sum ≤ (lines.map (·.lineSubtotal)).sum :=
  List.sum_le_sum fun line hline => (h line hline).discount_le

variable {charge : Charge}

theorem chargeSale_spec (h : Commits (chargeSale companyId dto transactionDate) db charge db') :
    db = db' ∧ Charged db companyId dto charge := by
  simp only [chargeSale, resolveDefaultPriceListId, commits_bind, commits_reads] at h
  obtain ⟨_, _, ⟨-, rfl⟩, lines, db₁, hloop, h⟩ := h
  obtain ⟨rfl, hlines⟩ : db = db₁ ∧ ∀ line ∈ lines, line.Valid := by
    refine foldlM_invariant (fun _ lines db₁ => db = db₁ ∧ ∀ line ∈ lines, line.Valid)
      (fun _ _ _ ls _ ls' _ _ hI hstep => ?_) ⟨rfl, fun _ hmem => absurd hmem List.not_mem_nil⟩
      hloop
    obtain ⟨rfl, hvalid⟩ := hI
    obtain ⟨rfl, line, rfl, hline⟩ := priceLine_spec hstep
    refine ⟨rfl, fun l hl => ?_⟩
    rcases List.mem_append.1 hl with hl | hl
    · exact hvalid l hl
    · rwa [List.mem_singleton.1 hl]
  split at h
  · obtain ⟨rfl, rfl⟩ := (commits_pure _ _ _ _).1 h
    have hle := discounts_le hlines
    refine ⟨rfl, ⟨hlines, ?_, by rintro _ ⟨⟩⟩⟩
    show (0 : ℤ) ≤ (_ - _) * 1000000
    exact Int.mul_nonneg (Int.sub_nonneg.2 hle) (by decide)
  · rename_i code hcode
    simp only [commits_bind, commits_pure] at h
    obtain ⟨p, _, hp, rfl, rfl⟩ := h
    obtain ⟨rfl, hfind, -, hroom⟩ := PromotionsService.resolveAndLockForUse_spec hp
    refine ⟨rfl, ⟨hlines, PromotionsService.computeDiscountAmount_le _ _, fun id hid => ?_⟩⟩
    exact ⟨code, hcode, p, hfind, Option.some.inj hid, hroom⟩

/-- No sale is charged less than nothing: the discounts are within the lines, the
promotion within what they leave, and the taxes come on top. -/
theorem Charged.grandTotal_nonneg (h : Charged db companyId dto charge) :
    0 ≤ roundToCents charge.grandTotal := by
  have htaxes : 0 ≤ charge.taxTotal := by
    refine List.sum_nonneg fun tax htax => ?_
    obtain ⟨line, hline, rfl⟩ := List.mem_map.1 htax
    exact (h.lines line hline).tax_nonneg
  have hpromotion := h.discount
  have hgrand : 0 ≤ charge.grandTotal := by
    unfold Charge.grandTotal Charge.discountTotal
    unfold Cents at *
    omega
  unfold roundToCents
  split <;> omega

/-- The promotions after a sale that used `promotionId`. -/
def countedUse (promotions : Table Promotion) : Option Uuid → Table Promotion
  | none => promotions
  | some promotionId => PromotionsService.countUse promotions promotionId

theorem saveSaleItems_spec {items : List SaleItem}
    (h : Commits (lines.foldlM saveSaleItem []) db items db') :
    SequencesOnly db db' ∧ List.Forall₂ (fun line item => ∃ id, item = line.toSaleItem id)
      lines items := by
  have hstart : SequencesOnly db db := rfl
  refine foldlM_invariant (fun done items db₁ => SequencesOnly db db₁ ∧
    List.Forall₂ (fun (line : PricedLine) item => ∃ id, item = line.toSaleItem id) done items)
    (fun done line _ items db₁ items' db₂ _ hI hstep => ?_) ⟨hstart, .nil⟩ h
  simp only [saveSaleItem, commits_bind, commits_pure] at hstep
  obtain ⟨id, _, hid, rfl, rfl⟩ := hstep
  obtain ⟨hseq, hdone⟩ := hI
  obtain ⟨hseq', -⟩ := randomUUID_spec hid
  refine ⟨?_, List.rel_append hdone (.cons ⟨id, rfl⟩ .nil)⟩
  rw [SequencesOnly] at hseq hseq' ⊢
  rw [hseq', hseq]

/-- What an insert leaves behind: one new sale with an item for each line, and one
more use of its promotion. -/
theorem insertSale_spec {userId : Uuid} {creation : Option Creation} {saleNumber : String} {sale : Sale}
    (h : Commits (insertSale companyId userId dto transactionDate creation saleNumber charge) db sale db') :
    ∃ id items, sale = newSale companyId userId dto transactionDate creation saleNumber charge id
        items ∧
      List.Forall₂ (fun line item => ∃ id, item = line.toSaleItem id) charge.lines items ∧
      db' = { db with
        selling := { db.selling with
          sales := db.selling.sales.save sale
          promotions := countedUse db.selling.promotions charge.promotionId }
        sequences := db'.sequences } := by
  simp only [insertSale, saveSale, commits_bind, commits_get, commits_rejectIf, commits_modify] at h
  obtain ⟨_, _, ⟨rfl, rfl⟩, _, _, ⟨-, rfl⟩, id, db₁, hid, items, db₂, hitems, _, _, rfl, h⟩ := h
  obtain ⟨hseq₁, -⟩ := randomUUID_spec hid
  obtain ⟨hseq₂, hforall⟩ := saveSaleItems_spec hitems
  rw [SequencesOnly] at hseq₁ hseq₂
  refine ⟨id, items, ?_, hforall, ?_⟩
  · split at h
    · exact ((commits_pure _ _ _ _).1 h).1
    · simp only [PromotionsService.incrementUsage, commits_bind, commits_modify, commits_pure] at h
      obtain ⟨_, _, rfl, rfl, -⟩ := h
      rfl
  · split at h
    · rename_i hnone
      obtain ⟨rfl, rfl⟩ := (commits_pure _ _ _ _).1 h
      rw [hseq₂, hseq₁, hnone]
      rfl
    · rename_i promotionId hsome
      simp only [PromotionsService.incrementUsage, commits_bind, commits_modify, commits_pure] at h
      obtain ⟨_, _, rfl, rfl, rfl⟩ := h
      rw [hseq₂, hseq₁, hsome]
      rfl

/-! ## The price of every line -/

def soleActivePriceList (db : Db) (companyId : Uuid) : Option Uuid :=
  match db.master.priceLists.rows.filter fun l =>
      l.companyId = companyId && l.status = .Active && !l.deleted with
  | [priceList] => some priceList.id
  | _ => none

theorem commits_resolveDefaultPriceListId {found : Option Uuid} :
    Commits (resolveDefaultPriceListId companyId) db found db' ↔
      found = soleActivePriceList db companyId ∧ db = db' :=
  commits_reads _ _ _ _

end FashionErp.SalesService
