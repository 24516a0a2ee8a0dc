/-
`PurchaseOrdersService.create`: a purchase order is priced from its request and inserted.

The unit cost of a line is what the buyer asks for, not less than zero.
-/
import FashionErp.Purchase.PurchaseOrders
import FashionErp.Purchase.SupplierQuotations
import FashionErp.Sales.SaleCreation

namespace FashionErp

open Lib Lib.Tx

def PurchaseOrderItem.charge (item : PurchaseOrderItem) : Cents :=
  item.unitCostSnapshot * item.quantity - item.discountSnapshot + item.taxSnapshot

def PurchaseOrderItem.netDiscount (item : PurchaseOrderItem) : Cents :=
  item.discountSnapshot - item.taxSnapshot

/-- An order as `create` prices it. Its items have ids of their own, no discount is more
than its line comes to, and the total is what the lines charge. -/
structure PurchaseOrder.Priced (order : PurchaseOrder) : Prop where
  ids : (order.items.map (·.id)).Nodup
  costs : ∀ item ∈ order.items, 0 ≤ item.unitCostSnapshot
  discounts : ∀ item ∈ order.items, item.discountSnapshot ≤ item.unitCostSnapshot * item.quantity
  taxes : ∀ item ∈ order.items, 0 ≤ item.taxSnapshot
  total : order.grandTotal = (order.items.map (·.charge)).sum

instance (order : PurchaseOrder) : Decidable order.Priced :=
  decidable_of_iff ((order.items.map (·.id)).Nodup ∧ (∀ item ∈ order.items, 0 ≤ item.unitCostSnapshot) ∧
      (∀ item ∈ order.items, item.discountSnapshot ≤ item.unitCostSnapshot * item.quantity) ∧
      (∀ item ∈ order.items, 0 ≤ item.taxSnapshot) ∧
      order.grandTotal = (order.items.map (·.charge)).sum)
    ⟨fun ⟨hids, hcosts, hdiscounts, htaxes, htotal⟩ => ⟨hids, hcosts, hdiscounts, htaxes, htotal⟩,
      fun h => ⟨h.ids, h.costs, h.discounts, h.taxes, h.total⟩⟩

theorem PurchaseOrder.Priced.total_nonneg {order : PurchaseOrder} (h : order.Priced) :
    0 ≤ order.grandTotal := by
  rw [h.total]
  refine List.sum_nonneg fun charge hcharge => ?_
  obtain ⟨item, hitem, rfl⟩ := List.mem_map.1 hcharge
  have hdiscount := h.discounts item hitem
  have htax := h.taxes item hitem
  unfold PurchaseOrderItem.charge
  lia

namespace PurchaseOrdersService

structure CreatePurchaseOrderItemDto where
  productVariantId : Uuid
  uomId : Option Uuid
  quantity : ℕ
  unitCost : Cents
  discountAmount : Option Cents
  taxAmount : Option Cents

structure CreatePurchaseOrderDto where
  branchId : Option Uuid
  warehouseId : Option Uuid
  supplierId : Uuid
  paymentTermId : Option Uuid
  sourceSupplierQuotationId : Option Uuid
  transactionDate : Option Instant
  currency : String
  items : List CreatePurchaseOrderItemDto

/-! ## Checks before the transaction -/

def assertValidWarehouse (warehouseId companyId : Uuid) (branchId : Option Uuid) : DbTx Unit :=
  SalesService.assertValidWarehouse warehouseId companyId branchId

def assertValidSupplier (supplierId companyId : Uuid) : DbTx Unit := do
  let supplier ← SuppliersService.findByIdInCompany supplierId companyId
  rejectIf (supplier.status = .Blocked)
    (appException .ValidationError "supplierId references a blocked supplier")

/-- `findAwardedByIdInCompany`, and the check of what it finds. -/
def assertQuotation (dto : CreatePurchaseOrderDto) (companyId : Uuid) (db : RfqDb) :
    Except Failure Unit :=
  match dto.sourceSupplierQuotationId with
  | none => pure ()
  | some quotationId => do
    let quotation ← SupplierQuotationsService.findByIdInCompany quotationId companyId db
    refuseIf (quotation.status ≠ .Awarded)
      (appException .ValidationError "sourceSupplierQuotationId must reference an awarded quotation")
    refuseIf (quotation.supplierId ≠ dto.supplierId)
      (appException .ValidationError
        "sourceSupplierQuotationId does not belong to the selected supplier")

def assertVariantActive (companyId : Uuid) (itemDto : CreatePurchaseOrderItemDto) : DbTx Unit := do
  let id := itemDto.productVariantId
  let variant ← ProductVariantsService.findByIdInCompany id companyId
  rejectIf (variant.status ≠ .Active)
    (appException .ValidationError s!"Product variant {id} is not active")

def assertParties (companyId : Uuid) (dto : CreatePurchaseOrderDto) : DbTx Unit := do
  assertCompanyAndBranch companyId dto.branchId
  match dto.warehouseId with
  | none => pure ()
  | some warehouseId => assertValidWarehouse warehouseId companyId dto.branchId
  assertValidSupplier dto.supplierId companyId

/-- The checks of `create` before its transaction. -/
def assertCreatable (companyId : Uuid) (dto : CreatePurchaseOrderDto) (db : RfqDb) :
    Except Failure Unit := do
  value (assertParties companyId dto) db.base
  SupplierQuotationsService.assertPaymentTerm dto.paymentTermId companyId db
  assertQuotation dto companyId db
  value (dto.items.forM (assertVariantActive companyId)) db.base

/-! ## The lines -/

/-- A row of `itemRows`: an item that has no id yet. -/
abbrev ItemRow := Uuid → PurchaseOrderItem

def priceItem (companyId : Uuid) (itemRows : List ItemRow) (itemDto : CreatePurchaseOrderItemDto) :
    DbTx (List ItemRow) := do
  let variantId := itemDto.productVariantId
  let db ← get
  let variant ← orReject
    ((db.master.productVariants.find? variantId).filter fun v =>
      v.companyId = companyId && !v.deleted)
    .entityNotFound
  let selectedUom ← ProductVariantUomsService.resolveSelectionForUsage variant companyId .Purchase
    itemDto.uomId
  let conversionFactorToBase := (selectedUom.map (·.conversionFactorToBase)).getD 10000
  -- `computeBaseQuantity` is the text of the one in the sales service.
  let _baseQuantity ← SalesService.computeBaseQuantity itemDto.quantity conversionFactorToBase
    s!"quantity for product variant {variantId}"
  let unitCost := itemDto.unitCost
  let discount := itemDto.discountAmount.getD 0
  let tax := itemDto.taxAmount.getD 0
  rejectIf (unitCost < 0 ∨ discount < 0 ∨ tax < 0)
    (appException .ValidationError "unitCost, discountAmount, and taxAmount must be non-negative")
  let lineSubtotal := unitCost * itemDto.quantity
  rejectIf (lineSubtotal < discount)
    (appException .ValidationError
      s!"discountAmount cannot exceed the line subtotal for product variant {variantId}")
  return itemRows ++ [fun id =>
    { id := id, productVariantId := variantId, quantity := itemDto.quantity
      unitCostSnapshot := unitCost, conversionFactorToBaseSnapshot := some conversionFactorToBase
      discountSnapshot := discount, taxSnapshot := tax
      lineTotal := lineSubtotal - discount + tax }]

def insertItem (items : List PurchaseOrderItem) (row : ItemRow) :
    DbTx (List PurchaseOrderItem) := do
  let id ← randomUUID
  return items ++ [row id]

def generatePurchaseOrderNumber (companyId : Uuid) (year : ℕ) : DbTx String :=
  nextDocumentNumber .PurchaseOrder "PO" companyId year

def subtotal (items : List PurchaseOrderItem) : Cents :=
  (items.map fun item => item.unitCostSnapshot * item.quantity).sum

def discountTotal (items : List PurchaseOrderItem) : Cents := (items.map (·.discountSnapshot)).sum

def taxTotal (items : List PurchaseOrderItem) : Cents := (items.map (·.taxSnapshot)).sum

/-- The order `create` saves, with the items it saves after it. -/
def newOrder (id : Uuid) (purchaseOrderNumber : String) (companyId userId : Uuid)
    (transactionDate : Instant) (dto : CreatePurchaseOrderDto) (items : List PurchaseOrderItem) :
    PurchaseOrder :=
  let grandTotal := subtotal items - discountTotal items + taxTotal items
  { id := id, purchaseOrderNumber := purchaseOrderNumber, supplierId := dto.supplierId
    companyId := companyId, branchId := dto.branchId, warehouseId := dto.warehouseId
    status := .Draft, transactionDate := transactionDate
    subtotal := subtotal items, discountAmount := discountTotal items, taxAmount := taxTotal items
    grandTotal := grandTotal, paidAmount := 0, balanceAmount := grandTotal
    currency := dto.currency, updatedBy := some userId, items := items }

def insertOrder (order : PurchaseOrder) : DbTx Unit := do
  let db ← get
  rejectIf (db.buying.purchaseOrders.find? order.id).isSome (.duplicateEntry "PRIMARY")
  rejectIf (db.buying.purchaseOrders.rows.any fun o =>
      o.companyId = order.companyId ∧ o.purchaseOrderNumber = order.purchaseOrderNumber)
    (.duplicateEntry "purchase_orders.company_id_purchase_order_number")
  savePurchaseOrder order

/-- The transaction of `create`. -/
def createTransaction (companyId userId : Uuid) (now : Instant) (dto : CreatePurchaseOrderDto) :
    DbTx PurchaseOrder := do
  let transactionDate := dto.transactionDate.getD now
  let number ← generatePurchaseOrderNumber companyId transactionDate.getUTCFullYear
  let itemRows ← dto.items.foldlM (priceItem companyId) []
  let id ← randomUUID
  let items ← itemRows.foldlM insertItem []
  let order := newOrder id number companyId userId transactionDate dto items
  insertOrder order
  return order

def create (companyId userId : Uuid) (now : Instant) (dto : CreatePurchaseOrderDto) (db : RfqDb) :
    Except Failure (PurchaseOrder × Db) := do
  assertCreatable companyId dto db
  createTransaction companyId userId now dto db.base

/-! ## What a created order is -/

structure ItemRow.Sound (row : ItemRow) : Prop where
  id : ∀ id, (row id).id = id
  cost : ∀ id, 0 ≤ (row id).unitCostSnapshot
  discount : ∀ id, (row id).discountSnapshot ≤ (row id).unitCostSnapshot * (row id).quantity
  tax : ∀ id, 0 ≤ (row id).taxSnapshot

variable {db' : Db} {items : List PurchaseOrderItem} {db : Db}
  {rows : List ItemRow} {companyId : Uuid}

theorem priceItem_spec {rows' : List ItemRow} {itemDto : CreatePurchaseOrderItemDto}
    (h : Commits (priceItem companyId rows itemDto) db rows' db') :
    db = db' ∧ ∃ row : ItemRow, rows' = rows ++ [row] ∧ row.Sound := by
  simp only [priceItem, SalesService.computeBaseQuantity, commits_bind, commits_get,
    commits_orReject, commits_rejectIf, commits_pure, not_or, not_lt] at h
  obtain ⟨_, _, ⟨rfl, rfl⟩, variant, _, ⟨-, rfl⟩, selectedUom, db₁, hselect, _, _,
    ⟨_, _, ⟨-, rfl⟩, -, rfl⟩, _, _, ⟨⟨hcost, -, htax⟩, rfl⟩, _, _, ⟨hdiscount, rfl⟩, rfl, rfl⟩ := h
  obtain ⟨rfl, -⟩ := SalesService.resolveSelectionForUsage_readsOnly _ _ _ _ db db rfl _ _ hselect
  exact ⟨rfl, _, rfl, fun _ => rfl, fun _ => hcost, fun _ => hdiscount, fun _ => htax⟩

theorem priceItems_spec {lines : List CreatePurchaseOrderItemDto}
    (h : Commits (lines.foldlM (priceItem companyId) []) db rows db') :
    db = db' ∧ ∀ row ∈ rows, row.Sound := by
  refine foldlM_invariant (fun _ rows s => db = s ∧ ∀ row ∈ rows, row.Sound)
    (fun done line _ rows s rows' s' _ hI hc => ?_) ⟨rfl, fun _ hrow => absurd hrow List.not_mem_nil⟩ h
  obtain ⟨rfl, hrows⟩ := hI
  obtain ⟨rfl, row, rfl, hrow⟩ := priceItem_spec hc
  refine ⟨rfl, fun x hx => ?_⟩
  rcases List.mem_append.1 hx with hx | hx
  · exact hrows x hx
  · rw [List.mem_singleton.1 hx]
    exact hrow

structure Inserted (db : Db) (items : List PurchaseOrderItem) (db' : Db) : Prop where
  sequences : SequencesOnly db db'
  ids : (items.map (·.id)).Nodup
  drawn : ∀ item ∈ items, item.id < db'.sequences.nextId
  sound : ∀ item ∈ items, ∃ row : ItemRow, row.Sound ∧ item = row item.id

theorem Inserted.next {db₀ : Db} {items' : List PurchaseOrderItem} {row : ItemRow}
    (h : Inserted db₀ items db) (hrow : row.Sound)
    (hc : Commits (insertItem items row) db items' db') : Inserted db₀ items' db' := by
  simp only [insertItem, commits_bind, commits_pure, randomUUID, commits_get, commits_set] at hc
  obtain ⟨_, _, ⟨_, _, ⟨rfl, rfl⟩, _, _, rfl, rfl, rfl⟩, rfl, rfl⟩ := hc
  have hid : (row db.sequences.nextId).id = db.sequences.nextId := hrow.id _
  refine ⟨?_, ?_, fun item hitem => ?_, fun item hitem => ?_⟩
  · have hseq := h.sequences
    rw [SequencesOnly] at hseq ⊢
    rw [hseq]
  · rw [List.map_append, List.map_singleton, hid]
    refine List.Nodup.append h.ids (List.nodup_singleton _) fun id hold hnew => ?_
    obtain ⟨item, hitem, rfl⟩ := List.mem_map.1 hold
    have hlt := h.drawn item hitem
    rw [List.mem_singleton.1 hnew] at hlt
    exact absurd hlt (lt_irrefl _)
  · rcases List.mem_append.1 hitem with hitem | hitem
    · exact Nat.lt_succ_of_lt (h.drawn item hitem)
    · rw [List.mem_singleton.1 hitem, hid]
      exact Nat.lt_succ_self _
  · rcases List.mem_append.1 hitem with hitem | hitem
    · exact h.sound item hitem
    · refine ⟨row, hrow, ?_⟩
      rw [List.mem_singleton.1 hitem, hid]

theorem insertItems_spec (hrows : ∀ row ∈ rows, row.Sound)
    (h : Commits (rows.foldlM insertItem []) db items db') : Inserted db items db' := by
  refine foldlM_invariant (fun _ items s => Inserted db items s)
    (fun done row rest items s items' s' heq hI hc => hI.next (hrows row ?_) hc) ?_ h
  · rw [heq]
    exact List.mem_append_right _ List.mem_cons_self
  · exact ⟨rfl, List.nodup_nil, fun _ hitem => absurd hitem List.not_mem_nil,
      fun _ hitem => absurd hitem List.not_mem_nil⟩

theorem sums_eq (items : List PurchaseOrderItem) :
    subtotal items - discountTotal items + taxTotal items = (items.map (·.charge)).sum := by
  induction items with
  | nil => rfl
  | cons item items ih =>
    simp only [subtotal, discountTotal, taxTotal, List.map_cons, List.sum_cons] at ih ⊢
    rw [← ih, PurchaseOrderItem.charge]
    abel

theorem Inserted.priced (h : Inserted db items db') (id : Uuid) (number : String)
    (companyId userId : Uuid) (transactionDate : Instant) (dto : CreatePurchaseOrderDto) :
    (newOrder id number companyId userId transactionDate dto items).Priced where
  ids := h.ids
  costs item hitem := by
    obtain ⟨row, hrow, heq⟩ := h.sound item hitem
    rw [heq]
    exact hrow.cost _
  discounts item hitem := by
    obtain ⟨row, hrow, heq⟩ := h.sound item hitem
    rw [heq]
    exact hrow.discount _
  taxes item hitem := by
    obtain ⟨row, hrow, heq⟩ := h.sound item hitem
    rw [heq]
    exact hrow.tax _
  total := sums_eq items

theorem create_spec {userId : Uuid} {now : Instant} {dto : CreatePurchaseOrderDto}
    {db : RfqDb} {order : PurchaseOrder} (h : create companyId userId now dto db = .ok (order, db')) :
    order.Priced ∧ order.companyId = companyId ∧ order.status = .Draft ∧ order.paidAmount = 0 ∧
      order.balanceAmount = order.grandTotal ∧
      db.base.buying.purchaseOrders.find? order.id = none ∧
      db' = { db.base with
        buying := { db.base.buying with
          purchaseOrders := db.base.buying.purchaseOrders.save order }
        sequences := db'.sequences } := by
  obtain ⟨_, -, h⟩ := except_bind_eq_ok.1 h
  have hc : Commits (createTransaction companyId userId now dto) db.base order db' := h
  simp only [createTransaction, generatePurchaseOrderNumber, insertOrder, savePurchaseOrder,
    commits_bind, commits_get, commits_rejectIf, commits_modify, commits_pure, Bool.not_eq_true,
    Option.isSome_eq_false_iff, Option.isNone_iff_eq_none] at hc
  obtain ⟨number, db₁, hnumber, rows, db₂, hprice, id, db₃, hid, items, db₄, hinsert, _, _,
    ⟨_, _, ⟨rfl, rfl⟩, _, _, ⟨hfresh, rfl⟩, _, _, ⟨-, rfl⟩, rfl⟩, rfl, rfl⟩ := hc
  obtain ⟨rfl, hrows⟩ := priceItems_spec hprice
  have hinserted := insertItems_spec hrows hinsert
  have hseq₁ := nextDocumentNumber_spec hnumber
  have hseq₃ := (randomUUID_spec hid).1
  have hseq₄ := hinserted.sequences
  rw [SequencesOnly] at hseq₁ hseq₃ hseq₄
  have hbuying : db₄.buying = db.base.buying := by rw [hseq₄, hseq₃, hseq₁]
  refine ⟨hinserted.priced .., rfl, rfl, rfl, rfl, ?_, ?_⟩
  · rw [← hbuying]
    exact hfresh
  · rw [hseq₄, hseq₃, hseq₁]

end PurchaseOrdersService

end FashionErp
