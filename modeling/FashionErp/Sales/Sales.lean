/-
`sales/services/sales.service.ts`: the life of a sale after it is created.

`confirm` issues the stock of a sale, `cancel`, `ship` and `deliver` move its two
statuses, `applyPayment` is what a payment does to it.
-/
import FashionErp.Inventory.StockLock
import FashionErp.Lib.Column
import FashionErp.Sales.Loyalty
import Mathlib.Data.List.Sort

namespace FashionErp

open Lib

/-- A sale row after `save(entity)`, when the save read `seen` and updates `row`.
Items are a relation and are not written. -/
def Sale.merge (entity seen row : Sale) : Sale where
  id := row.id
  creationKey := mergeCol entity.creationKey seen.creationKey row.creationKey
  creationHash := mergeCol entity.creationHash seen.creationHash row.creationHash
  saleNumber := mergeCol entity.saleNumber seen.saleNumber row.saleNumber
  saleType := mergeCol entity.saleType seen.saleType row.saleType
  salesAccountId := mergeCol entity.salesAccountId seen.salesAccountId row.salesAccountId
  transactionDate := mergeCol entity.transactionDate seen.transactionDate row.transactionDate
  subtotal := mergeCol entity.subtotal seen.subtotal row.subtotal
  discountAmount := mergeCol entity.discountAmount seen.discountAmount row.discountAmount
  taxAmount := mergeCol entity.taxAmount seen.taxAmount row.taxAmount
  notes := mergeCol entity.notes seen.notes row.notes
  createdBy := mergeCol entity.createdBy seen.createdBy row.createdBy
  companyId := mergeCol entity.companyId seen.companyId row.companyId
  customerId := mergeCol entity.customerId seen.customerId row.customerId
  branchId := mergeCol entity.branchId seen.branchId row.branchId
  warehouseId := mergeCol entity.warehouseId seen.warehouseId row.warehouseId
  status := mergeCol entity.status seen.status row.status
  grandTotal := mergeCol entity.grandTotal seen.grandTotal row.grandTotal
  paidAmount := mergeCol entity.paidAmount seen.paidAmount row.paidAmount
  balanceAmount := mergeCol entity.balanceAmount seen.balanceAmount row.balanceAmount
  currency := mergeCol entity.currency seen.currency row.currency
  fulfillmentStatus := mergeCol entity.fulfillmentStatus seen.fulfillmentStatus
    row.fulfillmentStatus
  shippedAt := mergeCol entity.shippedAt seen.shippedAt row.shippedAt
  deliveredAt := mergeCol entity.deliveredAt seen.deliveredAt row.deliveredAt
  updatedBy := mergeCol entity.updatedBy seen.updatedBy row.updatedBy
  items := row.items

namespace SalesService

open Lib.Tx

def findByIdInCompany (id companyId : Uuid) : DbTx Sale := do
  let db ← get
  orReject ((db.selling.sales.find? id).filter fun s => s.companyId = companyId)
    (appException .NotFound "Sale not found")

def ALLOWED_TRANSITIONS : SaleStatus → List SaleStatus
  | .Draft => [.Confirmed, .Cancelled]
  | .Confirmed => []
  | .Cancelled => []

def assertTransitionAllowed (current target : SaleStatus) : DbTx Unit :=
  let currentValue := current.value
  let targetValue := target.value
  rejectIf (target ∉ ALLOWED_TRANSITIONS current)
    (appException .Conflict s!"Cannot transition sale from {currentValue} to {targetValue}")

/-- `manager.save(Sale, sale)` when nothing else writes the row meanwhile. -/
def saveSale (sale : Sale) : DbTx Unit :=
  modify fun db => { db with selling := { db.selling with sales := db.selling.sales.save sale } }

/-! ## `confirm` -/

def baseQuantity (item : SaleItem) : ℤ := item.baseQuantitySnapshot.getD item.quantity

def sortedItems (sale : Sale) : List SaleItem :=
  sale.items.insertionSort fun a b => a.productVariantId ≤ b.productVariantId

def assertSufficient (lockedStocks : JsMap Uuid WarehouseStock) (item : SaleItem) :
    DbTx Unit := do
  let stock ← orReject (lockedStocks.lookup item.productVariantId) .typeError
  let id := item.productVariantId
  let requested := baseQuantity item
  let available := stock.onHandQuantity
  rejectIf (stock.onHandQuantity < baseQuantity item)
    (appException .Conflict s!"Insufficient stock for product variant {id}: requested {requested}, available {available}")

def issueMovement (userId saleId warehouseId : Uuid) (item : SaleItem) (quantityAfter : ℤ) :
    StockMovement where
  warehouseId := warehouseId
  productVariantId := item.productVariantId
  movementType := .SaleIssue
  quantityChange := -baseQuantity item
  quantityAfter := quantityAfter
  referenceType := .Sale
  referenceId := saleId
  createdBy := some userId

def issueItem (userId saleId warehouseId : Uuid) (lockedStocks : JsMap Uuid WarehouseStock)
    (item : SaleItem) : DbTx (JsMap Uuid WarehouseStock) := do
  let stock ← orReject (lockedStocks.lookup item.productVariantId) .typeError
  let newStock := { stock with onHandQuantity := stock.onHandQuantity - baseQuantity item }
  updateOnHand newStock newStock.onHandQuantity
  saveMovement (issueMovement userId saleId warehouseId item newStock.onHandQuantity)
  return lockedStocks.insert item.productVariantId newStock

/-- What `confirm` writes into the entity. -/
def markConfirmed (userId : Uuid) (sale : Sale) : Sale :=
  { sale with
    status := .Confirmed, fulfillmentStatus := some .PendingShipment, updatedBy := some userId }

/-- The part of the transaction of `confirm` that moves stock. -/
def issueStock (userId warehouseId : Uuid) (sale : Sale) : DbTx Unit := do
  let items := sortedItems sale
  let lockedStocks ← lockRowsBy (stockKey warehouseId) (items.map (·.productVariantId))
  items.forM (assertSufficient lockedStocks)
  let _lockedStocks ← items.foldlM (issueItem userId sale.id warehouseId) lockedStocks
  return ()

/-- The transaction of `confirm`, for a sale loaded before it. -/
def confirmTransaction (userId warehouseId : Uuid) (sale : Sale) : DbTx Sale := do
  issueStock userId warehouseId sale
  let confirmedSale := markConfirmed userId sale
  saveSale confirmedSale
  let _earned ← LoyaltyService.earnForSale confirmedSale.companyId confirmedSale.customerId
    confirmedSale.id confirmedSale.grandTotal userId
  return confirmedSale

/-- The checks of `confirm` before its transaction; the result is the warehouse. -/
def confirmGuard (sale : Sale) : DbTx Uuid := do
  assertTransitionAllowed sale.status .Confirmed
  orReject sale.warehouseId
    (appException .ValidationError "Sale.warehouseId is required to confirm a sale (stock must be issued from a specific warehouse)")

def confirm (id companyId userId : Uuid) : DbTx Sale := do
  let sale ← findByIdInCompany id companyId
  let warehouseId ← confirmGuard sale
  confirmTransaction userId warehouseId sale

/-! ## `cancel`, `ship`, `deliver` -/

/-- What `cancel` writes into the entity. -/
def markCancelled (userId : Uuid) (sale : Sale) : Sale :=
  { sale with status := .Cancelled, updatedBy := some userId }

def cancel (id companyId userId : Uuid) : DbTx Sale := do
  let sale ← findByIdInCompany id companyId
  assertTransitionAllowed sale.status .Cancelled
  saveSale (markCancelled userId sale)
  return markCancelled userId sale

/-- The check of `ship`. -/
def shipGuard (sale : Sale) : DbTx Unit :=
  let current := (sale.fulfillmentStatus.map (·.value)).getD "not yet confirmed"
  rejectIf (sale.fulfillmentStatus ≠ some .PendingShipment)
    (appException .Conflict s!"Cannot mark this sale as shipped from its current fulfillment state ({current})")

/-- What `ship` writes into the entity. -/
def markShipped (userId : Uuid) (now : Instant) (sale : Sale) : Sale :=
  { sale with
    fulfillmentStatus := some .Shipped, shippedAt := some now, updatedBy := some userId }

def ship (id companyId userId : Uuid) (now : Instant) : DbTx Sale := do
  let sale ← findByIdInCompany id companyId
  shipGuard sale
  saveSale (markShipped userId now sale)
  return markShipped userId now sale

/-- The check of `deliver`. -/
def deliverGuard (sale : Sale) : DbTx Unit :=
  rejectIf (sale.fulfillmentStatus ≠ some .Shipped)
    (appException .Conflict "Only a shipped sale can be marked as delivered")

/-- What `deliver` writes into the entity. -/
def markDelivered (userId : Uuid) (now : Instant) (sale : Sale) : Sale :=
  { sale with
    fulfillmentStatus := some .Delivered, deliveredAt := some now, updatedBy := some userId }

def deliver (id companyId userId : Uuid) (now : Instant) : DbTx Sale := do
  let sale ← findByIdInCompany id companyId
  deliverGuard sale
  saveSale (markDelivered userId now sale)
  return markDelivered userId now sale

/-! ## `applyPayment` -/

def markPaid (userId : Uuid) (allocatedAmount : Cents) (sale : Sale) : Sale :=
  { sale with
    paidAmount := sale.paidAmount + allocatedAmount
    balanceAmount := sale.grandTotal - (sale.paidAmount + allocatedAmount)
    updatedBy := some userId }

def assertPayable (id : Uuid) (allocatedAmount : Cents) (sale : Sale) : DbTx Unit :=
  let allocating := toFixed2 allocatedAmount
  let paid := toFixed2 sale.paidAmount
  let total := toFixed2 sale.grandTotal
  rejectIf (sale.grandTotal < sale.paidAmount + allocatedAmount)
    (appException .Conflict s!"Allocating {allocating} to sale {id} would exceed its grand total (already paid {paid} of {total})")

def applyPayment (id companyId : Uuid) (allocatedAmount : Cents) (userId : Uuid) :
    DbTx Unit := do
  let sale ← findByIdInCompany id companyId
  assertPayable id allocatedAmount sale
  saveSale (markPaid userId allocatedAmount sale)

/-! ## What a confirmation posts -/

def postings (warehouseId : Uuid) (items : List SaleItem) : List (StockKey × ℤ) :=
  items.map fun i => (stockKey warehouseId i.productVariantId, -baseQuantity i)

def EachLineCovered (db : Db) (warehouseId : Uuid) (sale : Sale) : Prop :=
  ∀ item ∈ sale.items,
    baseQuantity item ≤ onHandIn db.stock.warehouseStock (stockKey warehouseId item.productVariantId)

/-- The database after the lines `done` are issued, with the rows in memory. -/
def Issued (warehouseId : Uuid) (db : Db) (locked : JsMap Uuid WarehouseStock)
    (done : List SaleItem) (rows : JsMap Uuid WarehouseStock) (db' : Db) : Prop :=
  ∃ stocks ms, db' = (db.setStocks stocks).addMovements ms ∧
    Mirrors (stockKey warehouseId) rows stocks ∧ (∀ k ∈ locked, k ∈ rows) ∧
    (∀ k, onHandIn stocks k =
      onHandIn db.stock.warehouseStock k + net (postings warehouseId done) k) ∧
    ms.map StockMovement.posting = postings warehouseId done

theorem stockKey_injective (warehouseId : Uuid) : Function.Injective (stockKey warehouseId) :=
  fun _ _ h => (Prod.mk.inj h).2

variable {userId warehouseId : Uuid} {db db' : Db} {sale : Sale} {item : SaleItem}
  {rows : JsMap Uuid WarehouseStock}

theorem issueItem_succeeds {saleId : Uuid} {locked : JsMap Uuid WarehouseStock}
    {done : List SaleItem} (hI : Issued warehouseId db locked done rows db')
    (hitem : item.productVariantId ∈ locked) :
    Succeeds (issueItem userId saleId warehouseId rows item) db'
      (Issued warehouseId db locked (done ++ [item])) := by
  obtain ⟨stocks, ms, rfl, hmir, hdom, hon, hms⟩ := hI
  obtain ⟨stock, hstock⟩ := lookup_of_mem (hdom _ hitem)
  have hmir' := hmir.write (stockKey_injective warehouseId) hstock
    (stock.onHandQuantity - baseQuantity item)
  refine Succeeds.orReject_bind hstock ?_
  refine updateOnHand_bind stock (hmir.find? hstock) ?_
  refine Succeeds.modify_bind (Succeeds.pure ⟨_, ms ++ [issueMovement userId saleId warehouseId
    item (stock.onHandQuantity - baseQuantity item)], ?_, hmir', ?_, ?_, ?_⟩)
  · rw [Db.addMovements_setStocks, Db.addMovements_addMovements]
    rfl
  · intro k hk
    rw [AList.mem_insert]
    exact .inr (hdom k hk)
  · intro k
    rw [onHandIn_save (hmir _ _ hstock), hon, postings, postings, List.map_append, net_append,
      sub_sub_cancel_left, add_assoc, List.map_singleton, net_singleton]
  · rw [List.map_append, hms, postings, postings, List.map_append]
    rfl

theorem mem_sortedItems : item ∈ sortedItems sale ↔ item ∈ sale.items := by
  rw [sortedItems, List.mem_insertionSort]

theorem commits_assertSufficient (db : Db)
    (hmir : Mirrors (stockKey warehouseId) rows db.stock.warehouseStock)
    (hitem : item.productVariantId ∈ rows) (u : Unit) (db' : Db) :
    Commits (assertSufficient rows item) db u db' ↔
      baseQuantity item ≤
        onHandIn db.stock.warehouseStock (stockKey warehouseId item.productVariantId) ∧
      db = db' := by
  obtain ⟨stock, hstock⟩ := lookup_of_mem hitem
  rw [← hmir.onHand hstock]
  simp only [assertSufficient, commits_bind, commits_orReject, commits_rejectIf, hstock, not_lt]
  constructor
  · rintro ⟨_, _, ⟨⟨⟩, rfl⟩, hcov, rfl⟩
    exact ⟨hcov, rfl⟩
  · rintro ⟨hcov, rfl⟩
    exact ⟨stock, db, ⟨rfl, rfl⟩, hcov, rfl⟩

theorem issueStock_covered {u : Unit} (h : Commits (issueStock userId warehouseId sale) db u db') :
    EachLineCovered db warehouseId sale := by
  simp only [issueStock, commits_bind] at h
  obtain ⟨locked, db₁, hlock, _, db₂, hsuff, -⟩ := h
  obtain ⟨stocks, rfl, hlocked, hmir, hon⟩ := (lockRowsBy_succeeds _ _ db).of_commits hlock
  obtain ⟨hcov, -⟩ := (commits_forM_check
    (fun item hitem u s' => commits_assertSufficient (db.setStocks stocks) hmir
      (hlocked _ (List.mem_map_of_mem hitem)) u s') _ _).1 hsuff
  intro item hitem
  rw [← hon]
  exact hcov item (mem_sortedItems.2 hitem)

theorem issueStock_succeeds (hcov : EachLineCovered db warehouseId sale) :
    Succeeds (issueStock userId warehouseId sale) db fun _ db' =>
      ∃ stocks ms, db' = (db.setStocks stocks).addMovements ms ∧
        Posts db.stock db'.stock (postings warehouseId (sortedItems sale)) := by
  refine (lockRowsBy_succeeds _ ((sortedItems sale).map (·.productVariantId)) db).bind ?_
  rintro locked _ ⟨stocks, rfl, hlocked, hmir, hon⟩
  have hmem : ∀ item ∈ sortedItems sale, item.productVariantId ∈ locked :=
    fun item hitem => hlocked _ (List.mem_map_of_mem hitem)
  have hsuff := (commits_forM_check (fun item hitem u s' =>
    commits_assertSufficient (db.setStocks stocks) hmir (hmem item hitem) u s') ⟨⟩
    (db.setStocks stocks)).2
    ⟨fun item hitem => by
      rw [Db.setStocks_stocks, hon]
      exact hcov item (mem_sortedItems.1 hitem), rfl⟩
  refine hsuff.succeeds.bind ?_
  rintro _ _ ⟨-, rfl⟩
  refine (foldlM_succeeds (fun done rows db' => Issued warehouseId (db.setStocks stocks) locked
      done rows db')
    (fun done item rest rows s heq hI => issueItem_succeeds hI (hmem item (by rw [heq]; simp)))
    ⟨stocks, [], by simp, hmir, fun _ hk => hk, fun k => by simp [postings], rfl⟩).bind ?_
  rintro rows _ ⟨stocks', ms, rfl, -, -, hissued, hms⟩
  refine Succeeds.pure ⟨stocks', ms, rfl, posts_iff.2 ⟨fun k => ?_, ?_⟩⟩
  · rw [Db.addMovements_stocks, Db.setStocks_stocks, hissued, Db.setStocks_stocks, hon]
  · rw [Db.addMovements_movements, List.map_append, hms]
    rfl

theorem confirmTransaction_succeeds (hcov : EachLineCovered db warehouseId sale) :
    Succeeds (confirmTransaction userId warehouseId sale) db fun saved db' =>
      saved = markConfirmed userId sale ∧
      Posts db.stock db'.stock (postings warehouseId (sortedItems sale)) ∧
      db'.selling.sales = db.selling.sales.save (markConfirmed userId sale) ∧
      db'.selling.saleReturns = db.selling.saleReturns := by
  refine (issueStock_succeeds hcov).bind ?_
  rintro _ _ ⟨stocks, ms, rfl, hposts⟩
  refine Succeeds.modify_bind ?_
  refine (LoyaltyService.earnForSale_succeeds _ _ _ _ _ _).bind ?_
  intro _ db' hloyal
  refine Succeeds.pure ⟨rfl, ?_, ?_, ?_⟩
  · rw [hloyal]
    exact hposts
  · rw [hloyal]
    rfl
  · rw [hloyal]
    rfl

variable {saved : Sale}

theorem confirmTransaction_covered
    (h : Commits (confirmTransaction userId warehouseId sale) db saved db') :
    EachLineCovered db warehouseId sale := by
  simp only [confirmTransaction, commits_bind] at h
  obtain ⟨_, _, hissue, -⟩ := h
  exact issueStock_covered hissue

theorem confirmTransaction_posts
    (h : Commits (confirmTransaction userId warehouseId sale) db saved db') :
    Posts db.stock db'.stock (postings warehouseId (sortedItems sale)) :=
  ((confirmTransaction_succeeds (confirmTransaction_covered h)).of_commits h).2.1

/-! ## The whole request -/

/-- Everything `confirm` checks, apart from the interplay of the lines. -/
def Accepted (db : Db) (id companyId : Uuid) (warehouseId : Uuid) (sale : Sale) : Prop :=
  (db.selling.sales.find? id).filter (fun s => s.companyId = companyId) = some sale ∧
    sale.status = .Draft ∧ sale.warehouseId = some warehouseId ∧
    EachLineCovered db warehouseId sale

theorem commits_findByIdInCompany (id companyId : Uuid) (db : Db) (sale : Sale) (db' : Db) :
    Commits (findByIdInCompany id companyId) db sale db' ↔
      (db.selling.sales.find? id).filter (fun s => s.companyId = companyId) = some sale ∧
        db = db' := by
  simp only [findByIdInCompany, commits_lookup]

theorem commits_applyPayment (id companyId : Uuid) (amount : Cents) (userId : Uuid) (db : Db)
    (u : Unit) (db' : Db) :
    Commits (applyPayment id companyId amount userId) db u db' ↔
      ∃ sale, db.selling.sales.find? id = some sale ∧ sale.companyId = companyId ∧
        sale.paidAmount + amount ≤ sale.grandTotal ∧
        db' = { db with selling :=
          { db.selling with sales := db.selling.sales.save (markPaid userId amount sale) } } := by
  simp only [applyPayment, assertPayable, saveSale, commits_bind, commits_findByIdInCompany,
    commits_rejectIf, commits_modify, Option.filter_eq_some_iff, decide_eq_true_eq, not_lt]
  constructor
  · rintro ⟨sale, _, ⟨⟨hsale, hcompany⟩, rfl⟩, _, _, ⟨hroom, rfl⟩, rfl⟩
    exact ⟨sale, hsale, hcompany, hroom, rfl⟩
  · rintro ⟨sale, hsale, hcompany, hroom, rfl⟩
    exact ⟨sale, db, ⟨⟨hsale, hcompany⟩, rfl⟩, ⟨⟩, db, ⟨hroom, rfl⟩, rfl⟩

theorem allowed_iff (current target : SaleStatus) :
    target ∈ ALLOWED_TRANSITIONS current ↔ current = .Draft ∧ target ≠ .Draft := by
  cases current <;> cases target <;> simp [ALLOWED_TRANSITIONS]

theorem commits_confirmGuard (sale : Sale) (db : Db) (warehouseId : Uuid) (db' : Db) :
    Commits (confirmGuard sale) db warehouseId db' ↔
      (sale.status = .Draft ∧ sale.warehouseId = some warehouseId) ∧ db = db' := by
  simp only [confirmGuard, assertTransitionAllowed, commits_bind, commits_rejectIf,
    commits_orReject, not_not, allowed_iff]
  constructor
  · rintro ⟨_, _, ⟨⟨hdraft, -⟩, rfl⟩, hw, rfl⟩
    exact ⟨⟨hdraft, hw⟩, rfl⟩
  · rintro ⟨⟨hdraft, hw⟩, rfl⟩
    exact ⟨⟨⟩, db, ⟨⟨hdraft, by decide⟩, rfl⟩, hw, rfl⟩

variable {companyId : Uuid}

theorem confirm_accepted {id : Uuid} (h : Commits (confirm id companyId userId) db saved db') :
    ∃ warehouseId sale, Accepted db id companyId warehouseId sale ∧
      Commits (confirmTransaction userId warehouseId sale) db saved db' := by
  simp only [confirm, commits_bind, commits_findByIdInCompany, commits_confirmGuard] at h
  obtain ⟨sale, _, ⟨hfind, rfl⟩, warehouseId, _, ⟨⟨hdraft, hw⟩, rfl⟩, htx⟩ := h
  exact ⟨warehouseId, sale, ⟨hfind, hdraft, hw, confirmTransaction_covered htx⟩, htx⟩

theorem confirm_spec {id : Uuid} (h : Commits (confirm id companyId userId) db saved db') :
    ∃ sale warehouseId, db.selling.sales.find? id = some sale ∧
      sale.warehouseId = some warehouseId ∧ saved = markConfirmed userId sale ∧
      Posts db.stock db'.stock (postings warehouseId (sortedItems sale)) ∧
      db'.selling.sales = db.selling.sales.save saved ∧
      db'.selling.saleReturns = db.selling.saleReturns := by
  obtain ⟨warehouseId, sale, ⟨hfind, -, hwarehouse, hcovered⟩, htx⟩ := confirm_accepted h
  obtain ⟨rfl, hposts, hsales, hreturns⟩ := (confirmTransaction_succeeds hcovered).of_commits htx
  exact ⟨sale, warehouseId, (Option.filter_eq_some_iff.1 hfind).1, hwarehouse, rfl, hposts, hsales,
    hreturns⟩

theorem confirm_succeeds {id : Uuid} (userId : Uuid)
    (h : Accepted db id companyId warehouseId sale) :
    Succeeds (confirm id companyId userId) db fun _ db' =>
      Posts db.stock db'.stock (postings warehouseId (sortedItems sale)) := by
  obtain ⟨hfind, hdraft, hw, hcov⟩ := h
  refine ((commits_findByIdInCompany _ _ _ _ _).2 ⟨hfind, rfl⟩).succeeds.bind ?_
  rintro _ _ ⟨rfl, rfl⟩
  refine ((commits_confirmGuard _ _ _ _).2 ⟨⟨hdraft, hw⟩, rfl⟩).succeeds.bind ?_
  rintro _ _ ⟨rfl, rfl⟩
  exact (confirmTransaction_succeeds hcov).mono fun _ _ hpost => hpost.2.1

end SalesService

end FashionErp
