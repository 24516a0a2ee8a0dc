/-
`sales-returns/services/sale-returns.service.ts`: making a return, confirming,
cancelling and refunding it.

`create` takes the lines in the order of their sale item and checks each against what
is left of it: what was sold less what returns that are not cancelled have taken.
-/
import FashionErp.Inventory.StockLock
import FashionErp.Sales.Loyalty
import Mathlib.Data.List.Sort

namespace FashionErp.SaleReturnsService

open Lib Lib.Tx

def findByIdInCompany (id companyId : Uuid) : DbTx SaleReturn := do
  let db ← get
  orReject ((db.selling.saleReturns.find? id).filter fun r => r.companyId = companyId)
    (appException .NotFound "Sale return not found")

/-- `manager.save(SaleReturn, saleReturn)`, and `manager.update` of a locked one. -/
def saveReturn (saleReturn : SaleReturn) : DbTx Unit :=
  modify fun db =>
    { db with selling := { db.selling with
        saleReturns := db.selling.saleReturns.save saleReturn } }

/-! ## `create` -/

structure CreateSaleReturnItemDto where
  saleItemId : Uuid
  quantity : ℕ
  discountAmount : Option ℕ
  condition : Option SaleReturnItemCondition

structure CreateSaleReturnDto where
  saleId : Uuid
  reason : Option String
  notes : Option String
  items : List CreateSaleReturnItemDto

/-- The `returned` sum: what returns not cancelled have taken of a sale item. -/
def returnedQuantity (db : Db) (saleItemId : Uuid) : ℤ :=
  let returns := db.selling.saleReturns.rows.filter fun r => r.status ≠ .Cancelled
  (((returns.flatMap (·.items)).filter fun i => i.saleItemId = saleItemId).map (·.quantity)).sum

def getRemainingReturnableQuantity (saleItemId : Uuid) (originalQuantity : ℤ) : DbTx ℤ := do
  let db ← get
  return originalQuantity - returnedQuantity db saleItemId

def findReturnableSale (companyId saleId : Uuid) : DbTx Sale := do
  let db ← get
  let sale ← orReject
    ((db.selling.sales.find? saleId).filter fun s => s.companyId = companyId)
    (appException .ValidationError "saleId does not reference a sale in the specified company")
  let status := sale.status.value
  rejectIf (sale.status ≠ .Confirmed)
    (appException .UnprocessableEntity s!"Cannot return items from a sale in status {status}; only CONFIRMED sales are returnable")
  return sale

def lockSaleItem (saleId saleItemId : Uuid) : DbTx SaleItem := do
  let db ← get
  let items := ((db.selling.sales.find? saleId).map (·.items)).getD []
  orReject (items.find? fun i => i.id = saleItemId)
    (appException .ValidationError s!"saleItemId {saleItemId} does not belong to sale {saleId}")

/-- The rest of an iteration of the loop of `create`: check the line and push its row. -/
def acceptLine (saleItem : SaleItem) (remaining : ℤ) (itemsToCreate : List SaleReturnItem)
    (itemDto : CreateSaleReturnItemDto) : DbTx (List SaleReturnItem) := do
  let itemId := saleItem.id
  let quantity : ℤ := itemDto.quantity
  rejectIf (remaining < quantity)
    (appException .Conflict
      s!"Cannot return {quantity} of sale item {itemId}: only {remaining} remain returnable")
  let discountAmount : Cents := (itemDto.discountAmount.getD 0 : ℕ)
  let lineSubtotal := saleItem.unitPriceSnapshot * quantity
  rejectIf (lineSubtotal < discountAmount)
    (appException .ValidationError
      s!"discountAmount cannot exceed the line subtotal for sale item {itemId}")
  return itemsToCreate ++
    [{ saleItemId := saleItem.id, productVariantId := saleItem.productVariantId,
       quantity := quantity, unitPriceSnapshot := saleItem.unitPriceSnapshot,
       discountAmount := discountAmount, lineTotal := lineSubtotal - discountAmount,
       condition := itemDto.condition.getD .Restock,
       productNameSnapshot := saleItem.productNameSnapshot, skuSnapshot := saleItem.skuSnapshot }]

/-- One iteration of the loop of `create`. -/
def createItem (saleId : Uuid) (itemsToCreate : List SaleReturnItem)
    (itemDto : CreateSaleReturnItemDto) : DbTx (List SaleReturnItem) := do
  let saleItem ← lockSaleItem saleId itemDto.saleItemId
  let remaining ← getRemainingReturnableQuantity saleItem.id saleItem.quantity
  acceptLine saleItem remaining itemsToCreate itemDto

def generateReturnNumber (companyId : Uuid) (year : ℕ) : DbTx String :=
  nextDocumentNumber .SaleReturn "RET" companyId year

def subtotal (items : List SaleReturnItem) : Cents :=
  (items.map fun i => i.unitPriceSnapshot * i.quantity).sum

def discountTotal (items : List SaleReturnItem) : Cents := (items.map (·.discountAmount)).sum

/-- The number and the inserts of `create`. -/
def insertReturn (companyId userId : Uuid) (now : Instant) (sale : Sale)
    (dto : CreateSaleReturnDto) (itemsToCreate : List SaleReturnItem) : DbTx SaleReturn := do
  let returnNumber ← generateReturnNumber companyId now.getUTCFullYear
  let id ← randomUUID
  let db ← get
  rejectIf (db.selling.saleReturns.find? id).isSome (.duplicateEntry "PRIMARY")
  let saleReturn : SaleReturn :=
    { id := id, returnNumber := returnNumber, companyId := companyId, branchId := sale.branchId,
      saleId := sale.id, customerId := sale.customerId, status := .Draft, reason := dto.reason,
      notes := dto.notes, subtotal := subtotal itemsToCreate,
      discountAmount := discountTotal itemsToCreate,
      refundAmount := subtotal itemsToCreate - discountTotal itemsToCreate, refundedAmount := 0,
      currency := sale.currency, createdBy := some userId, confirmedBy := none,
      confirmedAt := none, items := itemsToCreate }
  saveReturn saleReturn
  return saleReturn

def CreateSaleReturnDto.sortedItems (dto : CreateSaleReturnDto) : List CreateSaleReturnItemDto :=
  dto.items.insertionSort fun a b => a.saleItemId ≤ b.saleItemId

def create (companyId userId : Uuid) (now : Instant) (dto : CreateSaleReturnDto) :
    DbTx SaleReturn := do
  let sale ← findReturnableSale companyId dto.saleId
  let itemsToCreate ← dto.sortedItems.foldlM (createItem sale.id) []
  insertReturn companyId userId now sale dto itemsToCreate

/-! ## `confirm` -/

def resolveWarehouseIdForReturnConfirmation (sale : Sale) (companyId : Uuid) : DbTx Uuid := do
  match sale.warehouseId with
  | some warehouseId => return warehouseId
  | none =>
    let branchId ← orReject sale.branchId
      (appException .ValidationError "Sale.warehouseId is missing and the legacy sale has no branchId, so the return cannot be confirmed automatically")
    let db ← get
    let activeWarehouses := db.master.warehouses.rows.filter fun w =>
      w.companyId = companyId ∧ w.branchId = branchId ∧ w.status = .Active ∧ !w.deleted
    match activeWarehouses with
    | [warehouse] =>
      modify fun db =>
        { db with selling := { db.selling with
            sales := db.selling.sales.save { sale with warehouseId := some warehouse.id } } }
      return warehouse.id
    | [] =>
      throw (appException .ValidationError "Sale.warehouseId is missing and this branch has no active warehouse to restock into")
    | _ :: _ :: _ =>
      throw (appException .ValidationError "Sale.warehouseId is missing and this branch has multiple active warehouses; assign the original sale warehouse before confirming the return")

def returnMovement (userId saleReturnId warehouseId : Uuid) (item : SaleReturnItem)
    (quantityChange quantityAfter : ℤ) : StockMovement where
  warehouseId := warehouseId
  productVariantId := item.productVariantId
  movementType := .SaleReturn
  quantityChange := quantityChange
  quantityAfter := quantityAfter
  referenceType := .SaleReturn
  referenceId := saleReturnId
  createdBy := some userId

def returnItem (userId saleReturnId warehouseId : Uuid) (item : SaleReturnItem) : DbTx Unit := do
  match item.condition with
  | .Restock =>
    let stock ← lockWarehouseStockRow (stockKey warehouseId item.productVariantId)
    let newQuantity := stock.onHandQuantity + item.quantity
    updateOnHand stock newQuantity
    saveMovement (returnMovement userId saleReturnId warehouseId item item.quantity newQuantity)
  | .Damaged =>
    let stock ← lockWarehouseStockRow (stockKey warehouseId item.productVariantId)
    saveMovement (returnMovement userId saleReturnId warehouseId item 0 stock.onHandQuantity)

/-- `Math.floor(originalEarn.pointsDelta * Math.min(proportion, 1))`, with the
proportion `refundAmount / grandTotal` of a positive grand total. -/
def reversalPoints (pointsDelta : ℤ) (refundAmount grandTotal : Cents) : ℤ :=
  if grandTotal ≤ refundAmount then pointsDelta else pointsDelta * refundAmount / grandTotal

/-- The loyalty step of `confirm`. -/
def reverseLoyalty (companyId userId : Uuid) (sale : Sale) (saleReturn : SaleReturn) :
    DbTx Unit := do
  if 0 < sale.grandTotal then
    let db ← get
    match LoyaltyService.findBySource db companyId "SALE" sale.id with
    | none => return ()
    | some originalEarn =>
      let _reversal ← LoyaltyService.reverseForSaleReturn companyId saleReturn.customerId sale.id
        saleReturn.id
        (reversalPoints originalEarn.pointsDelta saleReturn.refundAmount sale.grandTotal) userId
      return ()
  else
    return ()

def sortedItems (saleReturn : SaleReturn) : List SaleReturnItem :=
  saleReturn.items.insertionSort fun a b => a.productVariantId ≤ b.productVariantId

def confirm (id companyId userId : Uuid) (now : Instant) : DbTx SaleReturn := do
  let saleReturn ← findByIdInCompany id companyId
  let current := saleReturn.status.value
  rejectIf (saleReturn.status ≠ .Draft)
    (appException .UnprocessableEntity s!"Cannot confirm a sale return in status {current}")
  let db ← get
  let sale ← orReject (db.selling.sales.find? saleReturn.saleId) .entityNotFound
  let warehouseId ← resolveWarehouseIdForReturnConfirmation sale companyId
  (sortedItems saleReturn).forM (returnItem userId saleReturn.id warehouseId)
  reverseLoyalty companyId userId sale saleReturn
  let confirmed :=
    { saleReturn with
      status := .Confirmed, confirmedBy := some userId, confirmedAt := some now }
  saveReturn confirmed
  return confirmed

/-! ## `cancel` and `applyRefund` -/

def cancel (id companyId : Uuid) : DbTx SaleReturn := do
  let saleReturn ← findByIdInCompany id companyId
  let current := saleReturn.status.value
  rejectIf (saleReturn.status ≠ .Draft)
    (appException .UnprocessableEntity s!"Cannot cancel a sale return in status {current}")
  let cancelled := { saleReturn with status := .Cancelled }
  saveReturn cancelled
  return cancelled

def applyRefund (id companyId : Uuid) (allocatedAmount : Cents) : DbTx Unit := do
  let saleReturn ← findByIdInCompany id companyId
  let current := saleReturn.status.value
  rejectIf (saleReturn.status ≠ .Confirmed ∧ saleReturn.status ≠ .Refunded)
    (appException .UnprocessableEntity s!"Cannot refund a sale return in status {current}")
  let newRefunded := saleReturn.refundedAmount + allocatedAmount
  let refunding := toFixed2 allocatedAmount
  let refunded := toFixed2 saleReturn.refundedAmount
  let eligible := toFixed2 saleReturn.refundAmount
  rejectIf (saleReturn.refundAmount < newRefunded)
    (appException .Conflict s!"Refunding {refunding} against sale return {id} would exceed its eligible refund amount (already refunded {refunded} of {eligible})")
  saveReturn { saleReturn with
    refundedAmount := newRefunded
    status := if saleReturn.refundAmount ≤ newRefunded then .Refunded else .Confirmed }

/-! ## What a creation does -/

def draws (items : List SaleReturnItem) : List (Uuid × ℤ) :=
  items.map fun i => (i.saleItemId, i.quantity)

def counts (saleItemId : Uuid) (saleReturn : SaleReturn) : ℤ :=
  if saleReturn.status ≠ .Cancelled then net (draws saleReturn.items) saleItemId else 0

theorem returnedQuantity_eq (db : Db) (saleItemId : Uuid) :
    returnedQuantity db saleItemId = db.selling.saleReturns.sum (counts saleItemId) := by
  have hnet : returnedQuantity db saleItemId = net ((db.selling.saleReturns.rows.filter fun r =>
      r.status ≠ .Cancelled).flatMap fun r => draws r.items) saleItemId := by
    simp only [returnedQuantity, net, draws, List.filter_map, List.map_map, Function.comp_def,
      ← List.map_flatMap]
  rw [hnet, net_filter_flatMap]
  simp only [Table.sum, decide_eq_true_eq]
  rfl

variable {companyId userId : Uuid} {sale : Sale} {db db' : Db} {rows : List SaleReturnItem}
  {now : Instant} {saleReturn : SaleReturn}

variable {saleId : Uuid}

theorem findReturnableSale_spec (h : Commits (findReturnableSale companyId saleId) db sale db') :
    db = db' ∧ db.selling.sales.find? saleId = some sale ∧ sale.status = .Confirmed := by
  simp only [findReturnableSale, commits_bind, commits_get, commits_orReject, commits_rejectIf,
    commits_pure] at h
  obtain ⟨_, _, ⟨rfl, rfl⟩, found, _, ⟨hfind, rfl⟩, _, _, ⟨hstatus, rfl⟩, rfl, rfl⟩ := h
  exact ⟨rfl, (Option.filter_eq_some_iff.1 hfind).1, not_not.1 hstatus⟩

theorem findReturnableSale_company (h : Commits (findReturnableSale companyId saleId) db sale db') :
    sale.companyId = companyId := by
  simp only [findReturnableSale, commits_bind, commits_get, commits_orReject, commits_rejectIf,
    commits_pure] at h
  obtain ⟨_, _, ⟨rfl, rfl⟩, found, _, ⟨hfind, rfl⟩, _, _, ⟨-, rfl⟩, rfl, -⟩ := h
  exact of_decide_eq_true (Option.filter_eq_some_iff.1 hfind).2

theorem lockSaleItem_spec {saleItemId : Uuid} {saleItem : SaleItem}
    (h : Commits (lockSaleItem saleId saleItemId) db saleItem db') :
    db = db' ∧ saleItem.id = saleItemId ∧
      ∃ sale, db.selling.sales.find? saleId = some sale ∧ saleItem ∈ sale.items := by
  simp only [lockSaleItem, commits_bind, commits_get, commits_orReject] at h
  obtain ⟨_, _, ⟨rfl, rfl⟩, hfind, rfl⟩ := h
  have hid := List.find?_some hfind
  have hmem := List.mem_of_find?_eq_some hfind
  refine ⟨rfl, of_decide_eq_true hid, ?_⟩
  cases hsale : db.selling.sales.find? saleId with
  | none =>
    rw [hsale] at hmem
    exact absurd hmem List.not_mem_nil
  | some sale =>
    rw [hsale] at hmem
    exact ⟨sale, rfl, hmem⟩

theorem acceptLine_spec {saleItem : SaleItem} {remaining : ℤ} {rows' : List SaleReturnItem}
    {itemDto : CreateSaleReturnItemDto}
    (h : Commits (acceptLine saleItem remaining rows itemDto) db rows' db') :
    db = db' ∧ ∃ row : SaleReturnItem, rows' = rows ++ [row] ∧ row.saleItemId = saleItem.id ∧
      row.productVariantId = saleItem.productVariantId ∧
      row.unitPriceSnapshot = saleItem.unitPriceSnapshot ∧
      0 ≤ row.quantity ∧ row.quantity ≤ remaining ∧ 0 ≤ row.discountAmount ∧
      row.discountAmount ≤ row.unitPriceSnapshot * row.quantity := by
  simp only [acceptLine, commits_bind, commits_rejectIf, commits_pure] at h
  obtain ⟨_, _, ⟨hquantity, rfl⟩, _, _, ⟨hdiscount, rfl⟩, rfl, rfl⟩ := h
  exact ⟨rfl, _, rfl, rfl, rfl, rfl, Int.natCast_nonneg _, Int.not_lt.1 hquantity,
    Int.natCast_nonneg _, Int.not_lt.1 hdiscount⟩

structure ForItem (sale : Sale) (row : SaleReturnItem) : Prop where
  item : ∃ item ∈ sale.items, row.saleItemId = item.id ∧
    row.productVariantId = item.productVariantId ∧ row.unitPriceSnapshot = item.unitPriceSnapshot
  quantity_nonneg : 0 ≤ row.quantity
  discount_le : row.discountAmount ≤ row.unitPriceSnapshot * row.quantity

def requested (items : List CreateSaleReturnItemDto) : List (Uuid × ℤ) :=
  items.map fun i => (i.saleItemId, (i.quantity : ℤ))

def requestedDiscount (items : List CreateSaleReturnItemDto) : Cents :=
  (items.map fun i => ((i.discountAmount.getD 0 : ℕ) : ℤ)).sum

/-- What the loop of `create` leaves in memory: a row for each line, with its
quantity and its discount. -/
theorem createItems_spec {items : List CreateSaleReturnItemDto}
    (hsale : db.selling.sales.find? sale.id = some sale)
    (h : Commits (items.foldlM (createItem sale.id) []) db rows db') :
    db = db' ∧ (∀ row ∈ rows, ForItem sale row) ∧
      rows.map (fun i => (i.saleItemId, i.quantity)) = requested items ∧
      discountTotal rows = requestedDiscount items := by
  refine foldlM_invariant (fun done rows s => db = s ∧ (∀ row ∈ rows, ForItem sale row) ∧
    rows.map (fun i => (i.saleItemId, i.quantity)) = requested done ∧
    discountTotal rows = requestedDiscount done)
    (fun done line _ rows s rows' s' _ hI hc => ?_)
    ⟨rfl, fun _ hrow => absurd hrow List.not_mem_nil, rfl, rfl⟩ h
  obtain ⟨rfl, hrows, hdrawn, hdiscounts⟩ := hI
  simp only [createItem, getRemainingReturnableQuantity, acceptLine, commits_bind, commits_get,
    commits_rejectIf, commits_pure] at hc
  obtain ⟨item, _, hitem, _, _, ⟨_, _, ⟨rfl, rfl⟩, -, rfl⟩, _, _, ⟨-, rfl⟩, _, _,
    ⟨hdiscount, rfl⟩, rfl, rfl⟩ := hc
  obtain ⟨rfl, hid, sale', hsale', hmem⟩ := lockSaleItem_spec hitem
  obtain rfl := Option.some.inj (hsale.symm.trans hsale')
  refine ⟨rfl, fun row hrow => ?_, ?_, ?_⟩
  · rcases List.mem_append.1 hrow with hrow | hrow
    · exact hrows row hrow
    · rw [List.mem_singleton.1 hrow]
      exact ⟨⟨item, hmem, rfl, rfl, rfl⟩, Int.natCast_nonneg _, Int.not_lt.1 hdiscount⟩
  · rw [List.map_append, hdrawn, requested, requested, List.map_append, List.map_singleton,
      List.map_singleton, hid]
  · rw [discountTotal, List.map_append, List.sum_append, requestedDiscount, List.map_append,
      List.sum_append]
    exact congrArg₂ (· + ·) hdiscounts rfl

variable {dto : CreateSaleReturnDto}

/-- What an insert leaves behind: one new draft return with the rows. -/
theorem insertReturn_spec
    (h : Commits (insertReturn companyId userId now sale dto rows) db saleReturn db') :
    saleReturn.id = db.sequences.nextId ∧ db.selling.saleReturns.find? saleReturn.id = none ∧
      db' = { db with
        selling := { db.selling with saleReturns := db.selling.saleReturns.save saleReturn }
        sequences := db'.sequences } ∧
      saleReturn.status = .Draft ∧ saleReturn.items = rows ∧ saleReturn.saleId = sale.id ∧
      saleReturn.refundAmount = subtotal rows - discountTotal rows := by
  simp only [insertReturn, generateReturnNumber, saveReturn, commits_bind, commits_get,
    commits_rejectIf, commits_modify, commits_pure] at h
  obtain ⟨number, db₁, hnumber, id, db₂, hid, _, _, ⟨rfl, rfl⟩, _, _, ⟨hnew, rfl⟩, _, _, rfl, rfl,
    rfl⟩ := h
  have hseq₁ := nextDocumentNumber_spec hnumber
  obtain ⟨hseq₂, hdrawn⟩ := randomUUID_spec hid
  rw [SequencesOnly] at hseq₁ hseq₂
  have hsame : db₂.selling = db.selling := by rw [hseq₂, hseq₁]
  refine ⟨hdrawn.trans (nextDocumentNumber_nextId hnumber), ?_, ?_, rfl, rfl, rfl, rfl⟩
  · rw [← hsame]
    exact Option.not_isSome_iff_eq_none.1 hnew
  · rw [hseq₂, hseq₁]

theorem insertReturn_unpaid
    (h : Commits (insertReturn companyId userId now sale dto rows) db saleReturn db') :
    saleReturn.companyId = companyId ∧ saleReturn.refundedAmount = 0 := by
  simp only [insertReturn, generateReturnNumber, saveReturn, commits_bind, commits_get,
    commits_rejectIf, commits_modify, commits_pure] at h
  obtain ⟨_, _, -, _, _, -, _, _, ⟨rfl, rfl⟩, _, _, ⟨-, rfl⟩, _, _, rfl, rfl, rfl⟩ := h
  exact ⟨rfl, rfl⟩

/-- What a creation does: a new draft return of a confirmed sale of the company,
with a row for each line. -/
theorem create_spec {r : SaleReturn} (h : Commits (create companyId userId now dto) db r db') :
    ∃ sale, db.selling.sales.find? dto.saleId = some sale ∧ sale.id = dto.saleId ∧
      sale.status = .Confirmed ∧ sale.companyId = companyId ∧
      db.selling.saleReturns.find? r.id = none ∧
      db' = { db with
        selling := { db.selling with saleReturns := db.selling.saleReturns.save r }
        sequences := db'.sequences } ∧
      r.status = .Draft ∧ r.saleId = sale.id ∧ r.companyId = companyId ∧ r.refundedAmount = 0 ∧
      (∀ row ∈ r.items, ForItem sale row) ∧
      r.items.map (fun i => (i.saleItemId, i.quantity)) = requested dto.sortedItems ∧
      discountTotal r.items = requestedDiscount dto.sortedItems ∧
      r.refundAmount = subtotal r.items - discountTotal r.items := by
  simp only [create, commits_bind] at h
  obtain ⟨sale, _, hopen, rows, _, hloop, hinsert⟩ := h
  have hcompany := findReturnableSale_company hopen
  obtain ⟨rfl, hsale, hstatus⟩ := findReturnableSale_spec hopen
  have hid : sale.id = dto.saleId := Table.key_of_find? hsale
  obtain ⟨rfl, hrows, hdrawn, hdiscount⟩ := createItems_spec (by rw [hid]; exact hsale) hloop
  obtain ⟨hrcompany, hunpaid⟩ := insertReturn_unpaid hinsert
  obtain ⟨-, hnew, hdb', hdraft, rfl, hsaleId, hrefund⟩ := insertReturn_spec hinsert
  exact ⟨sale, hsale, hid, hstatus, hcompany, hnew, hdb', hdraft, hsaleId, hrcompany, hunpaid,
    hrows, hdrawn, hdiscount, hrefund⟩

theorem insertReturn_succeeds (companyId userId : Uuid) (now : Instant) (sale : Sale)
    (dto : CreateSaleReturnDto) (rows : List SaleReturnItem)
    (hnew : db.selling.saleReturns.find? db.sequences.nextId = none) :
    Succeeds (insertReturn companyId userId now sale dto rows) db fun _ _ => True := by
  obtain ⟨number, db₁, hnumber, hseq⟩ := nextDocumentNumber_succeeds .SaleReturn "RET" companyId
    now.getUTCFullYear db
  have hnext := nextDocumentNumber_nextId hnumber
  refine hnumber.succeeds.bind ?_
  rintro _ _ ⟨rfl, rfl⟩
  obtain ⟨id, db₂, hid, hseq₂⟩ := randomUUID_succeeds db₁
  obtain ⟨-, hdrawn⟩ := randomUUID_spec hid
  refine hid.succeeds.bind ?_
  rintro _ _ ⟨rfl, rfl⟩
  refine Succeeds.get_bind (Succeeds.rejectIf_bind ?_ (Succeeds.modify_bind (.pure trivial)))
  rw [SequencesOnly] at hseq hseq₂
  rw [hdrawn, hnext, hseq₂, hseq]
  simp [hnew]

/-- What a creation adds to what has been returned. -/
theorem returnedQuantity_insert (hnew : db.selling.saleReturns.find? saleReturn.id = none)
    (hstatus : saleReturn.status = .Draft)
    (h : db'.selling.saleReturns = db.selling.saleReturns.save saleReturn) (saleItemId : Uuid) :
    returnedQuantity db' saleItemId =
      returnedQuantity db saleItemId + net (draws saleReturn.items) saleItemId := by
  have hdraft : saleReturn.status ≠ .Cancelled := by rw [hstatus]; decide
  rw [returnedQuantity_eq, returnedQuantity_eq, h, Table.sum_save_new _ _ _ hnew, counts,
    if_pos hdraft]

variable {id : Uuid}

theorem cancel_spec (h : Commits (cancel id companyId) db saleReturn db') :
    ∃ draft, db.selling.saleReturns.find? id = some draft ∧ draft.status = .Draft ∧
      saleReturn = { draft with status := .Cancelled } ∧
      db' = { db with
        selling := { db.selling with saleReturns := db.selling.saleReturns.save saleReturn } } := by
  simp only [cancel, findByIdInCompany, saveReturn, commits_bind, commits_get, commits_orReject,
    commits_rejectIf, commits_modify, commits_pure] at h
  obtain ⟨draft, _, ⟨_, _, ⟨rfl, rfl⟩, hfind, rfl⟩, _, _, ⟨hstatus, rfl⟩, _, _, rfl, rfl, rfl⟩ := h
  exact ⟨draft, (Option.filter_eq_some_iff.1 hfind).1, not_not.1 hstatus, rfl, rfl⟩

/-- What a cancellation gives back. -/
theorem returnedQuantity_cancel {draft : SaleReturn}
    (hfind : db.selling.saleReturns.find? id = some draft) (hstatus : draft.status = .Draft)
    (h : db'.selling.saleReturns = db.selling.saleReturns.save { draft with status := .Cancelled })
    (saleItemId : Uuid) :
    returnedQuantity db' saleItemId =
      returnedQuantity db saleItemId - net (draws draft.items) saleItemId := by
  have hkey : db.selling.saleReturns.find? (key { draft with status := .Cancelled }) =
      some draft := by
    rw [← hfind, ← Table.key_of_find? hfind]
    rfl
  have hdraft : draft.status ≠ .Cancelled := by rw [hstatus]; decide
  rw [returnedQuantity_eq, returnedQuantity_eq, h, Table.sum_save_over _ _ _ _ hkey]
  simp only [counts, if_pos hdraft]
  simp only [ne_eq, not_true_eq_false, if_false]
  omega

theorem applyRefund_spec {amount : Cents} {u : Unit}
    (h : Commits (applyRefund id companyId amount) db u db') :
    ∃ saleReturn, db.selling.saleReturns.find? id = some saleReturn ∧
      (saleReturn.status = .Confirmed ∨ saleReturn.status = .Refunded) ∧
      saleReturn.refundedAmount + amount ≤ saleReturn.refundAmount ∧
      ∃ status : SaleReturnStatus, (status = .Confirmed ∨ status = .Refunded) ∧
        db' = { db with selling := { db.selling with
          saleReturns := db.selling.saleReturns.save { saleReturn with
            refundedAmount := saleReturn.refundedAmount + amount, status := status } } } := by
  simp only [applyRefund, findByIdInCompany, saveReturn, commits_bind, commits_get,
    commits_orReject, commits_rejectIf, commits_modify] at h
  obtain ⟨saleReturn, _, ⟨_, _, ⟨rfl, rfl⟩, hfind, rfl⟩, _, _, ⟨hstatus, rfl⟩, _, _, ⟨hroom, rfl⟩,
    rfl⟩ := h
  refine ⟨saleReturn, (Option.filter_eq_some_iff.1 hfind).1, ?_, Int.not_lt.1 hroom, _, ?_, rfl⟩
  · rcases not_and_or.1 hstatus with h | h
    · exact .inl (not_not.1 h)
    · exact .inr (not_not.1 h)
  · split
    · exact .inr rfl
    · exact .inl rfl

/-! ## What a return posts -/

def itemPosting (warehouseId : Uuid) (item : SaleReturnItem) : StockKey × ℤ :=
  (stockKey warehouseId item.productVariantId,
    match item.condition with
    | .Restock => item.quantity
    | .Damaged => 0)

def postings (warehouseId : Uuid) (items : List SaleReturnItem) : List (StockKey × ℤ) :=
  items.map (itemPosting warehouseId)

theorem returnItem_succeeds (userId saleReturnId warehouseId : Uuid) (item : SaleReturnItem)
    (db : Db) :
    Succeeds (returnItem userId saleReturnId warehouseId item) db fun _ db' =>
      ∃ stocks ms, db' = (db.setStocks stocks).addMovements ms ∧
        Posts db.stock db'.stock [itemPosting warehouseId item] := by
  cases hcond : item.condition with
  | Restock =>
    rw [returnItem, hcond]
    refine (lockWarehouseStockRow_succeeds _ db).bind ?_
    rintro stock _ ⟨stocks, rfl, hin⟩
    have hrow : (db.setStocks stocks).stock.warehouseStock.find? (key stock) = some stock := by
      rw [Table.key_of_find? hin.row]
      exact hin.row
    refine updateOnHand_bind stock hrow ?_
    refine ⟨⟨⟩, _, (commits_modify _ _ _ _).2 rfl, _, _, rfl, posts_iff.2 ⟨fun k => ?_, ?_⟩⟩
    · rw [Db.addMovements_stocks, Db.setStocks_stocks, Db.setStocks_stocks,
        onHandIn_save hin.row, hin.onHand, add_sub_cancel_left, net_singleton]
      simp only [itemPosting, hcond]
    · rw [Db.addMovements_movements, List.map_append]
      simp [StockMovement.posting, returnMovement, itemPosting, hcond]
  | Damaged =>
    rw [returnItem, hcond]
    refine (lockWarehouseStockRow_succeeds _ db).bind ?_
    rintro stock _ ⟨stocks, rfl, hin⟩
    refine ⟨⟨⟩, _, (commits_modify _ _ _ _).2 rfl, _, _, rfl, posts_iff.2 ⟨fun k => ?_, ?_⟩⟩
    · rw [Db.addMovements_stocks, Db.setStocks_stocks, hin.onHand, net_singleton]
      simp only [itemPosting, hcond, ite_self, add_zero]
    · rw [Db.addMovements_movements, List.map_append]
      simp [StockMovement.posting, returnMovement, itemPosting, hcond]

theorem resolveWarehouse_spec {warehouseId : Uuid}
    (hsale : db.selling.sales.find? sale.id = some sale)
    (h : Commits (resolveWarehouseIdForReturnConfirmation sale companyId) db warehouseId db') :
    (∀ w ∈ sale.warehouseId, w = warehouseId) ∧
      db' = { db with selling := { db.selling with
        sales := db.selling.sales.save { sale with warehouseId := some warehouseId } } } := by
  unfold resolveWarehouseIdForReturnConfirmation at h
  split at h
  · rename_i w hw
    obtain ⟨rfl, rfl⟩ := (commits_pure _ _ _ _).1 h
    have hself : ({ sale with warehouseId := some warehouseId } : Sale) = sale := by rw [← hw]
    have hsave : db.selling.sales.save sale = db.selling.sales := Table.save_of_find? hsale
    rw [hself, hsave]
    exact ⟨fun v hv => Option.some.inj (hv.symm.trans hw), rfl⟩
  · rename_i hnone
    simp only [commits_bind, commits_orReject, commits_get] at h
    obtain ⟨branchId, _, ⟨-, rfl⟩, _, _, ⟨rfl, rfl⟩, h⟩ := h
    split at h
    · simp only [commits_bind, commits_modify, commits_pure] at h
      obtain ⟨_, _, rfl, rfl, rfl⟩ := h
      refine ⟨fun v hv => ?_, rfl⟩
      cases hv.symm.trans hnone
    · exact absurd h (commits_throw _ _ _ _)
    · exact absurd h (commits_throw _ _ _ _)

theorem reverseLoyalty_succeeds (companyId userId : Uuid) (sale : Sale) (saleReturn : SaleReturn)
    (db : Db) :
    Succeeds (reverseLoyalty companyId userId sale saleReturn) db
      fun _ db' => LoyaltyService.LoyaltyOnly db db' := by
  unfold reverseLoyalty
  split
  · refine Succeeds.get_bind ?_
    split
    · exact Succeeds.pure (LoyaltyService.LoyaltyOnly.refl db)
    · refine (LoyaltyService.reverseForSaleReturn_succeeds _ _ _ _ _ _ db).bind ?_
      intro _ db' hloyal
      exact Succeeds.pure hloyal
  · exact Succeeds.pure (LoyaltyService.LoyaltyOnly.refl db)

/-- What is taken back of the points: nothing, or the return's share of what the
sale earned. -/
theorem reverseLoyalty_spec {u : Unit}
    (h : Commits (reverseLoyalty companyId userId sale saleReturn) db u db') :
    db' = db ∨ 0 < sale.grandTotal ∧ ∃ originalEarn,
      LoyaltyService.findBySource db companyId "SALE" sale.id = some originalEarn ∧
      ∃ t, db'.selling.loyaltyTransactions = db.selling.loyaltyTransactions ++ [t] ∧
        t.companyId = companyId ∧ t.sourceType = some "SALE_RETURN" ∧
        t.sourceId = some saleReturn.id ∧
        t.pointsDelta =
          -reversalPoints originalEarn.pointsDelta saleReturn.refundAmount sale.grandTotal := by
  simp only [reverseLoyalty, commits_ite] at h
  rcases h with ⟨hpos, h⟩ | ⟨-, h⟩
  · simp only [commits_bind, commits_get] at h
    obtain ⟨_, _, ⟨rfl, rfl⟩, h⟩ := h
    split at h
    · exact .inl ((commits_pure _ _ _ _).1 h).2.symm
    · rename_i originalEarn hearn
      simp only [commits_bind, commits_pure] at h
      obtain ⟨_, _, hreverse, -, rfl⟩ := h
      refine (LoyaltyService.reverseForSaleReturn_spec hreverse).imp_right fun hrow => ?_
      exact ⟨hpos, originalEarn, hearn, hrow.2⟩
  · exact .inl ((commits_pure _ _ _ _).1 h).2.symm

theorem returnItems_posts {saleReturnId warehouseId : Uuid} {items : List SaleReturnItem}
    {u : PUnit} (h : Commits (items.forM (returnItem userId saleReturnId warehouseId)) db u db') :
    (∃ stocks ms, db' = (db.setStocks stocks).addMovements ms) ∧
      Posts db.stock db'.stock (postings warehouseId items) := by
  refine forM_invariant (fun done db' => (∃ stocks ms, db' = (db.setStocks stocks).addMovements ms) ∧
    Posts db.stock db'.stock (postings warehouseId done)) ?_
    ⟨⟨db.stock.warehouseStock, [], by simp⟩, Posts.refl _⟩ h
  rintro done item rest _ s' - ⟨⟨stocks, ms, rfl⟩, hposts⟩ hc
  obtain ⟨stocks', ms', rfl, hitem⟩ := (returnItem_succeeds _ _ _ _ _).of_commits hc
  refine ⟨⟨stocks', ms ++ ms', by simp⟩, ?_⟩
  rw [postings, List.map_append]
  exact hposts.trans hitem

/-- What a confirmation does. The lines are posted, each by its condition, in the
sale's warehouse; the points are taken back; the return is confirmed. -/
theorem confirm_spec {confirmed : SaleReturn}
    (h : Commits (confirm id companyId userId now) db confirmed db') :
    ∃ draft sale warehouseId db₁ db₂,
      db.selling.saleReturns.find? id = some draft ∧ draft.companyId = companyId ∧
      draft.status = .Draft ∧ db.selling.sales.find? draft.saleId = some sale ∧
      (∀ w ∈ sale.warehouseId, w = warehouseId) ∧
      db₁.selling = { db.selling with
        sales := db.selling.sales.save { sale with warehouseId := some warehouseId } } ∧
      Posts db.stock db₁.stock (postings warehouseId (sortedItems draft)) ∧
      Commits (reverseLoyalty companyId userId sale draft) db₁ ⟨⟩ db₂ ∧
      db' = { db₂ with selling := { db₂.selling with
        saleReturns := db.selling.saleReturns.save { draft with
          status := .Confirmed, confirmedBy := some userId, confirmedAt := some now } } } := by
  simp only [confirm, findByIdInCompany, saveReturn, commits_bind, commits_get, commits_orReject,
    commits_rejectIf, commits_modify, commits_pure, not_not, Option.filter_eq_some_iff,
    decide_eq_true_eq] at h
  obtain ⟨draft, _, ⟨_, _, ⟨rfl, rfl⟩, ⟨hdraft, hcompany⟩, rfl⟩, _, _, ⟨hstatus, rfl⟩, _, _,
    ⟨rfl, rfl⟩, sale, _, ⟨hsale, rfl⟩, warehouseId, db₁, hresolve, _, db₂, hloop, _, db₃, hloyal, _,
    _, rfl, -, rfl⟩ := h
  have hid : sale.id = draft.saleId := Table.key_of_find? hsale
  obtain ⟨hwarehouse, rfl⟩ := resolveWarehouse_spec (by rw [hid]; exact hsale) hresolve
  obtain ⟨⟨stocks, ms, rfl⟩, hposts⟩ := returnItems_posts hloop
  refine ⟨draft, sale, warehouseId, _, db₃, hdraft, hcompany, hstatus, hsale, hwarehouse, rfl,
    hposts, hloyal, ?_⟩
  rw [(reverseLoyalty_succeeds _ _ _ _ _).of_commits hloyal]
  rfl

/-- A return posts its lines, each by its condition. -/
theorem confirm_posts {confirmed : SaleReturn}
    (h : Commits (confirm id companyId userId now) db confirmed db') :
    ∃ warehouseId saleReturn,
      Posts db.stock db'.stock (postings warehouseId (sortedItems saleReturn)) := by
  obtain ⟨draft, sale, warehouseId, db₁, db₂, -, -, -, -, -, -, hposts, hloyal, rfl⟩ :=
    confirm_spec h
  refine ⟨warehouseId, draft, ?_⟩
  rw [(reverseLoyalty_succeeds _ _ _ _ _).of_commits hloyal]
  exact hposts

end FashionErp.SaleReturnsService
