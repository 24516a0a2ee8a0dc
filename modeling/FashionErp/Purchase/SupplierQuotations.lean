/-
`purchase/services/supplier-quotations.service.ts` and the status of
`purchase/services/purchase-rfqs.service.ts`: quotations for a request for quotation, and
its award.

An award writes AWARDED on its quotation by id, REJECTED on the rivals that are SUBMITTED
then, and CLOSED on the RFQ, whatever the RFQ's status is.
-/
import FashionErp.Core.MasterData
import FashionErp.Lib.Column
import FashionErp.Lib.SaveEntity
import Mathlib.Data.List.Dedup

namespace FashionErp

open Lib Lib.Tx

inductive PurchaseRfqStatus
  | Draft
  | Sent
  | Closed
  | Cancelled
  deriving DecidableEq

def PurchaseRfqStatus.value : PurchaseRfqStatus → String
  | Draft => "DRAFT"
  | Sent => "SENT"
  | Closed => "CLOSED"
  | Cancelled => "CANCELLED"

inductive SupplierQuotationStatus
  | Submitted
  | Awarded
  | Rejected
  deriving DecidableEq

def SupplierQuotationStatus.value : SupplierQuotationStatus → String
  | Submitted => "SUBMITTED"
  | Awarded => "AWARDED"
  | Rejected => "REJECTED"

structure PurchaseRfqItem where
  id : Uuid
  productVariantId : Uuid
  quantity : ℤ
  reasonSnapshot : String
  productNameSnapshot : String
  skuSnapshot : String
  deriving DecidableEq

/-- A request for quotation with its items, which have ids of their own. -/
structure PurchaseRfq where
  id : Uuid
  rfqNumber : String
  companyId : Uuid
  branchId : Option Uuid := none
  purchaseRequestId : Option Uuid := none
  title : String
  requiredDate : Instant
  status : PurchaseRfqStatus := .Draft
  invitedSupplierIds : List Uuid
  notes : Option String := none
  createdBy : Option Uuid := none
  updatedBy : Option Uuid := none
  items : List PurchaseRfqItem

instance : Keyed PurchaseRfq Uuid := ⟨PurchaseRfq.id⟩

structure SupplierQuotationItem where
  purchaseRfqItemId : Uuid
  productVariantId : Uuid
  quantity : ℤ
  unitCostSnapshot : Cents
  discountSnapshot : Cents
  taxSnapshot : Cents
  lineTotal : Cents
  productNameSnapshot : String
  skuSnapshot : String

structure SupplierQuotation where
  id : Uuid
  quotationNumber : String
  companyId : Uuid
  purchaseRfqId : Uuid
  supplierId : Uuid
  paymentTermId : Option Uuid
  leadTimeDays : Option ℕ
  status : SupplierQuotationStatus
  subtotal : Cents
  discountAmount : Cents
  taxAmount : Cents
  grandTotal : Cents
  currency : String
  notes : Option String
  createdBy : Option Uuid
  updatedBy : Option Uuid
  items : List SupplierQuotationItem

instance : Keyed SupplierQuotation Uuid := ⟨SupplierQuotation.id⟩

inductive PaymentTermStatus
  | Active
  | Inactive
  deriving DecidableEq

structure PaymentTerm where
  id : Uuid
  companyId : Uuid
  status : PaymentTermStatus

instance : Keyed PaymentTerm Uuid := ⟨PaymentTerm.id⟩

/-- The tables of quotations. `awards` remembers who has been awarded what, as pairs of an RFQ
and a quotation. -/
structure RfqDb where
  base : Db := {}
  paymentTerms : Table PaymentTerm := .empty
  rfqs : Table PurchaseRfq := .empty
  quotations : Table SupplierQuotation := .empty
  quotationCounters : JsMap (Uuid × ℕ) ℕ := ∅
  nextId : Uuid := 0
  awards : List (Uuid × Uuid) := []

structure CreateSupplierQuotationItemDto where
  purchaseRfqItemId : Uuid
  unitCost : Cents
  discountAmount : Option Cents := none
  taxAmount : Option Cents := none

structure CreateSupplierQuotationDto where
  purchaseRfqId : Uuid
  supplierId : Uuid
  paymentTermId : Option Uuid := none
  leadTimeDays : Option ℕ := none
  currency : String
  notes : Option String := none
  items : List CreateSupplierQuotationItemDto

/-! ## `PurchaseRfqsService` -/

namespace PurchaseRfqsService

def ALLOWED_TRANSITIONS : PurchaseRfqStatus → List PurchaseRfqStatus
  | .Draft => [.Sent, .Cancelled]
  | .Sent => [.Closed, .Cancelled]
  | .Closed => []
  | .Cancelled => []

def findByIdInCompany (id companyId : Uuid) (db : RfqDb) : Except Failure PurchaseRfq :=
  orRefuse ((db.rfqs.find? id).filter (·.companyId = companyId))
    (appException .NotFound "Purchase RFQ not found")

/-- The entity `updateStatus` saves. -/
def setStatus (userId : Uuid) (nextStatus : PurchaseRfqStatus) (rfq : PurchaseRfq) : PurchaseRfq :=
  { rfq with status := nextStatus, updatedBy := some userId }

def updateStatus (userId : Uuid) (nextStatus : PurchaseRfqStatus) (rfq : PurchaseRfq) :
    Except Failure PurchaseRfq :=
  if nextStatus ∈ ALLOWED_TRANSITIONS rfq.status then pure (setStatus userId nextStatus rfq)
  else
    let status := rfq.status.value
    let next := nextStatus.value
    throw (appException .Conflict s!"Cannot transition purchase RFQ from {status} to {next}")

/-- `save`: the row with the columns in which the entity differs from what was read. -/
def mergeRfq (entity seen row : PurchaseRfq) : PurchaseRfq where
  id := row.id
  rfqNumber := mergeCol entity.rfqNumber seen.rfqNumber row.rfqNumber
  companyId := mergeCol entity.companyId seen.companyId row.companyId
  branchId := mergeCol entity.branchId seen.branchId row.branchId
  purchaseRequestId :=
    mergeCol entity.purchaseRequestId seen.purchaseRequestId row.purchaseRequestId
  title := mergeCol entity.title seen.title row.title
  requiredDate := mergeCol entity.requiredDate seen.requiredDate row.requiredDate
  status := mergeCol entity.status seen.status row.status
  invitedSupplierIds :=
    mergeCol entity.invitedSupplierIds seen.invitedSupplierIds row.invitedSupplierIds
  notes := mergeCol entity.notes seen.notes row.notes
  createdBy := mergeCol entity.createdBy seen.createdBy row.createdBy
  updatedBy := mergeCol entity.updatedBy seen.updatedBy row.updatedBy
  items := row.items

def rfqRow (id : Uuid) : RowAccess RfqDb PurchaseRfq where
  find db := db.rfqs.find? id
  put row db := { db with rfqs := db.rfqs.save row }
  merge := mergeRfq

end PurchaseRfqsService

/-! ## `SupplierQuotationsService` -/

namespace SupplierQuotationsService

def ALLOWED_TRANSITIONS : SupplierQuotationStatus → List SupplierQuotationStatus
  | .Submitted => [.Awarded, .Rejected]
  | .Awarded => []
  | .Rejected => []

def findByIdInCompany (id companyId : Uuid) (db : RfqDb) : Except Failure SupplierQuotation :=
  orRefuse ((db.quotations.find? id).filter (·.companyId = companyId))
    (appException .NotFound "Supplier quotation not found")

def assertPaymentTerm (paymentTermId : Option Uuid) (companyId : Uuid) (db : RfqDb) :
    Except Failure Unit :=
  match paymentTermId with
  | none => pure ()
  | some paymentTermId => do
    let term ← orRefuse ((db.paymentTerms.find? paymentTermId).filter (·.companyId = companyId))
      (appException .NotFound "Payment term not found")
    refuseIf (term.status ≠ .Active)
      (appException .ValidationError "paymentTermId must reference an active payment term")

/-- What `create` checks first, down to the payment term. -/
def openRfq (companyId : Uuid) (dto : CreateSupplierQuotationDto) (db : RfqDb) :
    Except Failure PurchaseRfq := do
  let company ← value (CompaniesService.findActiveByIdOrNull companyId) db.base
  refuseIf (company = none)
    (appException .ValidationError "companyId does not reference an active company")
  let supplier ← value (SuppliersService.findByIdInCompany dto.supplierId companyId) db.base
  let rfq ← PurchaseRfqsService.findByIdInCompany dto.purchaseRfqId companyId db
  refuseIf (rfq.status = .Cancelled ∨ rfq.status = .Closed)
    (appException .Conflict "Cannot submit a quotation for a closed or cancelled RFQ")
  refuseIf (rfq.invitedSupplierIds ≠ [] ∧ supplier.id ∉ rfq.invitedSupplierIds)
    (appException .ValidationError "supplierId is not invited on this RFQ")
  assertPaymentTerm dto.paymentTermId companyId db
  return rfq

def Quoted (companyId : Uuid) (dto : CreateSupplierQuotationDto) (db : RfqDb) : Prop :=
  ∃ q ∈ db.quotations.rows,
    q.companyId = companyId ∧ q.purchaseRfqId = dto.purchaseRfqId ∧ q.supplierId = dto.supplierId

instance (companyId : Uuid) (dto : CreateSupplierQuotationDto) (db : RfqDb) :
    Decidable (Quoted companyId dto db) :=
  inferInstanceAs (Decidable (∃ q ∈ db.quotations.rows, _))

/-- The ids of the RFQ's items: the keys of `rfqItemsById`. -/
def itemIds (rfq : PurchaseRfq) : List Uuid := (rfq.items.map (·.id)).dedup

def assertItemsBelong (rfq : PurchaseRfq) (items : List CreateSupplierQuotationItemDto) :
    Except Failure Unit :=
  match items.find? fun item => item.purchaseRfqItemId ∉ itemIds rfq with
  | none => pure ()
  | some item => throw (appException .ValidationError
      s!"purchaseRfqItemId {item.purchaseRfqItemId} does not belong to the selected RFQ")

/-- What `create` checks next: the supplier's other quotations and the items. -/
def assertItems (companyId : Uuid) (dto : CreateSupplierQuotationDto) (rfq : PurchaseRfq)
    (db : RfqDb) : Except Failure Unit := do
  refuseIf (Quoted companyId dto db)
    (appException .Conflict "This supplier already has a quotation for the selected RFQ")
  assertItemsBelong rfq dto.items
  refuseIf (dto.items.length ≠ (itemIds rfq).length)
    (appException .ValidationError "A quotation must price every RFQ line item exactly once")

/-- The row of an item; `rfqItemsById.get(..)!` throws a `TypeError` on a missing one. -/
def priceItem (rfq : PurchaseRfq) (item : CreateSupplierQuotationItemDto) :
    Except Failure SupplierQuotationItem := do
  let rfqItem ← orRefuse (rfq.items.find? fun rfqItem => rfqItem.id = item.purchaseRfqItemId)
    .typeError
  let discount := item.discountAmount.getD 0
  let tax := item.taxAmount.getD 0
  refuseIf (item.unitCost < 0 ∨ discount < 0 ∨ tax < 0)
    (appException .ValidationError
      "unitCost, discountAmount, and taxAmount must be non-negative")
  let lineSubtotal := item.unitCost * rfqItem.quantity
  refuseIf (discount > lineSubtotal)
    (appException .ValidationError
      s!"discountAmount cannot exceed the line subtotal for RFQ item {rfqItem.id}")
  return {
    purchaseRfqItemId := rfqItem.id
    productVariantId := rfqItem.productVariantId
    quantity := rfqItem.quantity
    unitCostSnapshot := item.unitCost
    discountSnapshot := discount
    taxSnapshot := tax
    lineTotal := lineSubtotal - discount + tax
    productNameSnapshot := rfqItem.productNameSnapshot
    skuSnapshot := rfqItem.skuSnapshot }

/-- `generateQuotationNumber`. -/
def formatQuotationNumber (year sequence : ℕ) : String :=
  let digits := padStartZeros 4 sequence
  s!"SQ-{year}-{digits}"

/-- The quotation the transaction of `create` saves. -/
def newQuotation (companyId userId : Uuid) (dto : CreateSupplierQuotationDto) (id : Uuid)
    (quotationNumber : String) (rows : List SupplierQuotationItem) : SupplierQuotation :=
  let subtotal := (rows.map fun row => row.unitCostSnapshot * row.quantity).sum
  let discountTotal := (rows.map (·.discountSnapshot)).sum
  let taxTotal := (rows.map (·.taxSnapshot)).sum
  { id, quotationNumber, companyId
    purchaseRfqId := dto.purchaseRfqId
    supplierId := dto.supplierId
    paymentTermId := dto.paymentTermId
    leadTimeDays := dto.leadTimeDays
    status := .Submitted
    subtotal
    discountAmount := discountTotal
    taxAmount := taxTotal
    grandTotal := subtotal - discountTotal + taxTotal
    currency := dto.currency
    notes := (dto.notes.map trim).filter (· ≠ "")
    createdBy := some userId
    updatedBy := some userId
    items := rows }

/-- The transaction of `create`: a number, the rows, and the quotation, which the unique index
on company, RFQ and supplier may refuse. -/
def insertQuotation (companyId userId : Uuid) (dto : CreateSupplierQuotationDto) (year : ℕ)
    (rfq : PurchaseRfq) (db : RfqDb) : Except Failure RfqDb := do
  let sequence := (db.quotationCounters.lookup (companyId, year)).getD 0 + 1
  let rows ← dto.items.mapM (priceItem rfq)
  refuseIf (Quoted companyId dto db) (.duplicateEntry "companyId_purchaseRfqId_supplierId")
  return { db with
    quotations := db.quotations.save (newQuotation companyId userId dto db.nextId
      (formatQuotationNumber year sequence) rows)
    quotationCounters := db.quotationCounters.insert (companyId, year) sequence
    nextId := db.nextId + 1 }

/-- The check of `updateStatus`. -/
def assertTransition (nextStatus : SupplierQuotationStatus) (quotation : SupplierQuotation) :
    Except Failure SupplierQuotation :=
  if nextStatus ∈ ALLOWED_TRANSITIONS quotation.status then pure quotation
  else
    let status := quotation.status.value
    let next := nextStatus.value
    throw (appException .Conflict s!"Cannot transition supplier quotation from {status} to {next}")

/-- `update(SupplierQuotation, id, ..)`. -/
def setStatus (userId : Uuid) (nextStatus : SupplierQuotationStatus)
    (quotation : SupplierQuotation) : SupplierQuotation :=
  { quotation with status := nextStatus, updatedBy := some userId }

def awardRow (companyId userId : Uuid) (quotation row : SupplierQuotation) : SupplierQuotation :=
  if row.id = quotation.id then setStatus userId .Awarded row
  else if row.purchaseRfqId = quotation.purchaseRfqId ∧ row.companyId = companyId ∧
      row.status = .Submitted then
    setStatus userId .Rejected row
  else row

theorem awardRow_id (companyId userId : Uuid) (quotation row : SupplierQuotation) :
    (awardRow companyId userId quotation row).id = row.id := by
  unfold awardRow
  split
  · rfl
  · split <;> rfl

/-- An RFQ after an award: `quotation`'s own is CLOSED. -/
def closeRow (userId : Uuid) (quotation : SupplierQuotation) (row : PurchaseRfq) : PurchaseRfq :=
  if row.id = quotation.purchaseRfqId then PurchaseRfqsService.setStatus userId .Closed row else row

theorem closeRow_id (userId : Uuid) (quotation : SupplierQuotation) (row : PurchaseRfq) :
    (closeRow userId quotation row).id = row.id := by
  unfold closeRow
  split <;> rfl

def award (companyId userId : Uuid) (quotation : SupplierQuotation) (db : RfqDb) : RfqDb :=
  { db with
    quotations := db.quotations.mapRows (awardRow companyId userId quotation)
      (awardRow_id companyId userId quotation)
    rfqs := db.rfqs.mapRows (closeRow userId quotation) (closeRow_id userId quotation)
    awards := db.awards ++ [(quotation.purchaseRfqId, quotation.id)] }

/-- A row after any other change of `quotation`'s status. -/
def statusRow (userId : Uuid) (nextStatus : SupplierQuotationStatus)
    (quotation row : SupplierQuotation) : SupplierQuotation :=
  if row.id = quotation.id then setStatus userId nextStatus row else row

theorem statusRow_id (userId : Uuid) (nextStatus : SupplierQuotationStatus)
    (quotation row : SupplierQuotation) : (statusRow userId nextStatus quotation row).id = row.id := by
  unfold statusRow
  split <;> rfl

def changeStatus (userId : Uuid) (nextStatus : SupplierQuotationStatus)
    (quotation : SupplierQuotation) (db : RfqDb) : RfqDb :=
  { db with
    quotations := db.quotations.mapRows (statusRow userId nextStatus quotation)
      (statusRow_id userId nextStatus quotation) }

end SupplierQuotationsService

end FashionErp
