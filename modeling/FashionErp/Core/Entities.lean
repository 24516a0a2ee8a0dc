/-
The entities the modelled services read and write.

One structure per table, under the entity's own name and with its own column names; a
nullable column is an `Option`.
-/
import FashionErp.Lib.Table
import FashionErp.Core.Basic

namespace FashionErp

open Lib

/-! ## Organization and master data -/

/-- `ACTIVE` or `INACTIVE`: the status of every master-data row. -/
inductive ActiveStatus
  | Active
  | Inactive
  deriving DecidableEq

abbrev CompanyStatus := ActiveStatus
abbrev BranchStatus := ActiveStatus
abbrev WarehouseStatus := ActiveStatus
abbrev ProductVariantStatus := ActiveStatus
abbrev PaymentMethodStatus := ActiveStatus

structure Company where
  id : Uuid
  status : CompanyStatus
  baseCurrency : String
  deleted : Bool := false

structure Branch where
  id : Uuid
  companyId : Uuid
  name : String := ""
  status : BranchStatus
  deleted : Bool := false

structure Warehouse where
  id : Uuid
  companyId : Uuid
  branchId : Uuid
  name : String := ""
  status : WarehouseStatus
  deleted : Bool := false

structure ProductVariant where
  id : Uuid
  companyId : Uuid
  status : ProductVariantStatus
  productId : Uuid := 0
  sku : String := ""
  productName : String := ""
  combinationKey : String := ""
  baseUomId : Option Uuid := none
  sellingPrice : Cents := 0
  deleted : Bool := false

/-- `CustomerStatus` and `SupplierStatus`, which have the same members. -/
inductive PartyStatus
  | Active
  | Inactive
  | Blocked
  deriving DecidableEq

abbrev CustomerStatus := PartyStatus
abbrev SupplierStatus := PartyStatus

structure Customer where
  id : Uuid
  companyId : Uuid
  branchId : Option Uuid := none
  customerCode : String
  name : String := ""
  phone : Option String := none
  receivableAccountId : Option Uuid
  status : CustomerStatus
  deleted : Bool := false

structure Supplier where
  id : Uuid
  companyId : Uuid
  branchId : Option Uuid := none
  supplierCode : String
  name : String := ""
  payableAccountId : Option Uuid
  status : SupplierStatus
  deleted : Bool := false

/-! ## Prices and units -/

structure Uom where
  id : Uuid
  companyId : Uuid
  code : String
  name : String
  symbol : Option String
  isActive : Bool
  deleted : Bool := false

inductive ProductVariantUomUsageType
  | Sales
  | Purchase
  | Both
  deriving DecidableEq

def ProductVariantUomUsageType.lowerCase : ProductVariantUomUsageType → String
  | Sales => "sales"
  | Purchase => "purchase"
  | Both => "both"

structure ProductVariantUom where
  variantId : Uuid
  companyId : Uuid
  uomId : Uuid
  /-- `DECIMAL(14,4)`, in ten-thousandths. -/
  conversionFactorToBase : ℤ
  usageType : ProductVariantUomUsageType
  isActive : Bool
  deleted : Bool := false

abbrev PriceListStatus := ActiveStatus
abbrev PriceListItemStatus := ActiveStatus

structure PriceList where
  id : Uuid
  companyId : Uuid
  status : PriceListStatus
  code : String := ""
  name : String := ""
  currency : String := ""
  deleted : Bool := false

structure PriceListItem where
  companyId : Uuid
  priceListId : Uuid
  productVariantId : Uuid
  uomId : Option Uuid
  price : Cents
  validFrom : Instant
  validTo : Option Instant
  status : PriceListItemStatus
  deleted : Bool := false

abbrev SalesAccountStatus := ActiveStatus
abbrev SalesAccountAssignmentStatus := ActiveStatus

structure SalesAccount where
  id : Uuid
  companyId : Uuid
  status : SalesAccountStatus
  deleted : Bool := false

structure SalesAccountAssignment where
  userId : Uuid
  salesAccountId : Uuid
  status : SalesAccountAssignmentStatus
  deleted : Bool := false

/-! ## Stock -/

structure WarehouseStock where
  warehouseId : Uuid
  productVariantId : Uuid
  onHandQuantity : ℤ
  reservedQuantity : ℤ

inductive StockMovementType
  | PurchaseReceipt
  | SaleIssue
  | TransferIn
  | TransferOut
  | Adjustment
  | OpeningBalance
  | SaleReturn
  | PurchaseReturn

inductive StockMovementReferenceType
  | GoodsReceipt
  | Sale
  | StockTransfer
  | StockAdjustment
  | SaleReturn
  | PurchaseReturn

/-- One line of the stock ledger. The database fills in `id` and `createdAt` when the
line is written; no service reads them back. -/
structure StockMovement where
  id : Uuid := 0
  createdAt : Instant := ⟨⟨1970, 1, 1⟩, 0⟩
  warehouseId : Uuid
  productVariantId : Uuid
  movementType : StockMovementType
  quantityChange : ℤ
  quantityAfter : ℤ
  referenceType : StockMovementReferenceType
  referenceId : Uuid
  createdBy : Option Uuid

structure GoodsReceiptItem where
  purchaseOrderItemId : Uuid
  productVariantId : Uuid
  receivedQuantity : ℤ
  rejectedQuantity : ℤ
  /-- `DECIMAL(14,4)`, in ten-thousandths. -/
  conversionFactorToBaseSnapshot : ℤ
  baseReceivedQuantity : ℤ
  baseRejectedQuantity : ℤ

structure GoodsReceipt where
  id : Uuid
  receiptNumber : String
  purchaseOrderId : Uuid
  warehouseId : Uuid
  supplierId : Uuid
  companyId : Uuid
  receiptDate : Instant
  receivedBy : Uuid
  items : List GoodsReceiptItem

structure StockTransferItem where
  productVariantId : Uuid
  quantity : ℤ

structure StockTransfer where
  id : Uuid
  transferNumber : String
  sourceWarehouseId : Uuid
  destinationWarehouseId : Uuid
  companyId : Uuid
  createdBy : Uuid
  items : List StockTransferItem

inductive StockAdjustmentReason
  | OpeningBalance
  | Damage
  | Loss
  | Found
  | Correction
  deriving DecidableEq

structure StockAdjustment where
  id : Uuid
  adjustmentNumber : String
  warehouseId : Uuid
  productVariantId : Uuid
  quantityChange : ℤ
  reason : StockAdjustmentReason
  companyId : Uuid
  createdBy : Uuid

/-! ## Sales -/

inductive SaleStatus
  | Draft
  | Confirmed
  | Cancelled
  deriving DecidableEq

def SaleStatus.value : SaleStatus → String
  | Draft => "DRAFT"
  | Confirmed => "CONFIRMED"
  | Cancelled => "CANCELLED"

inductive SaleFulfillmentStatus
  | PendingShipment
  | Shipped
  | Delivered
  deriving DecidableEq

def SaleFulfillmentStatus.value : SaleFulfillmentStatus → String
  | PendingShipment => "PENDING_SHIPMENT"
  | Shipped => "SHIPPED"
  | Delivered => "DELIVERED"

inductive SaleType
  | Pos
  | Retail
  | Wholesale
  deriving DecidableEq

structure SaleItem where
  id : Uuid
  productVariantId : Uuid
  uomId : Option Uuid := none
  uomCodeSnapshot : Option String := none
  uomNameSnapshot : Option String := none
  quantity : ℤ
  baseQuantitySnapshot : Option ℤ
  /-- `DECIMAL(14,4)`, in ten-thousandths. -/
  conversionFactorToBaseSnapshot : ℤ := 10000
  unitPriceSnapshot : Cents := 0
  discountSnapshot : Cents := 0
  taxSnapshot : Cents := 0
  lineTotal : Cents := 0
  productNameSnapshot : String := ""
  skuSnapshot : String := ""
  deriving DecidableEq

structure Sale where
  id : Uuid
  creationKey : Option String := none
  creationHash : Option String := none
  saleNumber : String := ""
  saleType : SaleType := .Retail
  salesAccountId : Option Uuid := none
  transactionDate : Instant := ⟨⟨1970, 1, 1⟩, 0⟩
  subtotal : Cents := 0
  discountAmount : Cents := 0
  taxAmount : Cents := 0
  notes : Option String := none
  createdBy : Option Uuid := none
  companyId : Uuid
  customerId : Uuid
  branchId : Option Uuid
  warehouseId : Option Uuid
  status : SaleStatus
  grandTotal : Cents
  paidAmount : Cents
  balanceAmount : Cents
  currency : String
  fulfillmentStatus : Option SaleFulfillmentStatus
  shippedAt : Option Instant
  deliveredAt : Option Instant
  updatedBy : Option Uuid
  items : List SaleItem
  deriving DecidableEq

inductive SaleReturnStatus
  | Draft
  | Confirmed
  | Refunded
  | Cancelled
  deriving DecidableEq

def SaleReturnStatus.value : SaleReturnStatus → String
  | Draft => "DRAFT"
  | Confirmed => "CONFIRMED"
  | Refunded => "REFUNDED"
  | Cancelled => "CANCELLED"

inductive SaleReturnItemCondition
  | Restock
  | Damaged
  deriving DecidableEq

structure SaleReturnItem where
  saleItemId : Uuid
  productVariantId : Uuid
  quantity : ℤ
  unitPriceSnapshot : Cents := 0
  discountAmount : Cents := 0
  lineTotal : Cents := 0
  condition : SaleReturnItemCondition
  productNameSnapshot : String := ""
  skuSnapshot : String := ""

structure SaleReturn where
  id : Uuid
  returnNumber : String := ""
  companyId : Uuid
  branchId : Option Uuid
  saleId : Uuid
  customerId : Uuid
  status : SaleReturnStatus
  reason : Option String := none
  notes : Option String := none
  subtotal : Cents := 0
  discountAmount : Cents := 0
  refundAmount : Cents
  refundedAmount : Cents
  currency : String
  createdBy : Option Uuid := none
  confirmedBy : Option Uuid
  confirmedAt : Option Instant
  items : List SaleReturnItem

/-! ## Promotions -/

inductive PromotionDiscountType
  | Percentage
  | FixedAmount
  deriving DecidableEq

abbrev PromotionStatus := ActiveStatus

structure Promotion where
  id : Uuid
  companyId : Uuid
  code : String
  name : String
  description : Option String
  discountType : PromotionDiscountType
  /-- `DECIMAL(14,4)`, in ten-thousandths: of a percent, or of a currency unit. -/
  discountValue : ℤ
  minimumPurchase : Cents
  maximumDiscountAmount : Option Cents
  startDate : DateOnly
  endDate : Option DateOnly
  usageLimit : Option ℕ
  usageCount : ℕ
  status : PromotionStatus
  createdBy : Option Uuid
  updatedBy : Option Uuid

/-! ## Loyalty -/

inductive LoyaltyPointTransactionType
  | Earn
  | Redeem
  | Reversal
  | Adjustment

structure LoyaltyProgram where
  companyId : Uuid
  pointsPerCurrencyUnit : ℤ
  /-- `DECIMAL(10,4)`, in ten-thousandths of a currency unit. -/
  redemptionValuePerPoint : ℤ := 0
  minimumPurchaseForEarning : Cents
  isActive : Bool

structure LoyaltyPointTransaction where
  id : Uuid
  companyId : Uuid
  customerId : Uuid
  type : LoyaltyPointTransactionType
  pointsDelta : ℤ
  redemptionValue : Option Cents := none
  sourceType : Option String
  sourceId : Option Uuid
  reversesTransactionId : Option Uuid
  notes : Option String := none
  createdBy : Option Uuid

/-! ## Purchasing -/

inductive PurchaseOrderStatus
  | Draft
  | Submitted
  | Approved
  | Confirmed
  | Rejected
  | Closed
  | Cancelled
  deriving DecidableEq

def PurchaseOrderStatus.value : PurchaseOrderStatus → String
  | Draft => "DRAFT"
  | Submitted => "SUBMITTED"
  | Approved => "APPROVED"
  | Confirmed => "CONFIRMED"
  | Rejected => "REJECTED"
  | Closed => "CLOSED"
  | Cancelled => "CANCELLED"

structure PurchaseOrderItem where
  id : Uuid
  productVariantId : Uuid
  quantity : ℤ
  unitCostSnapshot : Cents
  /-- `DECIMAL(14,4)`, in ten-thousandths. -/
  conversionFactorToBaseSnapshot : Option ℤ
  discountSnapshot : Cents := 0
  taxSnapshot : Cents := 0
  lineTotal : Cents := 0
  deriving DecidableEq

structure PurchaseOrder where
  id : Uuid
  purchaseOrderNumber : String
  supplierId : Uuid
  companyId : Uuid
  branchId : Option Uuid
  warehouseId : Option Uuid
  status : PurchaseOrderStatus
  transactionDate : Instant := ⟨⟨1970, 1, 1⟩, 0⟩
  subtotal : Cents := 0
  discountAmount : Cents := 0
  taxAmount : Cents := 0
  grandTotal : Cents
  paidAmount : Cents
  balanceAmount : Cents
  currency : String
  updatedBy : Option Uuid
  submittedAt : Option Instant := none
  submittedBy : Option Uuid := none
  approvedAt : Option Instant := none
  approvedBy : Option Uuid := none
  rejectedAt : Option Instant := none
  rejectedBy : Option Uuid := none
  rejectedReason : Option String := none
  closedAt : Option Instant := none
  closedBy : Option Uuid := none
  closeReason : Option String := none
  items : List PurchaseOrderItem
  deriving DecidableEq

inductive PurchaseInvoiceStatus
  | Draft
  | Posted
  | Voided
  deriving DecidableEq

def PurchaseInvoiceStatus.value : PurchaseInvoiceStatus → String
  | Draft => "DRAFT"
  | Posted => "POSTED"
  | Voided => "VOIDED"

structure PurchaseInvoice where
  id : Uuid
  invoiceNumber : String
  companyId : Uuid
  supplierId : Uuid
  purchaseOrderId : Uuid
  status : PurchaseInvoiceStatus
  grandTotal : Cents
  paidAmount : Cents
  creditedAmount : Cents
  balanceAmount : Cents
  currency : String
  updatedBy : Option Uuid
  postedAt : Option Instant
  postedBy : Option Uuid
  voidedAt : Option Instant
  voidedBy : Option Uuid
  voidReason : Option String

inductive PurchaseReturnStatus
  | Draft
  | Completed
  | Cancelled
  deriving DecidableEq

def PurchaseReturnStatus.value : PurchaseReturnStatus → String
  | Draft => "DRAFT"
  | Completed => "COMPLETED"
  | Cancelled => "CANCELLED"

structure PurchaseReturnItem where
  purchaseOrderItemId : Uuid
  productVariantId : Uuid
  quantity : ℤ
  unitCostSnapshot : Cents
  lineTotal : Cents

structure PurchaseReturn where
  id : Uuid
  returnNumber : String
  companyId : Uuid
  branchId : Option Uuid
  supplierId : Uuid
  purchaseOrderId : Uuid
  purchaseInvoiceId : Uuid
  status : PurchaseReturnStatus
  reason : String
  subtotal : Cents
  creditAppliedAmount : Cents
  supplierCreditAmount : Cents
  currency : String
  createdBy : Option Uuid
  completedBy : Option Uuid
  completedAt : Option Instant
  items : List PurchaseReturnItem

/-! ## Payments -/

inductive PaymentReferenceType
  | Sale
  | PurchaseOrder
  | PurchaseInvoice
  | SaleReturn
  deriving DecidableEq

def PaymentReferenceType.value : PaymentReferenceType → String
  | Sale => "SALE"
  | PurchaseOrder => "PURCHASE_ORDER"
  | PurchaseInvoice => "PURCHASE_INVOICE"
  | SaleReturn => "SALE_RETURN"

inductive PaymentDirection
  | Receipt
  | Payment
  | Refund
  deriving DecidableEq

def PaymentDirection.value : PaymentDirection → String
  | Receipt => "RECEIPT"
  | Payment => "PAYMENT"
  | Refund => "REFUND"

inductive PaymentStatus
  | Confirmed
  | Cancelled
  deriving DecidableEq

def PaymentStatus.value : PaymentStatus → String
  | Confirmed => "CONFIRMED"
  | Cancelled => "CANCELLED"

structure PaymentMethod where
  id : Uuid
  companyId : Uuid
  code : String
  name : String := ""
  status : PaymentMethodStatus
  glAccountId : Option Uuid
  deleted : Bool := false

structure PaymentAllocation where
  referenceType : PaymentReferenceType
  referenceId : Uuid
  allocatedAmount : Cents

structure Payment where
  id : Uuid
  paymentNumber : String
  companyId : Uuid
  branchId : Option Uuid
  direction : PaymentDirection
  customerId : Option Uuid
  supplierId : Option Uuid
  paymentMethodId : Uuid
  amount : Cents
  currency : String
  reference : Option String
  idempotencyKey : Option String
  status : PaymentStatus
  paymentDate : Instant
  notes : Option String
  createdBy : Option Uuid
  updatedBy : Option Uuid
  reversedAt : Option Instant
  reversedBy : Option Uuid
  reversalReason : Option String
  reallocatedAt : Option Instant
  reallocatedBy : Option Uuid
  reallocationReason : Option String
  allocations : List PaymentAllocation

structure PaymentConfirmedEventPayload where
  paymentId : Uuid
  paymentNumber : String
  direction : PaymentDirection
  amount : Cents
  currency : String
  paymentMethodId : Uuid
  customerId : Option Uuid
  supplierId : Option Uuid
  paymentDate : Instant
  deriving DecidableEq

inductive OutboxEventStatus
  | Pending
  | Published
  | Failed
  deriving DecidableEq

structure OutboxEvent where
  id : Uuid
  eventId : Uuid
  eventType : String
  eventVersion : ℕ
  aggregateType : String
  aggregateId : Uuid
  companyId : Uuid
  branchId : Option Uuid
  source : String
  occurredAt : Instant
  payload : PaymentConfirmedEventPayload
  status : OutboxEventStatus
  attemptCount : ℕ
  availableAt : EpochMillis
  publishedAt : Option Instant
  deriving DecidableEq

instance : Keyed OutboxEvent Uuid := ⟨OutboxEvent.id⟩

/-! ## Accounting -/

inductive AccountType
  | Asset
  | Liability
  | Equity
  | Revenue
  | Expense
  deriving DecidableEq

structure Account where
  id : Uuid
  companyId : Uuid
  code : String
  name : String
  accountType : AccountType
  isActive : Bool
  deleted : Bool := false

inductive FiscalYearStatus
  | Open
  | Closed
  deriving DecidableEq

structure FiscalYear where
  id : Uuid
  companyId : Uuid
  name : String
  startDate : DateOnly
  endDate : DateOnly
  status : FiscalYearStatus

inductive AccountingPeriodStatus
  | Open
  | Locked
  deriving DecidableEq

structure AccountingPeriod where
  id : Uuid
  fiscalYearId : Uuid
  name : String
  startDate : DateOnly
  endDate : DateOnly
  status : AccountingPeriodStatus

inductive JournalEntryStatus
  | Draft
  | Posted
  | Cancelled
  deriving DecidableEq

def JournalEntryStatus.value : JournalEntryStatus → String
  | Draft => "DRAFT"
  | Posted => "POSTED"
  | Cancelled => "CANCELLED"

inductive JournalSourceType
  | Manual
  | Payment
  | OpeningBalance
  deriving DecidableEq

inductive JournalReferenceType
  | Payment
  | Sale
  | PurchaseOrder
  deriving DecidableEq

structure JournalEntryLine where
  accountId : Uuid
  debitAmount : Cents
  creditAmount : Cents
  referenceType : Option JournalReferenceType
  referenceId : Option Uuid
  description : Option String

structure JournalEntry where
  id : Uuid
  journalNumber : String
  companyId : Uuid
  branchId : Option Uuid
  accountingPeriodId : Uuid
  entryDate : Instant
  status : JournalEntryStatus
  sourceType : Option JournalSourceType
  sourceId : Option Uuid
  description : String
  totalDebit : Cents
  totalCredit : Cents
  createdBy : Uuid
  postedBy : Option Uuid
  postedAt : Option Instant
  lines : List JournalEntryLine

/-! ## Keys -/

instance : Keyed Company Uuid := ⟨Company.id⟩
instance : Keyed Branch Uuid := ⟨Branch.id⟩
instance : Keyed Warehouse Uuid := ⟨Warehouse.id⟩
instance : Keyed ProductVariant Uuid := ⟨ProductVariant.id⟩
instance : Keyed Uom Uuid := ⟨Uom.id⟩
instance : Keyed PriceList Uuid := ⟨PriceList.id⟩
instance : Keyed SalesAccount Uuid := ⟨SalesAccount.id⟩
instance : Keyed Promotion Uuid := ⟨Promotion.id⟩
instance : Keyed Customer Uuid := ⟨Customer.id⟩
instance : Keyed Supplier Uuid := ⟨Supplier.id⟩
instance : Keyed WarehouseStock (Uuid × Uuid) := ⟨fun s => (s.warehouseId, s.productVariantId)⟩
instance : Keyed Sale Uuid := ⟨Sale.id⟩
instance : Keyed SaleItem Uuid := ⟨SaleItem.id⟩
instance : Keyed SaleReturn Uuid := ⟨SaleReturn.id⟩
instance : Keyed PurchaseOrder Uuid := ⟨PurchaseOrder.id⟩
instance : Keyed PurchaseOrderItem Uuid := ⟨PurchaseOrderItem.id⟩
instance : Keyed PurchaseInvoice Uuid := ⟨PurchaseInvoice.id⟩
instance : Keyed PurchaseReturn Uuid := ⟨PurchaseReturn.id⟩
instance : Keyed PaymentMethod Uuid := ⟨PaymentMethod.id⟩
instance : Keyed Payment Uuid := ⟨Payment.id⟩
instance : Keyed Account Uuid := ⟨Account.id⟩
instance : Keyed FiscalYear Uuid := ⟨FiscalYear.id⟩
instance : Keyed AccountingPeriod Uuid := ⟨AccountingPeriod.id⟩
instance : Keyed JournalEntry Uuid := ⟨JournalEntry.id⟩

end FashionErp
