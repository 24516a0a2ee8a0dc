/-
`PurchaseReportsService` and `PaymentReportsService`: the reports that the dashboard does not use.

They are built like those on sales: `baseQuery`, the joins a report names, its groups.
-/
import FashionErp.Reports.Dashboard

namespace FashionErp

open Lib

/-! ## `PurchaseReportsService` -/

structure PurchaseReportQueryDto where
  companyId : Option Uuid := none
  branchId : Option Uuid := none
  fromDate : Option DateString := none
  toDate : Option DateString := none

structure PurchaseByDateRow where
  date : DateOnly
  purchaseOrderCount : ℕ
  grandTotal : Cents

structure PurchaseBySupplierRow where
  supplierId : Uuid
  supplierCode : String
  supplierName : String
  purchaseOrderCount : ℕ
  grandTotal : Cents

namespace PurchaseReportsService

variable (rt : Runtime) (db : Db) (scope : ResolvedCompanyBranchScope)

/-- `innerJoin('po.supplier', 'supplier')`. -/
def joinSupplier (purchaseOrders : List PurchaseOrder) : List (PurchaseOrder × Supplier) :=
  innerJoin purchaseOrders fun po =>
    (db.master.suppliers.find? po.supplierId).filter fun s => !s.deleted

variable (query : PurchaseReportQueryDto)

def byDate : List PurchaseByDateRow :=
  let dates := groupBy (fun po : PurchaseOrder => rt.day po.transactionDate)
    (baseQuery rt db scope query.fromDate query.toDate)
  (dates.insertionSort fun a b => a.1 ≤ b.1).map fun (date, purchaseOrders) =>
    { date := date, purchaseOrderCount := purchaseOrders.length
      grandTotal := (purchaseOrders.map PurchaseOrder.grandTotal).sum }

def bySupplier : List PurchaseBySupplierRow :=
  let suppliers := groupBy (fun (_, s) => (s.id, s.supplierCode, s.name))
    (joinSupplier db (baseQuery rt db scope query.fromDate query.toDate))
  orderByDesc PurchaseBySupplierRow.grandTotal <| suppliers.map fun ((id, code, name), rows) =>
    { supplierId := id, supplierCode := code, supplierName := name
      purchaseOrderCount := rows.length
      grandTotal := (rows.map fun (po, _) => po.grandTotal).sum }

end PurchaseReportsService

/-! ## `PaymentReportsService` -/

structure PaymentReportQueryDto where
  companyId : Option Uuid := none
  branchId : Option Uuid := none
  fromDate : Option DateString := none
  toDate : Option DateString := none

structure PaymentByDateRow where
  date : DateOnly
  paymentCount : ℕ
  totalAmount : Cents

structure PaymentByMethodRow where
  paymentMethodId : Uuid
  paymentMethodCode : String
  paymentMethodName : String
  paymentCount : ℕ
  totalAmount : Cents

namespace PaymentReportsService

variable (rt : Runtime) (db : Db) (scope : ResolvedCompanyBranchScope)

/-- `innerJoin('payment.paymentMethod', 'paymentMethod')`. -/
def joinPaymentMethod (payments : List Payment) : List (Payment × PaymentMethod) :=
  innerJoin payments fun payment =>
    (db.master.paymentMethods.find? payment.paymentMethodId).filter fun m => !m.deleted

variable (query : PaymentReportQueryDto)

def byDate : List PaymentByDateRow :=
  let dates := groupBy (fun payment : Payment => rt.day payment.paymentDate)
    (baseQuery rt db scope query.fromDate query.toDate)
  (dates.insertionSort fun a b => a.1 ≤ b.1).map fun (date, payments) =>
    { date := date, paymentCount := payments.length
      totalAmount := (payments.map Payment.amount).sum }

def byMethod : List PaymentByMethodRow :=
  let methods := groupBy (fun (_, m) => (m.id, m.code, m.name))
    (joinPaymentMethod db (baseQuery rt db scope query.fromDate query.toDate))
  orderByDesc PaymentByMethodRow.totalAmount <| methods.map fun ((id, code, name), rows) =>
    { paymentMethodId := id, paymentMethodCode := code, paymentMethodName := name
      paymentCount := rows.length
      totalAmount := (rows.map fun (payment, _) => payment.amount).sum }

end PaymentReportsService

end FashionErp
