/-
`SalesReportsService`: the six reports on confirmed sales.

Each starts from `baseQuery`, the confirmed sales of the company within the branches and
dates asked for, joins what it names and groups.
-/
import FashionErp.Lib.Query
import FashionErp.Reports.ReportDates
import FashionErp.Reports.RequestScope

namespace FashionErp

open Lib

/-- `ASC` or `DESC`. -/
inductive SortDirection
  | ASC
  | DESC
  deriving DecidableEq

/-- The two values of `sortBy`. -/
inductive ProductSort
  | unitsSold
  | revenue
  deriving DecidableEq

structure SalesReportQueryDto where
  companyId : Option Uuid := none
  branchId : Option Uuid := none
  fromDate : Option DateString := none
  toDate : Option DateString := none
  granularity : Option String := none
  sortBy : Option ProductSort := none
  sortDirection : Option SortDirection := none
  limit : Option ℕ := none

structure SalesSummary where
  saleCount : ℕ
  grandTotal : Cents
  subtotal : Cents
  discountAmount : Cents
  taxAmount : Cents

structure SalesByDateRow where
  date : DateOnly
  saleCount : ℕ
  grandTotal : Cents

structure SalesByCustomerRow where
  customerId : Uuid
  customerCode : String
  customerName : String
  saleCount : ℕ
  grandTotal : Cents

structure SalesByBranchRow where
  branchId : Option Uuid
  branchName : Option String
  saleCount : ℕ
  grandTotal : Cents

structure SalesByProductRow where
  productName : String
  unitsSold : ℤ
  revenue : Cents

structure SalesCustomerSummary where
  newCustomers : ℕ
  returningCustomers : ℕ
  /-- In cents, before `toFixed(2)` rounds it. -/
  averageCustomerSpend : ℚ

/-- `orderBy(column, 'DESC')`. -/
def orderByDesc {α : Type} (column : α → ℤ) (rows : List α) : List α :=
  rows.insertionSort fun a b => column b ≤ column a

def orderBy {α : Type} (column : α → ℤ) (direction : SortDirection) (rows : List α) : List α :=
  match direction with
  | .ASC => rows.insertionSort fun a b => column a ≤ column b
  | .DESC => orderByDesc column rows

namespace SalesReportsService

variable (rt : Runtime) (db : Db) (scope : ResolvedCompanyBranchScope)

def baseQuery (fromDate toDate : Option DateString) : List Sale :=
  db.selling.sales.rows.filter fun sale =>
    sale.companyId = scope.companyId && sale.status = .Confirmed &&
      scope.inBranchScope sale.branchId && rt.inRange fromDate toDate sale.transactionDate

/-- `innerJoin('sale.customer', 'customer')`. -/
def joinCustomer (sales : List Sale) : List (Sale × Customer) :=
  innerJoin sales fun sale =>
    (db.master.customers.find? sale.customerId).filter fun c => !c.deleted

/-- `leftJoin('sale.branch', 'branch')`. -/
def joinBranch (sales : List Sale) : List (Sale × Option Branch) :=
  leftJoin sales fun sale => sale.branchId.bind fun branchId =>
    (db.master.branches.find? branchId).filter fun b => !b.deleted

variable (query : SalesReportQueryDto)

def summary : SalesSummary :=
  let sales := baseQuery rt db scope query.fromDate query.toDate
  { saleCount := sales.length
    grandTotal := (sales.map Sale.grandTotal).sum
    subtotal := (sales.map Sale.subtotal).sum
    discountAmount := (sales.map Sale.discountAmount).sum
    taxAmount := (sales.map Sale.taxAmount).sum }

/-- `periodExpression`. -/
def period (granularity : Option String) (transactionDate : Instant) : DateOnly :=
  let date := rt.day transactionDate
  if granularity = some "monthly" then date.startOfMonth
  else if granularity = some "weekly" then date.startOfWeek
  else if granularity = some "yearly" then date.startOfYear
  else date

def byDate : List SalesByDateRow :=
  let periods := groupBy (fun sale : Sale => period rt query.granularity sale.transactionDate)
    (baseQuery rt db scope query.fromDate query.toDate)
  (periods.insertionSort fun a b => a.1 ≤ b.1).map fun (date, sales) =>
    { date := date, saleCount := sales.length, grandTotal := (sales.map Sale.grandTotal).sum }

def byCustomer : List SalesByCustomerRow :=
  let customers := groupBy (fun (_, c) => (c.id, c.customerCode, c.name))
    (joinCustomer db (baseQuery rt db scope query.fromDate query.toDate))
  orderByDesc SalesByCustomerRow.grandTotal <| customers.map fun ((id, code, name), rows) =>
    { customerId := id, customerCode := code, customerName := name
      saleCount := rows.length
      grandTotal := (rows.map fun (sale, _) => sale.grandTotal).sum }

def byBranch : List SalesByBranchRow :=
  let branches := groupBy (fun (_, b) => (b.map Branch.id, b.map Branch.name))
    (joinBranch db (baseQuery rt db scope query.fromDate query.toDate))
  orderByDesc SalesByBranchRow.grandTotal <| branches.map fun ((id, name), rows) =>
    { branchId := id, branchName := name
      saleCount := rows.length
      grandTotal := (rows.map fun (sale, _) => sale.grandTotal).sum }

/-! ### `customerSummary` -/

structure PeriodRow where
  saleCount : ℕ
  grandTotal : Cents
  firstSaleDate : Option Instant

/-- `MIN` of a column. -/
def earliest : List Instant → Option Instant
  | [] => none
  | t :: ts => some (ts.foldl (fun first t => if t ≤ first then t else first) t)

/-- Whether the first sale lies in the window; a bound that is missing is infinite, and
one that is no date to `new Date` lets nothing through. -/
def inWindow (firstSaleTime : ℤ) : Bool :=
  query.fromDate.all (fun d => (rt.getTime d.text).any fun fromTime => firstSaleTime ≥ fromTime) &&
    query.toDate.all fun d => (rt.getTime d.text).any fun toTime => firstSaleTime ≤ toTime

def isNewCustomer (row : PeriodRow) : Bool :=
  let hasDateWindow := query.fromDate.isSome || query.toDate.isSome
  match row.firstSaleDate with
  | some firstSaleDate =>
    if hasDateWindow then inWindow rt query firstSaleDate.millisSinceEpoch else row.saleCount ≤ 1
  | none => row.saleCount ≤ 1

def customerSummary : SalesCustomerSummary :=
  let joined := joinCustomer db (baseQuery rt db scope query.fromDate query.toDate)
  let lifetime := joinCustomer db (baseQuery rt db scope none none)
  let periodRows : List PeriodRow := (groupBy (fun (_, c) => c.id) joined).map fun (id, rows) =>
    { saleCount := rows.length
      grandTotal := (rows.map fun (sale, _) => sale.grandTotal).sum
      firstSaleDate := earliest ((lifetime.filter fun (_, c) => c.id = id).map
        fun (sale, _) => sale.transactionDate) }
  if periodRows = [] then
    { newCustomers := 0, returningCustomers := 0, averageCustomerSpend := 0 }
  else
    { newCustomers := (periodRows.filter (isNewCustomer rt query)).length
      returningCustomers := (periodRows.filter fun row => !isNewCustomer rt query row).length
      averageCustomerSpend := (periodRows.map PeriodRow.grandTotal).sum / periodRows.length }

def byProduct : List SalesByProductRow :=
  let items := (baseQuery rt db scope query.fromDate query.toDate).flatMap Sale.items
  let products := (groupBy (fun item : SaleItem => rt.weight item.productNameSnapshot) items).map
    fun (_, items) =>
      { productName := (items.head?.map SaleItem.productNameSnapshot).getD ""
        unitsSold := (items.map SaleItem.quantity).sum
        revenue := (items.map SaleItem.lineTotal).sum : SalesByProductRow }
  let column := if query.sortBy = some .unitsSold then SalesByProductRow.unitsSold
    else SalesByProductRow.revenue
  let direction := if query.sortDirection = some .ASC then SortDirection.ASC else .DESC
  (orderBy column direction products).take (query.limit.getD 5)

end SalesReportsService

end FashionErp
