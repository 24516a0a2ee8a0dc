/-
What the breakdowns of the reports add up to.

Every breakdown groups the rows of the same `baseQuery`, so each of them counts every document
once, unless its join drops some: an inner join leaves out the documents of a soft-deleted
customer, supplier or payment method.
-/
import FashionErp.Reports.Isolation
import FashionErp.Reports.PurchaseReports

namespace FashionErp

open Lib

/-! ## The claim and the condition -/

/-- The database with its customers, branches, suppliers and payment methods as they are when a
breakdown is read. -/
def Db.withMaster (db : Db) (master : MasterData) : Db := { db with master := master }

section

variable (rt : Runtime) (db : Db) (later : MasterData) (scope : ResolvedCompanyBranchScope)

structure SalesAddUp (query : SalesReportQueryDto) : Prop where
  byDate : ∀ granularity,
    let rows := SalesReportsService.byDate rt (db.withMaster later) scope
      { query with granularity := granularity }
    (rows.map (·.saleCount)).sum = (SalesReportsService.summary rt db scope query).saleCount ∧
      (rows.map (·.grandTotal)).sum = (SalesReportsService.summary rt db scope query).grandTotal
  byBranch :
    let rows := SalesReportsService.byBranch rt (db.withMaster later) scope query
    (rows.map (·.saleCount)).sum = (SalesReportsService.summary rt db scope query).saleCount ∧
      (rows.map (·.grandTotal)).sum = (SalesReportsService.summary rt db scope query).grandTotal
  byCustomer :
    let rows := SalesReportsService.byCustomer rt (db.withMaster later) scope query
    (rows.map (·.saleCount)).sum = (SalesReportsService.summary rt db scope query).saleCount ∧
      (rows.map (·.grandTotal)).sum = (SalesReportsService.summary rt db scope query).grandTotal

structure PurchasesAddUp (query : PurchaseReportQueryDto) : Prop where
  byDate :
    let rows := PurchaseReportsService.byDate rt (db.withMaster later) scope query
    (rows.map (·.purchaseOrderCount)).sum =
        (PurchaseReportsService.summary rt db scope query.fromDate query.toDate).purchaseOrderCount ∧
      (rows.map (·.grandTotal)).sum =
        (PurchaseReportsService.summary rt db scope query.fromDate query.toDate).grandTotal
  bySupplier :
    let rows := PurchaseReportsService.bySupplier rt (db.withMaster later) scope query
    (rows.map (·.purchaseOrderCount)).sum =
        (PurchaseReportsService.summary rt db scope query.fromDate query.toDate).purchaseOrderCount ∧
      (rows.map (·.grandTotal)).sum =
        (PurchaseReportsService.summary rt db scope query.fromDate query.toDate).grandTotal

structure PaymentsAgree (query : PaymentReportQueryDto) : Prop where
  byDirection :
    let byDate := PaymentReportsService.byDate rt db scope query
    let rows := PaymentReportsService.byDirection rt (db.withMaster later) scope query.fromDate
      query.toDate
    (rows.map (·.paymentCount)).sum = (byDate.map (·.paymentCount)).sum ∧
      (rows.map (·.totalAmount)).sum = (byDate.map (·.totalAmount)).sum
  byMethod :
    let byDate := PaymentReportsService.byDate rt db scope query
    let rows := PaymentReportsService.byMethod rt (db.withMaster later) scope query
    (rows.map (·.paymentCount)).sum = (byDate.map (·.paymentCount)).sum ∧
      (rows.map (·.totalAmount)).sum = (byDate.map (·.totalAmount)).sum

/-- The conditions. No document that is reported has lost its customer, its supplier or its
payment method to a soft deletion. -/
def CustomersStand (query : SalesReportQueryDto) : Prop :=
  ∀ sale ∈ SalesReportsService.baseQuery rt db scope query.fromDate query.toDate,
    ∃ c ∈ later.customers.find? sale.customerId, c.deleted = false

def SuppliersStand (query : PurchaseReportQueryDto) : Prop :=
  ∀ po ∈ PurchaseReportsService.baseQuery rt db scope query.fromDate query.toDate,
    ∃ s ∈ later.suppliers.find? po.supplierId, s.deleted = false

def PaymentMethodsStand (query : PaymentReportQueryDto) : Prop :=
  ∀ payment ∈ PaymentReportsService.baseQuery rt db scope query.fromDate query.toDate,
    ∃ m ∈ later.paymentMethods.find? payment.paymentMethodId, m.deleted = false

end

/-! ## Groups, in whichever order they are listed -/

section Groups

variable {α β κ ρ : Type} [DecidableEq κ] {report : List ρ}

theorem sum_counts (f : α → κ) (rows : List α) (row : κ × List α → ρ) (count : ρ → ℕ)
    (hcount : ∀ group, count (row group) = group.2.length)
    (hreport : report.Perm ((groupBy f rows).map row)) :
    (report.map count).sum = rows.length := by
  rw [(hreport.map count).sum_eq, List.map_map, ← length_groupBy f rows]
  exact congrArg List.sum (List.map_congr_left fun group _ => hcount group)

theorem sum_totals (f : α → κ) (rows : List α) (row : κ × List α → ρ) (total : ρ → Cents)
    (amount : α → Cents) (htotal : ∀ group, total (row group) = (group.2.map amount).sum) (hreport : report.Perm ((groupBy f rows).map row)) :
    (report.map total).sum = (rows.map amount).sum := by
  rw [(hreport.map total).sum_eq, List.map_map, ← sum_groupBy f rows amount]
  exact congrArg List.sum (List.map_congr_left fun group _ => htotal group)

theorem isSome_filter_not_deleted {found : Option β} {deleted : β → Bool} :
    (found.filter fun b => !deleted b).isSome ↔ ∃ b ∈ found, deleted b = false := by
  cases found with
  | none => simp
  | some b => simp [Option.filter_some]

theorem joined_iff (rows : List α) (lookup : α → Option β) (f : α × β → κ)
    (row : κ × List (α × β) → ρ) (count : ρ → ℕ) (total : ρ → Cents) (amount : α → Cents)
    (hcount : ∀ group, count (row group) = group.2.length)
    (htotal : ∀ group, total (row group) = (group.2.map fun p => amount p.1).sum) (hreport : report.Perm ((groupBy f (innerJoin rows lookup)).map row)) :
    (report.map count).sum = rows.length ∧ (report.map total).sum = (rows.map amount).sum ↔
      ∀ a ∈ rows, (lookup a).isSome := by
  rw [sum_counts f _ row count hcount hreport,
    sum_totals f _ row total (fun p => amount p.1) htotal hreport, length_innerJoin_eq_iff]
  refine ⟨And.left, fun h => ⟨h, ?_⟩⟩
  have hrows := congrArg (List.map amount) (map_fst_innerJoin h)
  rw [List.map_map] at hrows
  exact congrArg List.sum hrows

end Groups

section

variable (rt : Runtime) (db : Db) (later : MasterData) (scope : ResolvedCompanyBranchScope)

theorem sales_byDate (query : SalesReportQueryDto) (granularity : Option String) :
    let rows := SalesReportsService.byDate rt (db.withMaster later) scope
      { query with granularity := granularity }
    (rows.map (·.saleCount)).sum = (SalesReportsService.summary rt db scope query).saleCount ∧
      (rows.map (·.grandTotal)).sum =
        (SalesReportsService.summary rt db scope query).grandTotal := by
  intro rows
  let row : DateOnly × List Sale → SalesByDateRow := fun group =>
    { date := group.1, saleCount := group.2.length
      grandTotal := (group.2.map Sale.grandTotal).sum }
  have hrows : rows.Perm ((groupBy (fun sale : Sale =>
      SalesReportsService.period rt granularity sale.transactionDate)
        (SalesReportsService.baseQuery rt db scope query.fromDate query.toDate)).map row) :=
    (List.perm_insertionSort _ _).map row
  exact ⟨sum_counts _ _ row _ (fun _ => rfl) hrows, sum_totals _ _ row _ _ (fun _ => rfl) hrows⟩

theorem sales_byBranch (query : SalesReportQueryDto) :
    let rows := SalesReportsService.byBranch rt (db.withMaster later) scope query
    (rows.map (·.saleCount)).sum = (SalesReportsService.summary rt db scope query).saleCount ∧
      (rows.map (·.grandTotal)).sum =
        (SalesReportsService.summary rt db scope query).grandTotal := by
  intro rows
  let joined := SalesReportsService.joinBranch (db.withMaster later)
    (SalesReportsService.baseQuery rt db scope query.fromDate query.toDate)
  let row : (Option Uuid × Option String) × List (Sale × Option Branch) → SalesByBranchRow :=
    fun group =>
      { branchId := group.1.1, branchName := group.1.2, saleCount := group.2.length
        grandTotal := (group.2.map fun p => p.1.grandTotal).sum }
  have hrows : rows.Perm ((groupBy (fun p : Sale × Option Branch =>
      (p.2.map Branch.id, p.2.map Branch.name)) joined).map row) :=
    List.perm_insertionSort _ _
  have hjoined : joined.map Prod.fst =
      SalesReportsService.baseQuery rt db scope query.fromDate query.toDate :=
    map_fst_leftJoin _ _
  constructor
  · rw [sum_counts _ _ row _ (fun _ => rfl) hrows, ← List.length_map Prod.fst, hjoined]
    rfl
  · rw [sum_totals _ _ row _ (fun p => p.1.grandTotal) (fun _ => rfl) hrows]
    have htotals : ((joined.map Prod.fst).map Sale.grandTotal).sum = _ :=
      congrArg (fun sales => (sales.map Sale.grandTotal).sum) hjoined
    rw [List.map_map] at htotals
    exact htotals

theorem salesAddUp_iff (query : SalesReportQueryDto) :
    SalesAddUp rt db later scope query ↔ CustomersStand rt db later scope query := by
  let row : (Uuid × String × String) × List (Sale × Customer) → SalesByCustomerRow := fun group =>
    { customerId := group.1.1, customerCode := group.1.2.1, customerName := group.1.2.2
      saleCount := group.2.length, grandTotal := (group.2.map fun p => p.1.grandTotal).sum }
  have hjoined := joined_iff
    (SalesReportsService.baseQuery rt db scope query.fromDate query.toDate)
    (fun sale => (later.customers.find? sale.customerId).filter fun c => !c.deleted)
    (fun p => (p.2.id, p.2.customerCode, p.2.name)) row (·.saleCount) (·.grandTotal)
    Sale.grandTotal (fun _ => rfl) (fun _ => rfl)
    (List.perm_insertionSort (fun a b => b.grandTotal ≤ a.grandTotal) _)
  simp only [isSome_filter_not_deleted] at hjoined
  constructor
  · intro h
    exact hjoined.1 h.byCustomer
  · intro h
    exact ⟨sales_byDate rt db later scope query, sales_byBranch rt db later scope query,
      hjoined.2 h⟩

theorem purchasesAddUp_iff (query : PurchaseReportQueryDto) :
    PurchasesAddUp rt db later scope query ↔ SuppliersStand rt db later scope query := by
  let dateRow : DateOnly × List PurchaseOrder → PurchaseByDateRow := fun group =>
    { date := group.1, purchaseOrderCount := group.2.length
      grandTotal := (group.2.map PurchaseOrder.grandTotal).sum }
  let row : (Uuid × String × String) × List (PurchaseOrder × Supplier) → PurchaseBySupplierRow :=
    fun group =>
      { supplierId := group.1.1, supplierCode := group.1.2.1, supplierName := group.1.2.2
        purchaseOrderCount := group.2.length
        grandTotal := (group.2.map fun p => p.1.grandTotal).sum }
  have hdates : (PurchaseReportsService.byDate rt (db.withMaster later) scope query).Perm
      ((groupBy (fun po : PurchaseOrder => rt.day po.transactionDate)
        (PurchaseReportsService.baseQuery rt db scope query.fromDate query.toDate)).map dateRow) :=
    (List.perm_insertionSort _ _).map dateRow
  have hjoined := joined_iff
    (PurchaseReportsService.baseQuery rt db scope query.fromDate query.toDate)
    (fun po => (later.suppliers.find? po.supplierId).filter fun s => !s.deleted)
    (fun p => (p.2.id, p.2.supplierCode, p.2.name)) row (·.purchaseOrderCount) (·.grandTotal)
    PurchaseOrder.grandTotal (fun _ => rfl) (fun _ => rfl)
    (List.perm_insertionSort (fun a b => b.grandTotal ≤ a.grandTotal) _)
  simp only [isSome_filter_not_deleted] at hjoined
  constructor
  · intro h
    exact hjoined.1 h.bySupplier
  · intro h
    refine ⟨⟨?_, ?_⟩, hjoined.2 h⟩
    · exact sum_counts _ _ dateRow _ (fun _ => rfl) hdates
    · exact sum_totals _ _ dateRow _ _ (fun _ => rfl) hdates

theorem payments_byDate (query : PaymentReportQueryDto) :
    let payments := PaymentReportsService.baseQuery rt db scope query.fromDate query.toDate
    let rows := PaymentReportsService.byDate rt db scope query
    (rows.map (·.paymentCount)).sum = payments.length ∧
      (rows.map (·.totalAmount)).sum = (payments.map Payment.amount).sum := by
  intro payments rows
  let row : DateOnly × List Payment → PaymentByDateRow := fun group =>
    { date := group.1, paymentCount := group.2.length
      totalAmount := (group.2.map Payment.amount).sum }
  have hrows : rows.Perm
      ((groupBy (fun payment : Payment => rt.day payment.paymentDate) payments).map row) :=
    (List.perm_insertionSort _ _).map row
  exact ⟨sum_counts _ _ row _ (fun _ => rfl) hrows, sum_totals _ _ row _ _ (fun _ => rfl) hrows⟩

def directionRow (payments : List Payment) (direction : PaymentDirection) :
    Option PaymentByDirectionRow :=
  let those := payments.filter fun payment => payment.direction = direction
  if those = [] then none
  else some { direction := direction, paymentCount := those.length
              totalAmount := (those.map Payment.amount).sum }

theorem sum_directions (payments : List Payment) (directions : List PaymentDirection) :
    let rows := directions.filterMap (directionRow payments)
    (rows.map (·.paymentCount)).sum =
        (directions.map (net (payments.map fun payment => (payment.direction, 1)))).sum ∧
      (rows.map (·.totalAmount)).sum =
        (directions.map (net (payments.map fun payment => (payment.direction, payment.amount)))).sum := by
  induction directions with
  | nil => exact ⟨rfl, rfl⟩
  | cons direction directions ih =>
    obtain ⟨hcounts, hamounts⟩ := ih
    have hcount : net (payments.map fun payment => (payment.direction, 1)) direction =
        (payments.filter fun payment => payment.direction = direction).length := by
      rw [net, List.filter_map, List.map_map, Function.comp_def, Function.comp_def]
      simp
    have hamount : net (payments.map fun payment => (payment.direction, payment.amount)) direction =
        ((payments.filter fun payment => payment.direction = direction).map Payment.amount).sum := by
      rw [net, List.filter_map, List.map_map]
      rfl
    dsimp only at hcounts hamounts ⊢
    rw [List.map_cons, List.map_cons, List.sum_cons, List.sum_cons, hcount, hamount, ← hcounts,
      ← hamounts]
    by_cases hnone : (payments.filter fun payment => payment.direction = direction) = []
    · have hrow : directionRow payments direction = none := if_pos hnone
      rw [List.filterMap_cons_none hrow, hnone]
      exact ⟨(zero_add _).symm, (zero_add _).symm⟩
    · have hrow : directionRow payments direction = some _ := if_neg hnone
      rw [List.filterMap_cons_some hrow]
      exact ⟨rfl, rfl⟩

theorem payments_byDirection (fromDate toDate : Option DateString) :
    let payments := PaymentReportsService.baseQuery rt db scope fromDate toDate
    let rows := PaymentReportsService.byDirection rt (db.withMaster later) scope fromDate toDate
    (rows.map (·.paymentCount)).sum = payments.length ∧
      (rows.map (·.totalAmount)).sum = (payments.map Payment.amount).sum := by
  intro payments rows
  obtain ⟨hcounts, hamounts⟩ := sum_directions payments [.Receipt, .Payment, .Refund]
  have hnodup : ([.Receipt, .Payment, .Refund] : List PaymentDirection).Nodup := by decide
  have hall : ∀ d : PaymentDirection,
      d ∈ ([.Receipt, .Payment, .Refund] : List PaymentDirection) := by
    intro d
    cases d <;> decide
  rw [sum_net hnodup fun p _ => hall p.1, List.map_map] at hcounts hamounts
  refine ⟨hcounts.trans ?_, hamounts⟩
  show (payments.map fun _ => 1).sum = payments.length
  rw [List.map_const', List.sum_replicate]
  exact Nat.mul_one _

theorem paymentsAgree_iff (query : PaymentReportQueryDto) :
    PaymentsAgree rt db later scope query ↔ PaymentMethodsStand rt db later scope query := by
  let row : (Uuid × String × String) × List (Payment × PaymentMethod) → PaymentByMethodRow :=
    fun group =>
      { paymentMethodId := group.1.1, paymentMethodCode := group.1.2.1
        paymentMethodName := group.1.2.2, paymentCount := group.2.length
        totalAmount := (group.2.map fun p => p.1.amount).sum }
  have hdates := payments_byDate rt db scope query
  have hdirections := payments_byDirection rt db later scope query.fromDate query.toDate
  have hjoined := joined_iff
    (PaymentReportsService.baseQuery rt db scope query.fromDate query.toDate)
    (fun payment => (later.paymentMethods.find? payment.paymentMethodId).filter fun m => !m.deleted)
    (fun p => (p.2.id, p.2.code, p.2.name)) row (·.paymentCount) (·.totalAmount)
    Payment.amount (fun _ => rfl) (fun _ => rfl)
    (List.perm_insertionSort (fun a b => b.totalAmount ≤ a.totalAmount) _)
  simp only [isSome_filter_not_deleted] at hjoined
  constructor
  · intro h
    exact hjoined.1 ⟨h.byMethod.1.trans hdates.1, h.byMethod.2.trans hdates.2⟩
  · intro h
    have hmethods := hjoined.2 h
    exact ⟨⟨hdirections.1.trans hdates.1.symm, hdirections.2.trans hdates.2.symm⟩,
      ⟨hmethods.1.trans hdates.1.symm, hmethods.2.trans hdates.2.symm⟩⟩

/-- The breakdowns add up exactly when no reported document has lost the customer, supplier or
payment method it is joined to; what is deleted of the branches makes no difference. -/
theorem breakdowns_iff (sales : SalesReportQueryDto) (purchases : PurchaseReportQueryDto)
    (payments : PaymentReportQueryDto) :
    (SalesAddUp rt db later scope sales ↔ CustomersStand rt db later scope sales) ∧
      (PurchasesAddUp rt db later scope purchases ↔ SuppliersStand rt db later scope purchases) ∧
      (PaymentsAgree rt db later scope payments ↔
        PaymentMethodsStand rt db later scope payments) :=
  ⟨salesAddUp_iff rt db later scope sales, purchasesAddUp_iff rt db later scope purchases,
    paymentsAgree_iff rt db later scope payments⟩

end

open ReportsDemo in
theorem deleted_customer_drops_sale :
    let db := shop [1] [customer 300 1 "A"]
    let later := { db.master with
      customers := .ofRows [{ customer 300 1 "A" with deleted := true }] }
    let scope : ResolvedCompanyBranchScope :=
      { companyId := 10, branchId := none, allowedBranchIds := none }
    (SalesReportsService.summary runtime db scope {}).saleCount = 1 ∧
      SalesReportsService.byCustomer runtime (db.withMaster later) scope {} = [] ∧
      ¬ SalesAddUp runtime db later scope {} := by
  intro db later scope
  have hsummary : (SalesReportsService.summary runtime db scope {}).saleCount = 1 := by
    decide +kernel
  have hrows : SalesReportsService.byCustomer runtime (db.withMaster later) scope {} = [] := by
    decide +kernel
  refine ⟨hsummary, hrows, fun h => ?_⟩
  have hcount := h.byCustomer.1
  rw [hrows, hsummary] at hcount
  cases hcount

end FashionErp
