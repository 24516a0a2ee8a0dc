/-
What a report depends on.

A report request is handled in three steps: the date range is checked where the
controller checks one, the scope is resolved, and the service answers for the scope.
-/
import FashionErp.Reports.Dashboard

namespace FashionErp

open Lib

/-! ## Requests and responses -/

structure TrialBalanceQueryDto where
  companyId : Option Uuid := none
  branchId : Option Uuid := none
  asOfDate : Option DateString := none

structure BalanceSheetQueryDto where
  companyId : Option Uuid := none
  branchId : Option Uuid := none
  asOfDate : Option DateString := none

structure ProfitLossQueryDto where
  companyId : Option Uuid := none
  branchId : Option Uuid := none
  fromDate : Option DateString := none
  toDate : Option DateString := none

inductive SalesReport
  | summary
  | byDate
  | byCustomer
  | byBranch
  | customerSummary
  | byProduct

inductive ReportRequest
  | trialBalance (query : TrialBalanceQueryDto)
  | balanceSheet (query : BalanceSheetQueryDto)
  | profitLoss (query : ProfitLossQueryDto)
  | arApAging (query : ArApAgingQueryDto)
  | sales (report : SalesReport) (query : SalesReportQueryDto)
  | stockSummary (query : InventoryStockSummaryQueryDto)
  | slowMoving (query : SlowMovingStockQueryDto)
  | movements (query : InventoryMovementQueryDto)
  | dashboard (query : DashboardQueryDto)

inductive SalesResponse
  | summary (result : SalesSummary)
  | byDate (rows : List SalesByDateRow)
  | byCustomer (rows : List SalesByCustomerRow)
  | byBranch (rows : List SalesByBranchRow)
  | customerSummary (result : SalesCustomerSummary)
  | byProduct (rows : List SalesByProductRow)

inductive ReportResponse
  | trialBalance (result : TrialBalanceResult)
  | balanceSheet (result : BalanceSheetService.BalanceSheetResult)
  | profitLoss (result : ProfitLossService.ProfitLossResult)
  | arApAging (result : ArApAgingResult)
  | sales (result : SalesResponse)
  | stockSummary (rows : List StockSummaryRow)
  | slowMoving (rows : List SlowMovingStockRow)
  | movements (result : PaginatedMovements)
  | dashboard (result : DashboardResponse)

namespace ReportRequest

/-- `RESOURCE` of the controller. -/
def resource : ReportRequest → String
  | trialBalance _ => "trial_balance"
  | _ => "reports"

def companyId : ReportRequest → Option Uuid
  | trialBalance query => query.companyId
  | balanceSheet query => query.companyId
  | profitLoss query => query.companyId
  | arApAging query => query.companyId
  | sales _ query => query.companyId
  | stockSummary query => query.companyId
  | slowMoving query => query.companyId
  | movements query => query.companyId
  | dashboard query => query.companyId

def branchId : ReportRequest → Option Uuid
  | trialBalance query => query.branchId
  | balanceSheet query => query.branchId
  | profitLoss query => query.branchId
  | arApAging query => query.branchId
  | sales _ query => query.branchId
  | stockSummary query => query.branchId
  | slowMoving query => query.branchId
  | movements query => query.branchId
  | dashboard query => query.branchId

def checkRange (rt : Runtime) : ReportRequest → Except Failure Unit
  | profitLoss query => validateDateRange rt query.fromDate query.toDate
  | sales _ query => validateDateRange rt query.fromDate query.toDate
  | dashboard query => validateDateRange rt query.fromDate query.toDate
  | _ => return ()

section Handler

variable (rt : Runtime) (spelling : DashboardService.UuidSpelling) (cache : DashboardService.Cache) (db : Db)

def salesAnswer (scope : ResolvedCompanyBranchScope) (query : SalesReportQueryDto) :
    SalesReport → SalesResponse
  | .summary => .summary (SalesReportsService.summary rt db scope query)
  | .byDate => .byDate (SalesReportsService.byDate rt db scope query)
  | .byCustomer => .byCustomer (SalesReportsService.byCustomer rt db scope query)
  | .byBranch => .byBranch (SalesReportsService.byBranch rt db scope query)
  | .customerSummary => .customerSummary (SalesReportsService.customerSummary rt db scope query)
  | .byProduct => .byProduct (SalesReportsService.byProduct rt db scope query)

def answer (scope : ResolvedCompanyBranchScope) : ReportRequest → Except Failure ReportResponse
  | trialBalance query =>
    return .trialBalance (TrialBalanceService.query db scope.companyId scope.branchId
      scope.allowedBranchIds (query.asOfDate.map fun d => rt.literal d.text))
  | balanceSheet query =>
    return .balanceSheet (BalanceSheetService.query db scope.companyId scope.branchId
      scope.allowedBranchIds (query.asOfDate.map fun d => rt.literal d.text) (rt.literal rt.today))
  | profitLoss query =>
    return .profitLoss (ProfitLossService.query db scope.companyId scope.branchId
      scope.allowedBranchIds (query.fromDate.map fun d => rt.literal d.text)
      (query.toDate.map fun d => rt.literal d.text))
  | arApAging query => return .arApAging (ArApAgingService.query rt db scope query)
  | sales report query => return .sales (salesAnswer rt db scope query report)
  | stockSummary query =>
    return .stockSummary (InventoryReportsService.stockSummary rt db scope query)
  | slowMoving query =>
    return .slowMoving (← InventoryReportsService.slowMoving rt db scope query)
  | movements query => return .movements (InventoryReportsService.movements db scope query)
  | dashboard query =>
    return .dashboard (DashboardService.getDashboard rt db scope query spelling cache).1

/-- A report request, as the controllers handle it. -/
def get (organization : OrganizationDb) (userRoles : List Role) (userId : Uuid)
    (request : ReportRequest) : Except Failure ReportResponse := do
  request.checkRange rt
  let scope ← resolveRequestCompanyBranchScope organization userRoles userId request.resource
    request.companyId request.branchId
  request.answer rt spelling cache db scope

end Handler

end ReportRequest

/-! ## The visible rows -/

namespace Reach

variable (r : Reach) (db : Db)

def entries : Table JournalEntry :=
  db.ledger.journalEntries.filter fun e => r.sees e.companyId e.branchId

def sales : Table Sale :=
  db.selling.sales.filter fun sale => r.sees sale.companyId sale.branchId

def seesWarehouse (id : Uuid) : Bool :=
  (db.master.warehouses.find? id).any fun w => r.sees w.companyId (some w.branchId)

def stock : Table WarehouseStock :=
  db.stock.warehouseStock.filter fun stock => r.seesWarehouse db stock.warehouseId

def movements : List StockMovement :=
  db.stock.stockMovements.filter fun movement => r.seesWarehouse db movement.warehouseId

def namesAccount (id : Uuid) : Bool :=
  (r.entries db).rows.any fun e => e.lines.any fun line => line.accountId = id

def namesCustomer (id : Uuid) : Bool :=
  (r.sales db).rows.any fun sale => sale.customerId = id

def namesBranch (id : Uuid) : Bool :=
  (r.sales db).rows.any fun sale => sale.branchId = some id

def namesVariant (id : Uuid) : Bool :=
  (r.stock db).rows.any (fun stock => stock.productVariantId = id) ||
    (r.movements db).any fun movement => movement.productVariantId = id

/-- What a user may see of the database. Customers and suppliers are master data of
the company, whatever branch they belong to. -/
def rows : Db where
  master :=
    { branches := db.master.branches.filter fun b =>
        r.sees b.companyId (some b.id) || r.namesBranch db b.id
      warehouses := db.master.warehouses.filter fun w => r.sees w.companyId (some w.branchId)
      productVariants := db.master.productVariants.filter fun v =>
        v.companyId = r.companyId || r.namesVariant db v.id
      customers := db.master.customers.filter fun c =>
        c.companyId = r.companyId || r.namesCustomer db c.id
      suppliers := db.master.suppliers.filter fun s => s.companyId = r.companyId
      accounts := db.master.accounts.filter fun a =>
        a.companyId = r.companyId || r.namesAccount db a.id }
  stock := { warehouseStock := r.stock db, stockMovements := r.movements db }
  selling := { sales := r.sales db }
  buying :=
    { purchaseOrders := db.buying.purchaseOrders.filter fun po => r.sees po.companyId po.branchId }
  paying := { payments := db.paying.payments.filter fun p => r.sees p.companyId p.branchId }
  ledger := { journalEntries := r.entries db }

end Reach

/-! ## Reports on visible rows

`scope` is a resolved scope within the reach `r`. -/

section Visible

variable {r : Reach} {scope : ResolvedCompanyBranchScope}

structure Within (scope : ResolvedCompanyBranchScope) (r : Reach) : Prop where
  company : r.companyId = scope.companyId
  sees : ∀ rowBranchId, scope.inBranchScope rowBranchId = true →
    r.sees scope.companyId rowBranchId = true

/-! ### The ledger reports -/

theorem inBranches_eq (scope : ResolvedCompanyBranchScope) (e : JournalEntry) :
    inBranches scope.branchId scope.allowedBranchIds e = scope.inBranchScope e.branchId := by
  unfold inBranches ResolvedCompanyBranchScope.inBranchScope
  cases scope.branchId with
  | some b => rfl
  | none =>
    cases scope.allowedBranchIds with
    | none => rfl
    | some ids => cases ids <;> rfl

variable {e : JournalEntry}

theorem Within.sees_entry (h : Within scope r)
    (he : reported scope.companyId scope.branchId scope.allowedBranchIds e = true) :
    r.sees e.companyId e.branchId = true := by
  simp only [reported, inBranches_eq, Bool.and_eq_true, decide_eq_true_eq] at he
  rw [he.1.1]
  exact h.sees e.branchId he.2

theorem Within.entries (h : Within scope r) (db : Db) (cond : JournalEntry → Bool) :
    (r.rows db).ledger.journalEntries.rows.filter (fun e =>
        reported scope.companyId scope.branchId scope.allowedBranchIds e && cond e) =
      db.ledger.journalEntries.rows.filter fun e =>
        reported scope.companyId scope.branchId scope.allowedBranchIds e && cond e :=
  filter_filter_of_imp fun _ _ he => h.sees_entry (Bool.and_eq_true_iff.1 he).1

variable {db : Db}

theorem find_account (he : e ∈ (r.entries db).rows)
    {line : JournalEntryLine} (hline : line ∈ e.lines) :
    (r.rows db).master.accounts.find? line.accountId =
      db.master.accounts.find? line.accountId := by
  refine Table.find?_filter_of fun a ha => ?_
  have hid : a.id = line.accountId := Table.key_of_find? ha
  have hnamed : r.namesAccount db a.id = true := by
    rw [hid]
    exact List.any_eq_true.2 ⟨e, he, List.any_eq_true.2 ⟨line, hline, decide_eq_true rfl⟩⟩
  rw [hnamed, Bool.or_true]

theorem joinLines_rows (he : e ∈ (r.entries db).rows) : joinLines (r.rows db) e = joinLines db e :=
  List.filterMap_congr fun line hline => by rw [find_account he hline]

theorem groupByAccount_rows {lines : List JoinedLine}
    (h : ∀ l ∈ lines, r.namesAccount db l.account.id = true) :
    groupByAccount (r.rows db) lines = groupByAccount db lines := by
  have : IsTrans Account fun a b => a.code ≤ b.code := ⟨fun _ _ _ => String.le_trans⟩
  have : Std.Total fun a b : Account => a.code ≤ b.code := ⟨fun a b => String.le_total a.code b.code⟩
  unfold groupByAccount
  rw [filter_insertionSort, filter_insertionSort]
  congr 2
  refine filter_filter_of_imp fun a _ ha => ?_
  obtain ⟨l, hl, hid⟩ := List.any_eq_true.1 ha
  rw [← of_decide_eq_true hid, h l hl, Bool.or_true]

theorem Within.lines (h : Within scope r) (db : Db) (cond : JournalEntry → Bool) :
    ((r.rows db).ledger.journalEntries.rows.filter fun e =>
        reported scope.companyId scope.branchId scope.allowedBranchIds e && cond e).flatMap
          (joinLines (r.rows db)) =
      (db.ledger.journalEntries.rows.filter fun e =>
        reported scope.companyId scope.branchId scope.allowedBranchIds e && cond e).flatMap
          (joinLines db) := by
  rw [h.entries db cond]
  refine List.flatMap_congr fun e he => joinLines_rows ?_
  obtain ⟨he, hcond⟩ := List.mem_filter.1 he
  exact List.mem_filter.2 ⟨he, h.sees_entry (Bool.and_eq_true_iff.1 hcond).1⟩

theorem Within.namesAccount (h : Within scope r) (db : Db) (cond : JournalEntry → Bool) :
    ∀ l ∈ (db.ledger.journalEntries.rows.filter fun e =>
      reported scope.companyId scope.branchId scope.allowedBranchIds e && cond e).flatMap
        (joinLines db), r.namesAccount db l.account.id = true := by
  intro l hl
  obtain ⟨e, he, hl⟩ := List.mem_flatMap.1 hl
  obtain ⟨he, hcond⟩ := List.mem_filter.1 he
  obtain ⟨line, hline, hjoin⟩ := List.mem_filterMap.1 hl
  obtain ⟨a, ha, rfl⟩ := Option.map_eq_some_iff.1 hjoin
  have hid : a.id = line.accountId := Table.key_of_find? (Option.filter_eq_some_iff.1 ha).1
  refine List.any_eq_true.2 ⟨e, List.mem_filter.2
    ⟨he, h.sees_entry (Bool.and_eq_true_iff.1 hcond).1⟩, ?_⟩
  exact List.any_eq_true.2 ⟨line, hline, decide_eq_true hid.symm⟩

theorem Within.trialBalance (h : Within scope r) (db : Db) (asOfDate : Option Instant) :
    TrialBalanceService.query (r.rows db) scope.companyId scope.branchId scope.allowedBranchIds
        asOfDate =
      TrialBalanceService.query db scope.companyId scope.branchId scope.allowedBranchIds
        asOfDate := by
  unfold TrialBalanceService.query
  dsimp only
  rw [h.lines, groupByAccount_rows (h.namesAccount db _)]

theorem Within.balanceSheet (h : Within scope r) (db : Db) (asOfDate : Option Instant)
    (today : Instant) :
    BalanceSheetService.query (r.rows db) scope.companyId scope.branchId scope.allowedBranchIds
        asOfDate today =
      BalanceSheetService.query db scope.companyId scope.branchId scope.allowedBranchIds
        asOfDate today := by
  unfold BalanceSheetService.query
  dsimp only
  rw [h.lines, groupByAccount_rows fun l hl =>
    h.namesAccount db _ l (List.mem_of_mem_filter hl)]

theorem Within.profitLoss (h : Within scope r) (db : Db) (fromDate toDate : Option Instant) :
    ProfitLossService.query (r.rows db) scope.companyId scope.branchId scope.allowedBranchIds
        fromDate toDate =
      ProfitLossService.query db scope.companyId scope.branchId scope.allowedBranchIds
        fromDate toDate := by
  unfold ProfitLossService.query
  simp only [Bool.and_assoc]
  rw [h.lines, groupByAccount_rows fun l hl =>
    h.namesAccount db _ l (List.mem_of_mem_filter hl)]

/-! ### The aging report -/

theorem Within.agingLines (h : Within scope r) (rt : Runtime) (db : Db) (accountIds : List Uuid)
    (asOfDate : String) :
    ArApAgingService.lines rt (r.rows db) scope accountIds asOfDate =
      ArApAgingService.lines rt db scope accountIds asOfDate := by
  unfold ArApAgingService.lines
  rw [h.entries]

theorem Within.customers (h : Within scope r) (db : Db) :
    ArApAgingService.customers (r.rows db) scope = ArApAgingService.customers db scope := by
  refine congrArg _ (filter_filter_of_imp fun c _ hc => ?_)
  rw [h.company, (Bool.and_eq_true_iff.1 hc).1, Bool.true_or]

theorem Within.suppliers (h : Within scope r) (db : Db) :
    ArApAgingService.suppliers (r.rows db) scope = ArApAgingService.suppliers db scope := by
  refine congrArg _ (filter_filter_of_imp fun s _ hs => ?_)
  rw [h.company, (Bool.and_eq_true_iff.1 hs).1]

theorem Within.arApAging (h : Within scope r) (rt : Runtime) (db : Db) (query : ArApAgingQueryDto) :
    ArApAgingService.query rt (r.rows db) scope query =
      ArApAgingService.query rt db scope query := by
  simp only [ArApAgingService.query, ArApAgingService.queryReceivables,
    ArApAgingService.queryPayables, ArApAgingService.queryParties, h.customers, h.suppliers,
    h.agingLines]

/-! ### The sales reports -/

theorem Within.baseQuery (h : Within scope r) (rt : Runtime) (db : Db)
    (fromDate toDate : Option DateString) :
    SalesReportsService.baseQuery rt (r.rows db) scope fromDate toDate =
      SalesReportsService.baseQuery rt db scope fromDate toDate := by
  refine filter_filter_of_imp fun sale _ hsale => ?_
  simp only [Bool.and_eq_true, decide_eq_true_eq] at hsale
  rw [hsale.1.1.1]
  exact h.sees sale.branchId hsale.1.2

theorem Within.sees_sale (h : Within scope r) {rt : Runtime}
    {fromDate toDate : Option DateString} {sale : Sale}
    (hsale : sale ∈ SalesReportsService.baseQuery rt db scope fromDate toDate) :
    sale ∈ (r.sales db).rows := by
  rw [← h.baseQuery rt db fromDate toDate] at hsale
  exact List.mem_of_mem_filter hsale

theorem Within.joinCustomer (h : Within scope r) (rt : Runtime) (db : Db)
    (fromDate toDate : Option DateString) :
    SalesReportsService.joinCustomer (r.rows db)
        (SalesReportsService.baseQuery rt db scope fromDate toDate) =
      SalesReportsService.joinCustomer db
        (SalesReportsService.baseQuery rt db scope fromDate toDate) := by
  refine innerJoin_congr fun sale hsale => congrArg _ (Table.find?_filter_of fun c hc => ?_)
  have hnamed : r.namesCustomer db c.id = true :=
    List.any_eq_true.2 ⟨sale, h.sees_sale hsale, decide_eq_true (Table.key_of_find? hc).symm⟩
  rw [hnamed, Bool.or_true]

theorem Within.joinBranch (h : Within scope r) (rt : Runtime) (db : Db)
    (fromDate toDate : Option DateString) :
    SalesReportsService.joinBranch (r.rows db)
        (SalesReportsService.baseQuery rt db scope fromDate toDate) =
      SalesReportsService.joinBranch db
        (SalesReportsService.baseQuery rt db scope fromDate toDate) := by
  refine leftJoin_congr fun sale hsale => ?_
  cases hbranch : sale.branchId with
  | none => rfl
  | some branchId =>
    change ((r.rows db).master.branches.find? branchId).filter _ = _
    refine congrArg (Option.filter _) (Table.find?_filter_of fun b hb => ?_)
    have hid : b.id = branchId := Table.key_of_find? hb
    have hnamed : r.namesBranch db b.id = true :=
      List.any_eq_true.2 ⟨sale, h.sees_sale hsale, decide_eq_true (by rw [hid]; exact hbranch)⟩
    rw [hnamed, Bool.or_true]

theorem Within.salesAnswer (h : Within scope r) (rt : Runtime) (db : Db)
    (query : SalesReportQueryDto) (report : SalesReport) :
    ReportRequest.salesAnswer rt (r.rows db) scope query report =
      ReportRequest.salesAnswer rt db scope query report := by
  cases report with
  | summary =>
    simp only [ReportRequest.salesAnswer, SalesReportsService.summary, h.baseQuery]
  | byDate => simp only [ReportRequest.salesAnswer, SalesReportsService.byDate, h.baseQuery]
  | byCustomer =>
    simp only [ReportRequest.salesAnswer, SalesReportsService.byCustomer, h.baseQuery,
      h.joinCustomer]
  | byBranch =>
    simp only [ReportRequest.salesAnswer, SalesReportsService.byBranch, h.baseQuery, h.joinBranch]
  | customerSummary =>
    simp only [ReportRequest.salesAnswer, SalesReportsService.customerSummary, h.baseQuery,
      h.joinCustomer]
  | byProduct => simp only [ReportRequest.salesAnswer, SalesReportsService.byProduct, h.baseQuery]

/-! ### The inventory reports -/

theorem Within.sees_warehouse (h : Within scope r) {warehouseId : Option Uuid} {w : Warehouse}
    (hw : InventoryReportsService.inWarehouseScope scope warehouseId w = true) :
    r.sees w.companyId (some w.branchId) = true := by
  simp only [InventoryReportsService.inWarehouseScope, Bool.and_eq_true, decide_eq_true_eq] at hw
  rw [hw.1.1]
  exact h.sees (some w.branchId) hw.2

theorem Within.joinedWarehouse (h : Within scope r) (db : Db) (warehouseId : Option Uuid) (id : Uuid) :
    (InventoryReportsService.joinedWarehouse (r.rows db) id).filter
        (InventoryReportsService.inWarehouseScope scope warehouseId) =
      (InventoryReportsService.joinedWarehouse db id).filter
        (InventoryReportsService.inWarehouseScope scope warehouseId) := by
  have hfind : (r.rows db).master.warehouses.find? id =
      (db.master.warehouses.find? id).filter fun w => r.sees w.companyId (some w.branchId) :=
    Table.find?_filter ..
  unfold InventoryReportsService.joinedWarehouse
  rw [hfind]
  cases db.master.warehouses.find? id with
  | none => rfl
  | some w =>
    by_cases hw : InventoryReportsService.inWarehouseScope scope warehouseId w = true
    · simp only [Option.filter_some, h.sees_warehouse hw, if_true]
    · cases hsees : r.sees w.companyId (some w.branchId) with
      | true => simp only [Option.filter_some, hsees, if_true]
      | false => cases hdeleted : w.deleted <;> simp [Option.filter_some, hsees, hw, hdeleted]

theorem Within.unseen (h : Within scope r) {id : Uuid} (warehouseId : Option Uuid)
    (hunseen : ¬ r.seesWarehouse db id = true) :
    (InventoryReportsService.joinedWarehouse db id).filter
      (InventoryReportsService.inWarehouseScope scope warehouseId) = none := by
  rw [Option.filter_eq_none_iff]
  intro w hw hscope
  apply hunseen
  rw [Reach.seesWarehouse, (Option.filter_eq_some_iff.1 hw).1, Option.any_some]
  exact h.sees_warehouse hscope

theorem Within.joinWarehouse (h : Within scope r) {α : Type} (db : Db) (rows : List α)
    (warehouseOf : α → Uuid) (warehouseId : Option Uuid) :
    (innerJoin (rows.filter fun a => r.seesWarehouse db (warehouseOf a)) fun a =>
        InventoryReportsService.joinedWarehouse (r.rows db) (warehouseOf a)).filter
        (fun pair => InventoryReportsService.inWarehouseScope scope warehouseId pair.2) =
      (innerJoin rows fun a => InventoryReportsService.joinedWarehouse db (warehouseOf a)).filter
        fun pair => InventoryReportsService.inWarehouseScope scope warehouseId pair.2 := by
  rw [filter_innerJoin, filter_innerJoin, innerJoin_congr fun a _ =>
    h.joinedWarehouse db warehouseId (warehouseOf a)]
  refine innerJoin_filter fun a _ hunseen => ?_
  exact h.unseen warehouseId hunseen

theorem Within.stockInScope (h : Within scope r) (db : Db) (warehouseId : Option Uuid) :
    InventoryReportsService.stockInScope (r.rows db) scope warehouseId =
      InventoryReportsService.stockInScope db scope warehouseId :=
  h.joinWarehouse db db.stock.warehouseStock.rows WarehouseStock.warehouseId warehouseId

theorem Within.movementsInScope (h : Within scope r) (db : Db) (warehouseId : Option Uuid) :
    InventoryReportsService.movementsInScope (r.rows db) scope warehouseId =
      InventoryReportsService.movementsInScope db scope warehouseId :=
  h.joinWarehouse db db.stock.stockMovements StockMovement.warehouseId warehouseId

theorem joinedVariant_rows {id : Uuid} (h : r.namesVariant db id = true) :
    InventoryReportsService.joinedVariant (r.rows db) id =
      InventoryReportsService.joinedVariant db id := by
  refine congrArg _ (Table.find?_filter_of fun v hv => ?_)
  have hid : v.id = id := Table.key_of_find? hv
  rw [hid, h, Bool.or_true]

theorem Within.seesWarehouse (h : Within scope r) {α : Type} {rows : List α}
    {warehouseOf : α → Uuid} {warehouseId : Option Uuid} {pair : α × Warehouse}
    (hpair : pair ∈ (innerJoin rows fun a =>
      InventoryReportsService.joinedWarehouse db (warehouseOf a)).filter
        fun pair => InventoryReportsService.inWarehouseScope scope warehouseId pair.2) :
    pair.1 ∈ rows.filter fun a => r.seesWarehouse db (warehouseOf a) := by
  obtain ⟨hjoin, hscope⟩ := List.mem_filter.1 hpair
  obtain ⟨hrow, hfind⟩ := mem_innerJoin.1 hjoin
  have hw := (Option.filter_eq_some_iff.1 hfind).1
  refine List.mem_filter.2 ⟨hrow, ?_⟩
  rw [Reach.seesWarehouse, hw, Option.any_some]
  exact h.sees_warehouse hscope

theorem Within.stockSummary (h : Within scope r) (rt : Runtime) (db : Db)
    (query : InventoryStockSummaryQueryDto) :
    InventoryReportsService.stockSummary rt (r.rows db) scope query =
      InventoryReportsService.stockSummary rt db scope query := by
  unfold InventoryReportsService.stockSummary
  rw [h.stockInScope, innerJoin_congr fun pair hpair => joinedVariant_rows ?_]
  rw [Reach.namesVariant, Bool.or_eq_true]
  exact .inl (List.any_eq_true.2 ⟨pair.1, h.seesWarehouse hpair, decide_eq_true rfl⟩)

theorem Within.movements (h : Within scope r) (db : Db) (query : InventoryMovementQueryDto) :
    InventoryReportsService.movements (r.rows db) scope query =
      InventoryReportsService.movements db scope query := by
  unfold InventoryReportsService.movements
  dsimp only
  rw [h.movementsInScope, innerJoin_congr fun pair hpair => joinedVariant_rows ?_]
  rw [Reach.namesVariant, Bool.or_eq_true]
  exact .inr (List.any_eq_true.2 ⟨pair.1, h.seesWarehouse (List.mem_of_mem_filter hpair),
    decide_eq_true rfl⟩)

/-! ### The dashboard -/

theorem Within.purchaseSummary (h : Within scope r) (rt : Runtime) (db : Db)
    (fromDate toDate : Option DateString) :
    PurchaseReportsService.summary rt (r.rows db) scope fromDate toDate =
      PurchaseReportsService.summary rt db scope fromDate toDate := by
  have hbase : PurchaseReportsService.baseQuery rt (r.rows db) scope fromDate toDate =
      PurchaseReportsService.baseQuery rt db scope fromDate toDate := by
    refine filter_filter_of_imp fun po _ hpo => ?_
    simp only [Bool.and_eq_true, decide_eq_true_eq] at hpo
    rw [hpo.1.1.1]
    exact h.sees po.branchId hpo.1.2
  simp only [PurchaseReportsService.summary, hbase]

theorem Within.byDirection (h : Within scope r) (rt : Runtime) (db : Db)
    (fromDate toDate : Option DateString) :
    PaymentReportsService.byDirection rt (r.rows db) scope fromDate toDate =
      PaymentReportsService.byDirection rt db scope fromDate toDate := by
  have hbase : PaymentReportsService.baseQuery rt (r.rows db) scope fromDate toDate =
      PaymentReportsService.baseQuery rt db scope fromDate toDate := by
    refine filter_filter_of_imp fun payment _ hpayment => ?_
    simp only [Bool.and_eq_true, decide_eq_true_eq] at hpayment
    rw [hpayment.1.1.1]
    exact h.sees payment.branchId hpayment.1.2
  simp only [PaymentReportsService.byDirection, hbase]

theorem Within.computeDashboard (h : Within scope r) (rt : Runtime) (db : Db)
    (query : DashboardQueryDto) :
    DashboardService.computeDashboard rt (r.rows db) scope query =
      DashboardService.computeDashboard rt db scope query := by
  simp only [DashboardService.computeDashboard, SalesReportsService.summary, h.baseQuery,
    h.purchaseSummary, h.byDirection, h.stockSummary, h.arApAging, h.trialBalance]

/-! ### Every report but one -/

theorem Within.answer (h : Within scope r) (rt : Runtime) (spelling : DashboardService.UuidSpelling)
    (cache : DashboardService.Cache) (db : Db) {request : ReportRequest}
    (hrequest : ∀ query, request ≠ .slowMoving query) :
    request.answer rt spelling cache (r.rows db) scope =
      request.answer rt spelling cache db scope := by
  cases request with
  | trialBalance query => simp only [ReportRequest.answer, h.trialBalance]
  | balanceSheet query => simp only [ReportRequest.answer, h.balanceSheet]
  | profitLoss query => simp only [ReportRequest.answer, h.profitLoss]
  | arApAging query => simp only [ReportRequest.answer, h.arApAging]
  | sales report query => simp only [ReportRequest.answer, h.salesAnswer]
  | stockSummary query => simp only [ReportRequest.answer, h.stockSummary]
  | slowMoving query => exact absurd rfl (hrequest query)
  | movements query => simp only [ReportRequest.answer, h.movements]
  | dashboard query =>
    simp only [ReportRequest.answer, DashboardService.getDashboard, h.computeDashboard]

end Visible

/-! ## Scopes and requests -/

section Requests

variable (organization : OrganizationDb) (userRoles : List Role) (userId : Uuid)

def userReach (resource : String) (companyId : Uuid) : Reach where
  companyId := companyId
  branches := (DataScopeService.resolveScope userRoles resource).bind fun resolved =>
    userBranches organization userId resolved.scope

def InCompanyScope (resource : String) (companyId : Uuid) : Prop :=
  ∃ resolved, DataScopeService.resolveScope userRoles resource = some resolved ∧
    resolved.scope ≠ .Warehouse ∧
    DataScopeService.CompanyReach organization userId resolved.scope companyId

def SameVisibleRows (request : ReportRequest) (db₁ db₂ : Db) : Prop :=
  ∀ scope, resolveRequestCompanyBranchScope organization userRoles userId request.resource
      request.companyId request.branchId = .ok scope →
    let reach := userReach organization userRoles userId request.resource scope.companyId
    reach.rows db₁ = reach.rows db₂

variable {organization userRoles userId} {scope : ResolvedCompanyBranchScope}
  {requestedBranchId requestedCompanyId : Option Uuid}

theorem Answers.reach_eq {resource : String} {r : Reach}
    (h : Answers organization userRoles userId resource requestedCompanyId requestedBranchId scope
      r) : r = userReach organization userRoles userId resource scope.companyId := by
  obtain ⟨resolved, hresolved, -, -, hbranches⟩ := h.resolved
  obtain ⟨companyId, branches⟩ := r
  have hcompany : companyId = scope.companyId := h.company
  have hsame : branches = userBranches organization userId resolved.scope := hbranches
  rw [userReach, hresolved, hcompany, hsame]
  rfl

theorem Answers.toWithin {resource : String} {r : Reach}
    (h : Answers organization userRoles userId resource requestedCompanyId requestedBranchId scope
      r) : Within scope r :=
  ⟨h.company, fun _ hrow => h.within hrow⟩

theorem get_error_of_scope {rt : Runtime} {spelling : DashboardService.UuidSpelling}
    {cache : DashboardService.Cache} {db : Db} {request : ReportRequest}
    (h : ∀ scope, resolveRequestCompanyBranchScope organization userRoles userId request.resource
      request.companyId request.branchId ≠ .ok scope) :
    ∃ failure, request.get rt spelling cache db organization userRoles userId =
      .error failure := by
  unfold ReportRequest.get
  cases request.checkRange rt with
  | error failure => exact ⟨failure, rfl⟩
  | ok _ =>
    cases hscope : resolveRequestCompanyBranchScope organization userRoles userId request.resource
        request.companyId request.branchId with
    | error failure => exact ⟨failure, rfl⟩
    | ok scope => exact absurd hscope (h scope)

end Requests

/-- Reports do not leak across scopes. A report other than the slow-moving stock
answers the same on two databases that agree on what the user may see of the resolved
company. A requested company outside the user's scope is rejected, and so is, under a
BRANCH scope, a branch that is not among the user's. Two dashboard requests share a cache
entry only if they are for one company, one set of branches and the same date texts. -/
theorem reports_do_not_leak (rt : Runtime) (spelling : DashboardService.UuidSpelling)
    (organization : OrganizationDb) (userRoles : List Role) (userId : Uuid)
    (request : ReportRequest) :
    ((∀ query, request ≠ .slowMoving query) → ∀ db₁ db₂,
      SameVisibleRows organization userRoles userId request db₁ db₂ →
      request.get rt spelling (fun _ => none) db₁ organization userRoles userId =
        request.get rt spelling (fun _ => none) db₂ organization userRoles userId) ∧
    (∀ companyId, request.companyId = some companyId →
      ¬ InCompanyScope organization userRoles userId request.resource companyId →
      ∀ cache db, ∃ failure,
        request.get rt spelling cache db organization userRoles userId = .error failure) ∧
    (∀ branchId resolved, request.branchId = some branchId →
      DataScopeService.resolveScope userRoles request.resource = some resolved →
      resolved.scope = .Branch →
      branchId ∉ DataScopeService.membershipIds organization .branch userId →
      ∀ cache db, ∃ failure,
        request.get rt spelling cache db organization userRoles userId = .error failure) ∧
    ∀ scope₁ scope₂ query₁ query₂,
      DashboardService.cacheKey scope₁ query₁ spelling =
        DashboardService.cacheKey scope₂ query₂ spelling →
      scope₁.companyId = scope₂.companyId ∧ scope₁.branchSet = scope₂.branchSet ∧
        query₁.fromDate.map DateString.text = query₂.fromDate.map DateString.text ∧
        query₁.toDate.map DateString.text = query₂.toDate.map DateString.text := by
  refine ⟨fun hrequest db₁ db₂ hsame => ?_, fun companyId hcompany hout cache db => ?_,
    fun branchId resolved hbranch hresolved hscope hout cache db => ?_,
    fun scope₁ scope₂ query₁ query₂ => DashboardService.cacheKey_inj spelling⟩
  · unfold ReportRequest.get
    cases request.checkRange rt with
    | error failure => rfl
    | ok _ =>
      cases hresolve : resolveRequestCompanyBranchScope organization userRoles userId
          request.resource request.companyId request.branchId with
      | error failure => rfl
      | ok scope =>
        obtain ⟨r, hanswers⟩ := resolveRequestCompanyBranchScope_ok hresolve
        have hrows : r.rows db₁ = r.rows db₂ := by
          rw [hanswers.reach_eq]
          exact hsame scope hresolve
        have hanswer := fun db => hanswers.toWithin.answer rt spelling (fun _ => none) db hrequest
        change request.answer rt spelling _ db₁ scope = request.answer rt spelling _ db₂ scope
        rw [← hanswer db₁, hrows, hanswer db₂]
  · refine get_error_of_scope fun scope hresolve => hout ?_
    obtain ⟨r, hanswers⟩ := resolveRequestCompanyBranchScope_ok hresolve
    obtain ⟨resolved, hresolved, hwarehouse, hreach, -⟩ := hanswers.resolved
    rw [hanswers.requestedCompany companyId hcompany]
    exact ⟨resolved, hresolved, hwarehouse, hreach⟩
  · refine get_error_of_scope fun scope hresolve => hout ?_
    obtain ⟨r, hanswers⟩ := resolveRequestCompanyBranchScope_ok hresolve
    obtain ⟨resolved', hresolved', -, -, hbranches⟩ := hanswers.resolved
    obtain rfl : resolved = resolved' := Option.some.inj (hresolved.symm.trans hresolved')
    rw [userBranches, if_pos hscope] at hbranches
    exact (hanswers.branches _ hbranches).2.1 branchId hbranch

/-! ## Two branches of one company

Company 10 has the branches 1 and 2; user 7 is a member of branch 1, user 8 of the
company. Branch 1 has stock of a variant and a posted line on account 500. -/

namespace ReportsDemo

def runtime : Runtime where
  literal text := if text = "2026-03-01" then ⟨⟨2026, 3, 1⟩, 0⟩ else ⟨⟨2026, 3, 31⟩, 0⟩
  day := Instant.date
  weight := id
  getTime text := if text = "2026-03-01" then some 1772323200000 else some 1774915200000
  localeCompare a b := if a < b then -1 else if a = b then 0 else 1
  now := "2026-03-31T09:00:00.000Z"
  today := "2026-03-31"
  daysBefore _ _ := .ok "2026-03-01"

theorem digit_of_mem_toString (id : Uuid) : ∀ c ∈ (toString id).toList,
    c ∈ "0123456789abcdef-".toList := by
  intro c hc
  rw [Nat.toString_eq_ofList_toDigits, String.toList_ofList] at hc
  have hdigit := Nat.isDigit_of_mem_toDigits (by decide) (by decide) hc
  simp only [Char.isDigit, Bool.and_eq_true, decide_eq_true_eq] at hdigit
  have hlow : 48 ≤ c.val.toNat := by simpa using UInt32.le_iff_toNat_le.1 hdigit.1
  have hhigh : c.val.toNat ≤ 57 := by simpa using UInt32.le_iff_toNat_le.1 hdigit.2
  have hchar : c = Char.ofNat c.val.toNat := (Char.ofNat_toNat c).symm
  generalize c.val.toNat = n at hlow hhigh hchar
  subst hchar
  have hdecimal : ∀ k < 10, Char.ofNat (48 + k) ∈ "0123456789abcdef-".toList := by decide
  have hn : n = 48 + (n - 48) := by omega
  rw [hn]
  exact hdecimal (n - 48) (by omega)

def spelling : DashboardService.UuidSpelling where
  text := toString
  injective a b h := by
    have hdigits : Nat.toDigits 10 a = Nat.toDigits 10 b := by
      rw [← Nat.toList_repr, ← Nat.toList_repr]
      exact congrArg String.toList h
    rw [← Nat.ofDigitChars_ten_toDigits (n := a), hdigits, Nat.ofDigitChars_ten_toDigits]
  digits := digit_of_mem_toString

def branchRole : Role :=
  { id := 1, code := "BRANCH_MANAGER", resourceScopes := [{ resource := "reports", scope := .Branch }] }

def companyRole : Role :=
  { id := 2, code := "MANAGER", resourceScopes := [{ resource := "reports", scope := .Company }] }

def master : MasterData :=
  { branches := .ofRows [{ id := 1, companyId := 10, status := .Active },
      { id := 2, companyId := 10, status := .Active }]
    warehouses := .ofRows [{ id := 100, companyId := 10, branchId := 1, status := .Active }]
    productVariants := .ofRows [{ id := 200, companyId := 10, status := .Active }] }

def organization : OrganizationDb where
  master := master
  memberships
    | .branch => .ofRows [{ userId := 7, targetId := 1 }]
    | .company => .ofRows [{ userId := 8, targetId := 10 }]
    | .warehouse => .empty

def customer (id : Uuid) (branchId : Uuid) (code : String) : Customer :=
  { id := id, companyId := 10, branchId := some branchId, customerCode := code
    receivableAccountId := some 500, status := .Active }

def sale (id branchId : Uuid) : Sale :=
  { id := id, transactionDate := ⟨⟨2026, 3, 10⟩, 0⟩, companyId := 10, customerId := 300
    branchId := some branchId, warehouseId := none, status := .Confirmed, grandTotal := 1000
    paidAmount := 0, balanceAmount := 1000, currency := "USD", fulfillmentStatus := none
    shippedAt := none, deliveredAt := none, updatedBy := none
    items := [{ id := 1, productVariantId := 200, quantity := 4, baseQuantitySnapshot := none }] }

def entry : JournalEntry :=
  { id := 7, journalNumber := "JE", companyId := 10, branchId := some 1, accountingPeriodId := 1
    entryDate := ⟨⟨2026, 3, 10⟩, 0⟩, status := .Posted, sourceType := some .Manual
    sourceId := none, description := "", totalDebit := 1000, totalCredit := 1000, createdBy := 99
    postedBy := none, postedAt := none
    lines := [{ accountId := 500, debitAmount := 1000, creditAmount := 0, referenceType := none
                referenceId := none, description := none }] }

def shop (branches : List Uuid) (customers : List Customer) : Db where
  master := { master with customers := .ofRows customers }
  stock :=
    { warehouseStock := .ofRows [{ warehouseId := 100, productVariantId := 200
                                   onHandQuantity := 9, reservedQuantity := 0 }] }
  selling := { sales := .ofRows (branches.mapIdx fun i b => sale (400 + i) b) }
  ledger := { journalEntries := .ofRows [entry] }

def ownRows (r : Reach) (db : Db) : Db :=
  let rows := r.rows db
  let own (companyId : Uuid) (branchId : Option Uuid) : Bool :=
    companyId = r.companyId && (branchId = none || r.sees companyId branchId)
  { rows with master := { rows.master with
      customers := db.master.customers.filter fun c => own c.companyId c.branchId
      suppliers := db.master.suppliers.filter fun s => own s.companyId s.branchId } }

def figures : Except Failure ReportResponse → List ℤ
  | .ok (.slowMoving rows) => rows.map SlowMovingStockRow.unitsSoldInPeriod
  | .ok (.arApAging result) => result.receivables.map fun row => row.partyId
  | _ => []

end ReportsDemo

open ReportsDemo in
theorem reports_do_not_leak_branch :
    (ReportRequest.stockSummary {}).get runtime spelling (fun _ => none) (shop [1] []) organization
        [branchRole] 7 =
      (ReportRequest.stockSummary {}).get runtime spelling (fun _ => none) (shop [1, 2] [])
        organization [branchRole] 7 := by
  refine (reports_do_not_leak runtime spelling organization [branchRole] 7 (.stockSummary {})).1
    (fun _ h => by cases h) _ _ ?_
  intro scope hscope
  have hresolved : resolveRequestCompanyBranchScope organization [branchRole] 7 "reports" none none =
      .ok { companyId := 10, branchId := none, allowedBranchIds := some [1] } := by decide +kernel
  obtain rfl := Except.ok.inj (hscope.symm.trans hresolved)
  rfl

open ReportsDemo in
theorem other_branches_show :
    ownRows ⟨10, some [1]⟩ (shop [1] []) = ownRows ⟨10, some [1]⟩ (shop [1, 2] []) ∧
      (ReportRequest.slowMoving {}).get runtime spelling (fun _ => none) (shop [1] []) organization
          [branchRole] 7 ≠
        (ReportRequest.slowMoving {}).get runtime spelling (fun _ => none) (shop [1, 2] [])
          organization [branchRole] 7 ∧
      ownRows ⟨10, some [1]⟩ (shop [1] [customer 300 1 "A"]) =
        ownRows ⟨10, some [1]⟩ (shop [1] [customer 300 1 "A", customer 301 2 "B"]) ∧
      (ReportRequest.arApAging {}).get runtime spelling (fun _ => none)
          (shop [1] [customer 300 1 "A"]) organization [branchRole] 7 ≠
        (ReportRequest.arApAging {}).get runtime spelling (fun _ => none)
          (shop [1] [customer 300 1 "A", customer 301 2 "B"]) organization [branchRole] 7 ∧
      resolveRequestCompanyBranchScope organization [companyRole] 8 "reports" none (some 3) =
        .ok { companyId := 10, branchId := some 3, allowedBranchIds := none } := by
  refine ⟨rfl, fun h => ?_, rfl, fun h => ?_, by decide +kernel⟩
  · have hunits := congrArg figures h
    revert hunits
    decide +kernel
  · have hcustomers := congrArg figures h
    revert hcustomers
    decide +kernel

end FashionErp
