/-
`InventoryReportsService`: the stock summary, the movements and the slow-moving stock.

Stock rows and movements carry a warehouse only; the company and the branch are those of
the warehouse they are joined to.
-/
import FashionErp.Lib.Query
import FashionErp.Reports.ReportDates
import FashionErp.Reports.RequestScope

namespace FashionErp

open Lib

structure InventoryStockSummaryQueryDto where
  companyId : Option Uuid := none
  branchId : Option Uuid := none
  warehouseId : Option Uuid := none

structure SlowMovingStockQueryDto where
  companyId : Option Uuid := none
  branchId : Option Uuid := none
  warehouseId : Option Uuid := none
  fromDate : Option DateString := none
  toDate : Option DateString := none

structure InventoryMovementQueryDto where
  companyId : Option Uuid := none
  branchId : Option Uuid := none
  warehouseId : Option Uuid := none
  productVariantId : Option Uuid := none
  page : Option ℕ := none
  limit : Option ℕ := none

structure StockSummaryRow where
  warehouseId : Uuid
  warehouseName : String
  productVariantId : Uuid
  sku : String
  onHandQuantity : ℤ
  reservedQuantity : ℤ

structure MovementRow where
  id : Uuid
  warehouseId : Uuid
  warehouseName : String
  productVariantId : Uuid
  sku : String
  movementType : StockMovementType
  quantityChange : ℤ
  quantityAfter : ℤ
  referenceType : StockMovementReferenceType
  referenceId : Uuid
  createdAt : Instant

structure PaginatedMovements where
  data : List MovementRow
  page : ℕ
  limit : ℕ
  total : ℕ

structure SlowMovingStockRow where
  warehouseId : Uuid
  warehouseName : String
  productVariantId : Uuid
  sku : String
  productName : String
  onHandQuantity : ℤ
  unitsSoldInPeriod : ℤ
  sellingPrice : Cents

def DEFAULT_PAGE : ℕ := 1

def DEFAULT_LIMIT : ℕ := 20

namespace InventoryReportsService

def DEFAULT_SLOW_MOVING_WINDOW_DAYS : ℕ := 30

def MAX_SLOW_MOVING_ROWS : ℕ := 25

variable (rt : Runtime) (db : Db) (scope : ResolvedCompanyBranchScope)

/-- `innerJoin(.. '.warehouse', 'warehouse')`. -/
def joinedWarehouse (warehouseId : Uuid) : Option Warehouse :=
  (db.master.warehouses.find? warehouseId).filter fun w => !w.deleted

/-- `innerJoin(.. '.productVariant', 'variant')`. -/
def joinedVariant (productVariantId : Uuid) : Option ProductVariant :=
  (db.master.productVariants.find? productVariantId).filter fun v => !v.deleted

def inWarehouseScope (warehouseId : Option Uuid) (warehouse : Warehouse) : Bool :=
  warehouse.companyId = scope.companyId && warehouseId.all (fun id => warehouse.id = id) &&
    scope.inBranchScope (some warehouse.branchId)

def stockInScope (warehouseId : Option Uuid) : List (WarehouseStock × Warehouse) :=
  (innerJoin db.stock.warehouseStock.rows fun stock => joinedWarehouse db stock.warehouseId).filter
    fun (_, warehouse) => inWarehouseScope scope warehouseId warehouse

def movementsInScope (warehouseId : Option Uuid) : List (StockMovement × Warehouse) :=
  (innerJoin db.stock.stockMovements fun movement =>
    joinedWarehouse db movement.warehouseId).filter
      fun (_, warehouse) => inWarehouseScope scope warehouseId warehouse

/-- `orderBy('warehouse.name', 'ASC').addOrderBy('variant.sku', 'ASC')`. -/
def nameThenSku (a b : StockSummaryRow) : Prop :=
  rt.weight a.warehouseName < rt.weight b.warehouseName ∨
    (rt.weight a.warehouseName = rt.weight b.warehouseName ∧ rt.weight a.sku ≤ rt.weight b.sku)

instance (a b : StockSummaryRow) : Decidable (nameThenSku rt a b) :=
  inferInstanceAs (Decidable (_ ∨ _))

def stockSummary (query : InventoryStockSummaryQueryDto) : List StockSummaryRow :=
  let rows := innerJoin (stockInScope db scope query.warehouseId) fun (stock, _) =>
    joinedVariant db stock.productVariantId
  (rows.map fun ((stock, warehouse), variant) =>
    { warehouseId := warehouse.id, warehouseName := warehouse.name
      productVariantId := variant.id, sku := variant.sku
      onHandQuantity := stock.onHandQuantity
      reservedQuantity := stock.reservedQuantity }).insertionSort (nameThenSku rt)

def movements (query : InventoryMovementQueryDto) : PaginatedMovements :=
  let page := query.page.getD DEFAULT_PAGE
  let limit := query.limit.getD DEFAULT_LIMIT
  let counted := (movementsInScope db scope query.warehouseId).filter fun (movement, _) =>
    query.productVariantId.all fun id => movement.productVariantId = id
  let rows := (innerJoin counted fun (movement, _) =>
    joinedVariant db movement.productVariantId).map fun ((movement, warehouse), variant) =>
      { id := movement.id
        warehouseId := warehouse.id, warehouseName := warehouse.name
        productVariantId := variant.id, sku := variant.sku
        movementType := movement.movementType
        quantityChange := movement.quantityChange, quantityAfter := movement.quantityAfter
        referenceType := movement.referenceType, referenceId := movement.referenceId
        createdAt := movement.createdAt : MovementRow }
  { data := ((rows.insertionSort fun a b => b.createdAt ≤ a.createdAt).drop
      ((page - 1) * limit)).take limit
    page := page, limit := limit, total := counted.length }

/-! ### `slowMoving` -/

/-- The subquery `salesInPeriod`: the units of a variant in confirmed sales of the window. -/
def unitsSold (fromDate toDate : String) (productVariantId : Uuid) : ℤ :=
  let sales := db.selling.sales.rows.filter fun sale =>
    sale.status = .Confirmed && rt.literal fromDate ≤ sale.transactionDate &&
      sale.transactionDate ≤ rt.literal toDate
  (((sales.flatMap Sale.items).filter fun item => item.productVariantId = productVariantId).map
    SaleItem.quantity).sum

/-- `orderBy('unitsSoldInPeriod', 'ASC').addOrderBy('stock.onHandQuantity', 'DESC')`. -/
def slowestFirst (a b : SlowMovingStockRow) : Prop :=
  a.unitsSoldInPeriod < b.unitsSoldInPeriod ∨
    (a.unitsSoldInPeriod = b.unitsSoldInPeriod ∧ b.onHandQuantity ≤ a.onHandQuantity)

instance (a b : SlowMovingStockRow) : Decidable (slowestFirst a b) :=
  inferInstanceAs (Decidable (_ ∨ _))

def slowMoving (query : SlowMovingStockQueryDto) : Except Failure (List SlowMovingStockRow) := do
  let toDate := (query.toDate.map DateString.text).getD rt.today
  let fromDate ← match query.fromDate with
    | some fromDate => pure fromDate.text
    | none => rt.daysBefore toDate DEFAULT_SLOW_MOVING_WINDOW_DAYS
  let rows := (innerJoin (stockInScope db scope query.warehouseId) fun (stock, _) =>
    joinedVariant db stock.productVariantId).filter fun ((stock, _), _) => stock.onHandQuantity > 0
  let rows := rows.map fun ((stock, warehouse), variant) =>
    { warehouseId := warehouse.id, warehouseName := warehouse.name
      productVariantId := variant.id, sku := variant.sku, productName := variant.productName
      onHandQuantity := stock.onHandQuantity
      unitsSoldInPeriod := unitsSold rt db fromDate toDate variant.id
      sellingPrice := variant.sellingPrice : SlowMovingStockRow }
  return (rows.insertionSort slowestFirst).take MAX_SLOW_MOVING_ROWS

end InventoryReportsService

end FashionErp
