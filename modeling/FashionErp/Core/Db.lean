/-
The database, and the few operations every service shares.

`Db` is one value holding every table; a service method is a `Tx Db Failure`.
-/
import FashionErp.Core.Entities

namespace FashionErp

open Lib Lib.Tx

inductive DocumentSeries
  | Sale
  | SaleReturn
  | PurchaseOrder
  | GoodsReceipt
  | StockTransfer
  | StockAdjustment
  | PurchaseReturn
  | Payment
  | Journal
  deriving DecidableEq

/-- A row of a `company_..._counters` table. -/
structure DocumentCounter where
  series : DocumentSeries
  companyId : Uuid
  year : ℕ
  lastSequence : ℕ

instance : Keyed DocumentCounter (DocumentSeries × Uuid × ℕ) :=
  ⟨fun c => (c.series, c.companyId, c.year)⟩

structure MasterData where
  companies : Table Company := .empty
  branches : Table Branch := .empty
  warehouses : Table Warehouse := .empty
  productVariants : Table ProductVariant := .empty
  customers : Table Customer := .empty
  suppliers : Table Supplier := .empty
  paymentMethods : Table PaymentMethod := .empty
  accounts : Table Account := .empty
  uoms : Table Uom := .empty
  productVariantUoms : List ProductVariantUom := []
  priceLists : Table PriceList := .empty
  priceListItems : List PriceListItem := []
  salesAccounts : Table SalesAccount := .empty
  salesAccountAssignments : List SalesAccountAssignment := []
  loyaltyPrograms : List LoyaltyProgram := []

structure StockTables where
  warehouseStock : Table WarehouseStock := .empty
  stockMovements : List StockMovement := []
  goodsReceipts : List GoodsReceipt := []
  stockTransfers : List StockTransfer := []
  stockAdjustments : List StockAdjustment := []

structure SalesTables where
  promotions : Table Promotion := .empty
  sales : Table Sale := .empty
  saleReturns : Table SaleReturn := .empty
  loyaltyTransactions : List LoyaltyPointTransaction := []

structure PurchaseTables where
  purchaseOrders : Table PurchaseOrder := .empty
  purchaseInvoices : Table PurchaseInvoice := .empty
  purchaseReturns : Table PurchaseReturn := .empty

structure PaymentTables where
  payments : Table Payment := .empty
  outboxEvents : Table OutboxEvent := .empty

structure AccountingTables where
  fiscalYears : Table FiscalYear := .empty
  accountingPeriods : Table AccountingPeriod := .empty
  journalEntries : Table JournalEntry := .empty

structure Sequences where
  counters : Table DocumentCounter := .empty
  nextId : Uuid := 0

/-- The database. -/
structure Db where
  master : MasterData := {}
  stock : StockTables := {}
  selling : SalesTables := {}
  buying : PurchaseTables := {}
  paying : PaymentTables := {}
  ledger : AccountingTables := {}
  sequences : Sequences := {}

abbrev DbTx := Tx Db Failure

def randomUUID : DbTx Uuid := do
  let db ← get
  set { db with sequences.nextId := db.sequences.nextId + 1 }
  return db.sequences.nextId

/-- The document counter. Create the counter row of the series if it is
missing, lock it, advance it and format the number. Every service has its own
copy of this method; they differ in the table and in the prefix. -/
def nextDocumentNumber (series : DocumentSeries) (numberPrefix : String) (companyId : Uuid)
    (year : ℕ) : DbTx String := do
  let db ← get
  let counter := db.sequences.counters.find? (series, companyId, year)
  let nextSequence := (counter.map (·.lastSequence)).getD 0 + 1
  set { db with
    sequences.counters := db.sequences.counters.save
      { series := series, companyId := companyId, year := year, lastSequence := nextSequence } }
  return formatDocumentNumber numberPrefix year nextSequence

def savePurchaseInvoice (invoice : PurchaseInvoice) : DbTx Unit :=
  modify fun db =>
    { db with buying := { db.buying with
        purchaseInvoices := db.buying.purchaseInvoices.save invoice } }

def savePurchaseOrder (purchaseOrder : PurchaseOrder) : DbTx Unit :=
  modify fun db =>
    { db with buying := { db.buying with
        purchaseOrders := db.buying.purchaseOrders.save purchaseOrder } }

def SequencesOnly (db db' : Db) : Prop :=
  db' = { db with sequences := db'.sequences }

theorem randomUUID_spec {db db' : Db} {id : Uuid} (h : Commits randomUUID db id db') :
    SequencesOnly db db' ∧ id = db.sequences.nextId := by
  simp only [randomUUID, commits_bind, commits_get, commits_set, commits_pure] at h
  obtain ⟨_, _, ⟨rfl, rfl⟩, _, _, rfl, rfl, rfl⟩ := h
  exact ⟨rfl, rfl⟩

theorem randomUUID_succeeds (db : Db) :
    Succeeds randomUUID db fun _ db' => SequencesOnly db db' :=
  ⟨_, _, rfl, rfl⟩

theorem nextDocumentNumber_spec {series : DocumentSeries} {numberPrefix : String}
    {companyId : Uuid} {year : ℕ} {db db' : Db} {number : String}
    (h : Commits (nextDocumentNumber series numberPrefix companyId year) db number db') :
    SequencesOnly db db' := by
  simp only [nextDocumentNumber, commits_bind, commits_get, commits_set, commits_pure] at h
  obtain ⟨_, _, ⟨rfl, rfl⟩, _, _, rfl, -, rfl⟩ := h
  rfl

theorem nextDocumentNumber_nextId {series : DocumentSeries} {numberPrefix : String}
    {companyId : Uuid} {year : ℕ} {db db' : Db} {number : String}
    (h : Commits (nextDocumentNumber series numberPrefix companyId year) db number db') :
    db'.sequences.nextId = db.sequences.nextId := by
  simp only [nextDocumentNumber, commits_bind, commits_get, commits_set, commits_pure] at h
  obtain ⟨_, _, ⟨rfl, rfl⟩, _, _, rfl, -, rfl⟩ := h
  rfl

theorem nextDocumentNumber_succeeds (series : DocumentSeries) (numberPrefix : String)
    (companyId : Uuid) (year : ℕ) (db : Db) :
    Succeeds (nextDocumentNumber series numberPrefix companyId year) db
      fun _ db' => SequencesOnly db db' :=
  ⟨_, _, rfl, rfl⟩

end FashionErp
