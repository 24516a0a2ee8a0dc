/-
`inventory/services/stock-adjustments.service.ts`: correcting one stock row.

An adjustment has a single line, so the check it makes (the new quantity is not
below zero) is the whole of what a stock row needs.
-/
import FashionErp.Core.MasterData
import FashionErp.Inventory.StockLock

namespace FashionErp.StockAdjustmentsService

open Lib Lib.Tx

structure CreateStockAdjustmentDto where
  warehouseId : Uuid
  productVariantId : Uuid
  quantityChange : ℤ
  reason : StockAdjustmentReason

def generateAdjustmentNumber (companyId : Uuid) (year : ℕ) : DbTx String :=
  nextDocumentNumber .StockAdjustment "ADJ" companyId year

def adjustmentMovement (userId : Uuid) (dto : CreateStockAdjustmentDto) (adjustmentId : Uuid)
    (newQuantity : ℤ) : StockMovement where
  warehouseId := dto.warehouseId
  productVariantId := dto.productVariantId
  movementType := if dto.reason = .OpeningBalance then .OpeningBalance else .Adjustment
  quantityChange := dto.quantityChange
  quantityAfter := newQuantity
  referenceType := .StockAdjustment
  referenceId := adjustmentId
  createdBy := some userId

/-- The transaction of `create`. -/
def createTransaction (companyId userId : Uuid) (now : Instant) (dto : CreateStockAdjustmentDto) :
    DbTx StockAdjustment := do
  let adjustmentNumber ← generateAdjustmentNumber companyId now.getUTCFullYear
  let stock ← lockWarehouseStockRow (stockKey dto.warehouseId dto.productVariantId)
  let newQuantity := stock.onHandQuantity + dto.quantityChange
  rejectIf (newQuantity < 0)
    (appException .Conflict "Adjustment would drive on-hand quantity below zero")
  updateOnHand stock newQuantity
  let id ← randomUUID
  let adjustment : StockAdjustment :=
    { id := id, adjustmentNumber := adjustmentNumber, warehouseId := dto.warehouseId,
      productVariantId := dto.productVariantId, quantityChange := dto.quantityChange,
      reason := dto.reason, companyId := companyId, createdBy := userId }
  modify fun db =>
    { db with stock := { db.stock with
        stockAdjustments := db.stock.stockAdjustments ++ [adjustment] } }
  saveMovement (adjustmentMovement userId dto id newQuantity)
  return adjustment

def create (companyId userId : Uuid) (now : Instant) (dto : CreateStockAdjustmentDto) :
    DbTx StockAdjustment := do
  let warehouse ← WarehousesService.findById dto.warehouseId
  assertWarehouseUsable "warehouseId" warehouse companyId
  let variant ← ProductVariantsService.findByIdInCompany dto.productVariantId companyId
  rejectIf (variant.status ≠ .Active)
    (appException .ValidationError
      "productVariantId does not reference an active product variant")
  rejectIf (dto.quantityChange = 0)
    (appException .ValidationError "quantityChange must be nonzero")
  createTransaction companyId userId now dto

def postings (dto : CreateStockAdjustmentDto) : List (StockKey × ℤ) :=
  [(stockKey dto.warehouseId dto.productVariantId, dto.quantityChange)]

variable {adjustment : StockAdjustment} {dto : CreateStockAdjustmentDto}

/-- An adjustment posts its change, and only one its row can take. -/
theorem createTransaction_posts {companyId userId : Uuid} {now : Instant} {db db' : Db}
    (h : Commits (createTransaction companyId userId now dto) db adjustment db') :
    Posts db.stock db'.stock (postings dto) ∧
      0 ≤ onHandIn db.stock.warehouseStock (stockKey dto.warehouseId dto.productVariantId) +
        dto.quantityChange := by
  simp only [createTransaction, generateAdjustmentNumber, commits_bind, commits_rejectIf,
    commits_modify, commits_pure, saveMovement] at h
  obtain ⟨_, db₁, hnumber, stock, db₂, hlock, _, _, ⟨hnonneg, rfl⟩, _, db₃, hupd, id, db₄, hid, _,
    db₅, hsave, _, _, rfl, rfl, rfl⟩ := h
  have hstock₁ : db₁.stock = db.stock := by rw [nextDocumentNumber_spec hnumber]
  obtain ⟨stocks, rfl, hin⟩ := (lockWarehouseStockRow_succeeds _ db₁).of_commits hlock
  have hrow : (db₁.setStocks stocks).stock.warehouseStock.find? (key stock) = some stock := by
    rw [Table.key_of_find? hin.row]
    exact hin.row
  obtain rfl := (commits_updateOnHand stock hrow _ _).1 hupd
  have hon : stock.onHandQuantity =
      onHandIn db.stock.warehouseStock (stockKey dto.warehouseId dto.productVariantId) := by
    rw [← hstock₁, ← hin.onHand, onHandIn, hin.row, Option.map_some, Option.getD_some]
  rw [hon, not_lt] at hnonneg
  refine ⟨posts_iff.2 ⟨fun k => ?_, ?_⟩, hnonneg⟩
  · rw [Db.addMovements_stocks, hsave, (randomUUID_spec hid).1]
    show onHandIn (stocks.save _) k = _
    rw [onHandIn_save hin.row, hin.onHand, hstock₁, add_sub_cancel_left, postings, net_singleton]
  · rw [Db.addMovements_movements, List.map_append, hsave, (randomUUID_spec hid).1, ← hstock₁]
    rfl

theorem create_posts {companyId userId : Uuid} {now : Instant} {db db' : Db}
    (h : Commits (create companyId userId now dto) db adjustment db') :
    Posts db.stock db'.stock (postings dto) ∧
      0 ≤ onHandIn db.stock.warehouseStock (stockKey dto.warehouseId dto.productVariantId) +
        dto.quantityChange := by
  simp only [create, commits_bind, commits_rejectIf, commits_findById,
    commits_assertWarehouseUsable, commits_findVariantInCompany] at h
  obtain ⟨_, _, ⟨-, rfl⟩, _, _, ⟨-, rfl⟩, _, _, ⟨-, rfl⟩, _, _, ⟨-, rfl⟩, _, _, ⟨-, rfl⟩, htx⟩ := h
  exact createTransaction_posts htx

end FashionErp.StockAdjustmentsService
