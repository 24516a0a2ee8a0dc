/-
`inventory/services/stock-transfers.service.ts`: moving stock between two
warehouses of one company.

`create` locks every source and destination row, checks each line alone against
its source row, then walks the lines twice: once writing the two rows of each
line, once (after the transfer is saved) inserting its `TRANSFER_OUT` and
`TRANSFER_IN` movements.
-/
import FashionErp.Core.MasterData
import FashionErp.Inventory.StockLock
import Mathlib.Data.List.Sort

namespace FashionErp.StockTransfersService

open Lib Lib.Tx

structure CreateStockTransferItemDto where
  productVariantId : Uuid
  quantity : ℕ

structure CreateStockTransferDto where
  sourceWarehouseId : Uuid
  destinationWarehouseId : Uuid
  items : List CreateStockTransferItemDto

def generateTransferNumber (companyId : Uuid) (year : ℕ) : DbTx String :=
  nextDocumentNumber .StockTransfer "TRF" companyId year

def assertVariantUsable (companyId : Uuid) (item : CreateStockTransferItemDto) : DbTx Unit := do
  let db ← get
  let id := item.productVariantId
  let variant ← orReject
    ((db.master.productVariants.find? id).filter fun v => v.companyId = companyId && !v.deleted)
    (appException .NotFound s!"Product variant {id} not found")
  rejectIf (variant.status ≠ .Active)
    (appException .ValidationError s!"Product variant {id} is not active")

def lockTargets (dto : CreateStockTransferDto) : List StockKey :=
  (dto.items.map (fun i => stockKey dto.sourceWarehouseId i.productVariantId) ++
    dto.items.map (fun i => stockKey dto.destinationWarehouseId i.productVariantId)).insertionSort
      fun a b => a.1 < b.1 ∨ (a.1 = b.1 ∧ a.2 ≤ b.2)

def sourceKey (dto : CreateStockTransferDto) (item : CreateStockTransferItemDto) : StockKey :=
  stockKey dto.sourceWarehouseId item.productVariantId

def destinationKey (dto : CreateStockTransferDto) (item : CreateStockTransferItemDto) : StockKey :=
  stockKey dto.destinationWarehouseId item.productVariantId

def assertSufficient (dto : CreateStockTransferDto) (lockedRows : JsMap StockKey WarehouseStock)
    (item : CreateStockTransferItemDto) : DbTx Unit :=
  let id := item.productVariantId
  rejectIf ((lockedRows.lookup (sourceKey dto item)).all fun row =>
      row.onHandQuantity < (item.quantity : ℤ))
    (appException .Conflict
      s!"Insufficient stock for product variant {id} in the source warehouse")

def moveItem (dto : CreateStockTransferDto) (lockedRows : JsMap StockKey WarehouseStock)
    (item : CreateStockTransferItemDto) : DbTx (JsMap StockKey WarehouseStock) := do
  let sourceRow ← orReject (lockedRows.lookup (sourceKey dto item)) .typeError
  let newSource := { sourceRow with onHandQuantity := sourceRow.onHandQuantity - item.quantity }
  let lockedRows := lockedRows.insert (sourceKey dto item) newSource
  let destinationRow ← orReject (lockedRows.lookup (destinationKey dto item)) .typeError
  let newDestination :=
    { destinationRow with onHandQuantity := destinationRow.onHandQuantity + item.quantity }
  let lockedRows := lockedRows.insert (destinationKey dto item) newDestination
  updateOnHand newSource newSource.onHandQuantity
  updateOnHand newDestination newDestination.onHandQuantity
  return lockedRows

def outMovement (userId transferId : Uuid) (dto : CreateStockTransferDto)
    (item : CreateStockTransferItemDto) (sourceRow : WarehouseStock) : StockMovement where
  warehouseId := dto.sourceWarehouseId
  productVariantId := item.productVariantId
  movementType := .TransferOut
  quantityChange := -item.quantity
  quantityAfter := sourceRow.onHandQuantity
  referenceType := .StockTransfer
  referenceId := transferId
  createdBy := some userId

def inMovement (userId transferId : Uuid) (dto : CreateStockTransferDto)
    (item : CreateStockTransferItemDto) (destinationRow : WarehouseStock) : StockMovement where
  warehouseId := dto.destinationWarehouseId
  productVariantId := item.productVariantId
  movementType := .TransferIn
  quantityChange := item.quantity
  quantityAfter := destinationRow.onHandQuantity
  referenceType := .StockTransfer
  referenceId := transferId
  createdBy := some userId

def saveTransferMovements (userId transferId : Uuid) (dto : CreateStockTransferDto)
    (lockedRows : JsMap StockKey WarehouseStock) (item : CreateStockTransferItemDto) :
    DbTx Unit := do
  let sourceRow ← orReject (lockedRows.lookup (sourceKey dto item)) .typeError
  let destinationRow ← orReject (lockedRows.lookup (destinationKey dto item)) .typeError
  saveMovement (outMovement userId transferId dto item sourceRow)
  saveMovement (inMovement userId transferId dto item destinationRow)

/-- The transaction of `create`. -/
def createTransaction (companyId userId : Uuid) (now : Instant) (dto : CreateStockTransferDto) :
    DbTx StockTransfer := do
  let transferNumber ← generateTransferNumber companyId now.getUTCFullYear
  dto.items.forM (assertVariantUsable companyId)
  let lockedRows ← lockWarehouseStockRows (lockTargets dto)
  dto.items.forM (assertSufficient dto lockedRows)
  let lockedRows ← dto.items.foldlM (moveItem dto) lockedRows
  let id ← randomUUID
  let stockTransfer : StockTransfer :=
    { id := id, transferNumber := transferNumber, sourceWarehouseId := dto.sourceWarehouseId,
      destinationWarehouseId := dto.destinationWarehouseId, companyId := companyId,
      createdBy := userId,
      items := dto.items.map fun i =>
        { productVariantId := i.productVariantId, quantity := i.quantity } }
  modify fun db =>
    { db with stock := { db.stock with
        stockTransfers := db.stock.stockTransfers ++ [stockTransfer] } }
  dto.items.forM (saveTransferMovements userId id dto lockedRows)
  return stockTransfer

def create (companyId userId : Uuid) (now : Instant) (dto : CreateStockTransferDto) :
    DbTx StockTransfer := do
  rejectIf (dto.sourceWarehouseId = dto.destinationWarehouseId)
    (appException .ValidationError
      "sourceWarehouseId and destinationWarehouseId must be different")
  let sourceWarehouse ← WarehousesService.findById dto.sourceWarehouseId
  let destinationWarehouse ← WarehousesService.findById dto.destinationWarehouseId
  assertWarehouseUsable "sourceWarehouseId" sourceWarehouse companyId
  assertWarehouseUsable "destinationWarehouseId" destinationWarehouse companyId
  createTransaction companyId userId now dto

/-! ## What a transfer posts -/

def itemPostings (dto : CreateStockTransferDto) (item : CreateStockTransferItemDto) :
    List (StockKey × ℤ) :=
  [(sourceKey dto item, -item.quantity), (destinationKey dto item, item.quantity)]

def postings (dto : CreateStockTransferDto) : List (StockKey × ℤ) :=
  dto.items.flatMap (itemPostings dto)

/-- The stock rows and the rows in memory after the lines `done` have moved. -/
def Moved (dto : CreateStockTransferDto) (db : Db) (locked : JsMap StockKey WarehouseStock)
    (done : List CreateStockTransferItemDto) (rows : JsMap StockKey WarehouseStock) (db' : Db) :
    Prop :=
  ∃ stocks, db' = db.setStocks stocks ∧ Mirrors id rows stocks ∧ (∀ k ∈ locked, k ∈ rows) ∧
    ∀ k, onHandIn stocks k =
      onHandIn db.stock.warehouseStock k + net (done.flatMap (itemPostings dto)) k

variable {dto : CreateStockTransferDto} {db : Db} {rows : JsMap StockKey WarehouseStock}
  {item : CreateStockTransferItemDto} {companyId userId : Uuid} {transfer : StockTransfer}

variable {db' : Db}

theorem moveItem_succeeds {locked : JsMap StockKey WarehouseStock}
    {done : List CreateStockTransferItemDto} (hI : Moved dto db locked done rows db')
    (hs : sourceKey dto item ∈ locked) (hd : destinationKey dto item ∈ locked) :
    Succeeds (moveItem dto rows item) db' (Moved dto db locked (done ++ [item])) := by
  obtain ⟨stocks, rfl, hmir, hdom, hon⟩ := hI
  obtain ⟨source, hsource⟩ := lookup_of_mem (hdom _ hs)
  -- The source row is written first; the destination row is read back after it.
  have hmir₁ := hmir.write Function.injective_id hsource (source.onHandQuantity - item.quantity)
  obtain ⟨destination, hdestination⟩ : ∃ row, (rows.insert (sourceKey dto item)
      { source with onHandQuantity := source.onHandQuantity - item.quantity }).lookup
        (destinationKey dto item) = some row :=
    lookup_of_mem ((AList.mem_insert _).2 (.inr (hdom _ hd)))
  have hmir₂ := hmir₁.write Function.injective_id hdestination
    (destination.onHandQuantity + item.quantity)
  refine ⟨_, (db.setStocks stocks).setStocks _, ?_, _, rfl, hmir₂, ?_, ?_⟩
  · simp only [moveItem, commits_bind, commits_orReject, commits_pure]
    refine ⟨source, _, ⟨hsource, rfl⟩, destination, _, ⟨hdestination, rfl⟩, ⟨⟩, _,
      (commits_updateOnHand source (hmir.find? hsource) _ _).2 rfl, ⟨⟩, _,
      (commits_updateOnHand destination (hmir₁.find? hdestination) _ _).2 rfl, rfl, rfl⟩
  · intro k hk
    rw [AList.mem_insert, AList.mem_insert]
    exact .inr (.inr (hdom k hk))
  · intro k
    rw [onHandIn_save (hmir₁ _ _ hdestination), onHandIn_save (hmir _ _ hsource), hon,
      List.flatMap_append, net_append]
    simp only [id, List.flatMap_cons, List.flatMap_nil, List.append_nil, itemPostings, net_cons,
      net_nil, add_zero, sub_sub_cancel_left, add_sub_cancel_left, add_assoc]

theorem saveTransferMovements_succeeds {transferId : Uuid} (db : Db)
    (hmir : Mirrors id rows db.stock.warehouseStock) (hs : sourceKey dto item ∈ rows)
    (hd : destinationKey dto item ∈ rows) :
    Succeeds (saveTransferMovements userId transferId dto rows item) db fun _ db' =>
      ∃ ms, db' = db.addMovements ms ∧ ms.map StockMovement.entry =
        settled (onHandIn db.stock.warehouseStock) (itemPostings dto item) := by
  obtain ⟨source, hsource⟩ := lookup_of_mem hs
  obtain ⟨destination, hdestination⟩ := lookup_of_mem hd
  refine ⟨⟨⟩, _, ?_, [outMovement userId transferId dto item source,
    inMovement userId transferId dto item destination],
    Db.addMovements_addMovements db [_] [_], ?_⟩
  · simp only [saveTransferMovements, commits_bind, commits_orReject, saveMovement,
      commits_modify]
    exact ⟨source, _, ⟨hsource, rfl⟩, destination, _, ⟨hdestination, rfl⟩, ⟨⟩, _, rfl, rfl⟩
  · have hson := hmir.onHand hsource
    have hdon := hmir.onHand hdestination
    simp only [id] at hson hdon
    simp only [itemPostings, settled, List.map_cons, List.map_nil, ← hson, ← hdon]
    rfl

/-! ## The transaction -/

def VariantUsable (db : Db) (companyId : Uuid) (item : CreateStockTransferItemDto) : Prop :=
  ∃ v, (db.master.productVariants.find? item.productVariantId).filter
    (fun v => v.companyId = companyId && !v.deleted) = some v ∧ v.status = .Active

def EachLineCovered (db : Db) (dto : CreateStockTransferDto) : Prop :=
  ∀ item ∈ dto.items, item.quantity ≤ onHandIn db.stock.warehouseStock (sourceKey dto item)

theorem commits_assertVariantUsable (companyId : Uuid) (item : CreateStockTransferItemDto)
    (db : Db) (u : Unit) (db' : Db) :
    Commits (assertVariantUsable companyId item) db u db' ↔
      VariantUsable db companyId item ∧ db = db' := by
  simp only [assertVariantUsable, commits_bind, commits_get, commits_orReject, commits_rejectIf,
    VariantUsable, not_not]
  constructor
  · rintro ⟨_, _, ⟨rfl, rfl⟩, v, _, ⟨hv, rfl⟩, hact, rfl⟩
    exact ⟨⟨v, hv, hact⟩, rfl⟩
  · rintro ⟨⟨v, hv, hact⟩, rfl⟩
    exact ⟨db, db, ⟨rfl, rfl⟩, v, db, ⟨hv, rfl⟩, hact, rfl⟩

theorem mem_lockTargets (dto : CreateStockTransferDto) (h : item ∈ dto.items) :
    sourceKey dto item ∈ lockTargets dto ∧ destinationKey dto item ∈ lockTargets dto := by
  simp only [lockTargets, List.mem_insertionSort, List.mem_append, List.mem_map]
  exact ⟨.inl ⟨item, h, rfl⟩, .inr ⟨item, h, rfl⟩⟩

theorem commits_assertSufficient (db : Db) (hmir : Mirrors id rows db.stock.warehouseStock)
    (hs : sourceKey dto item ∈ rows) (u : Unit) (db' : Db) :
    Commits (assertSufficient dto rows item) db u db' ↔
      (item.quantity : ℤ) ≤ onHandIn db.stock.warehouseStock (sourceKey dto item) ∧ db = db' := by
  obtain ⟨source, hsource⟩ := lookup_of_mem hs
  have hon : source.onHandQuantity = onHandIn db.stock.warehouseStock (sourceKey dto item) :=
    hmir.onHand hsource
  simp [assertSufficient, hsource, hon]

variable {now : Instant}

theorem createTransaction_guards
    (h : Commits (createTransaction companyId userId now dto) db transfer db') :
    (∀ item ∈ dto.items, VariantUsable db companyId item) ∧ EachLineCovered db dto := by
  simp only [createTransaction, generateTransferNumber, lockWarehouseStockRows,
    commits_bind] at h
  obtain ⟨_, db₁, hnumber, _, db₂, hvariants, locked, db₃, hlock, _, db₄, hsuff, -⟩ := h
  obtain ⟨husable, rfl⟩ := (commits_forM_check
    (fun item _ u s' => commits_assertVariantUsable companyId item db₁ u s') _ _).1 hvariants
  obtain ⟨stocks, rfl, hlocked, hmir, hon⟩ := (lockRowsBy_succeeds _ _ _).of_commits hlock
  obtain ⟨hcov, -⟩ := (commits_forM_check
    (fun item hitem u s' => commits_assertSufficient (db₁.setStocks stocks) hmir
      (hlocked _ (mem_lockTargets dto hitem).1) u s') _ _).1 hsuff
  rw [nextDocumentNumber_spec hnumber] at husable hon
  refine ⟨husable, fun item hitem => ?_⟩
  have := hcov item hitem
  rwa [Db.setStocks_stocks, hon] at this

/-- A transfer whose checks pass commits, and posts its lines. -/
theorem createTransaction_succeeds (userId : Uuid) (now : Instant)
    (husable : ∀ item ∈ dto.items, VariantUsable db companyId item) (hcov : EachLineCovered db dto) :
    Succeeds (createTransaction companyId userId now dto) db fun _ db' =>
      Settles db.stock db'.stock (postings dto) := by
  refine (nextDocumentNumber_succeeds _ _ _ _ db).bind fun number db₁ h₁ => ?_
  have hstock : db₁.stock = db.stock := by rw [h₁]
  have hvariants := (commits_forM_check (fun item _ u s' =>
    commits_assertVariantUsable companyId item db₁ u s') ⟨⟩ db₁).2
      ⟨by rw [h₁]; exact husable, rfl⟩
  refine hvariants.succeeds.bind ?_
  rintro _ _ ⟨-, rfl⟩
  refine (lockRowsBy_succeeds id (lockTargets dto) db₁).bind ?_
  rintro locked _ ⟨stocks, rfl, hlocked, hmir, hon⟩
  have hsuff := (commits_forM_check (fun item hitem u s' =>
    commits_assertSufficient (db₁.setStocks stocks) hmir
      (hlocked _ (mem_lockTargets dto hitem).1) u s') ⟨⟩ (db₁.setStocks stocks)).2
    ⟨fun item hitem => by
      rw [Db.setStocks_stocks, hon, hstock]
      exact hcov item hitem, rfl⟩
  refine hsuff.succeeds.bind ?_
  rintro _ _ ⟨-, rfl⟩
  -- The loop over the stock rows.
  refine (foldlM_succeeds (fun done rows db' =>
      Moved dto (db₁.setStocks stocks) locked done rows db')
    (fun done item rest rows s heq hI => by
      have hmem : item ∈ dto.items := by rw [heq]; simp
      have hitem := mem_lockTargets dto hmem
      exact moveItem_succeeds hI (hlocked _ hitem.1) (hlocked _ hitem.2))
    ⟨stocks, rfl, hmir, fun _ hk => hk, fun k => by simp⟩).bind ?_
  rintro rows _ ⟨stocks', rfl, hmir', hdom, hmoved⟩
  refine (randomUUID_succeeds _).bind fun newId db₂ h₂ => ?_
  refine Succeeds.modify_bind ?_
  generalize h₃ : Db.mk _ _ _ _ _ _ _ = db₃
  have hstocks : db₃.stock.warehouseStock = stocks' := by rw [← h₃, h₂]; rfl
  -- The loop over the movements.
  refine (forM_succeeds (fun done db' => ∃ ms, db' = db₃.addMovements ms ∧
      ms.map StockMovement.entry =
        settled (onHandIn db₃.stock.warehouseStock) (done.flatMap (itemPostings dto)))
    (fun done item rest s heq hI => by
      obtain ⟨ms, rfl, hms⟩ := hI
      have hmem : item ∈ dto.items := by rw [heq]; simp
      have hitem := mem_lockTargets dto hmem
      refine (saveTransferMovements_succeeds (db₃.addMovements ms)
        (by rw [Db.addMovements_stocks, hstocks]; exact hmir') (hdom _ (hlocked _ hitem.1))
        (hdom _ (hlocked _ hitem.2))).mono ?_
      rintro _ _ ⟨ms', rfl, hms'⟩
      refine ⟨ms ++ ms', by simp, ?_⟩
      rw [List.map_append, hms, hms', Db.addMovements_stocks, List.flatMap_append, settled_append]
      simp)
    ⟨[], by simp, rfl⟩).bind ?_
  rintro _ _ ⟨ms, rfl, hms⟩
  have hmovements : db₃.stock.stockMovements = db.stock.stockMovements := by
    rw [← h₃, h₂, ← hstock]; rfl
  refine Succeeds.pure ⟨posts_iff.2 ⟨fun k => ?_, ?_⟩, ms, ?_, hms⟩
  · rw [Db.addMovements_stocks, hstocks, hmoved, Db.setStocks_stocks, hon, hstock, postings]
  · rw [Db.addMovements_movements, List.map_append, hmovements, map_posting_of_settled hms,
      postings]
  · rw [Db.addMovements_movements, hmovements]

/-! ## The whole request -/

/-- Everything `create` checks, apart from the interplay of the lines. -/
structure Accepted (db : Db) (companyId : Uuid) (dto : CreateStockTransferDto) : Prop where
  distinct : dto.sourceWarehouseId ≠ dto.destinationWarehouseId
  source : ∃ w, (db.master.warehouses.find? dto.sourceWarehouseId).filter (fun w => !w.deleted) =
    some w ∧ w.status = .Active ∧ w.companyId = companyId
  destination : ∃ w, (db.master.warehouses.find? dto.destinationWarehouseId).filter
    (fun w => !w.deleted) = some w ∧ w.status = .Active ∧ w.companyId = companyId
  variants : ∀ item ∈ dto.items, VariantUsable db companyId item
  covered : EachLineCovered db dto

theorem create_accepted (h : Commits (create companyId userId now dto) db transfer db') :
    Accepted db companyId dto := by
  simp only [create, commits_bind, commits_rejectIf, commits_findById,
    commits_assertWarehouseUsable] at h
  obtain ⟨_, _, ⟨hne, rfl⟩, src, _, ⟨hsrc, rfl⟩, dst, _, ⟨hdst, rfl⟩, _, _, ⟨hsrcOk, rfl⟩, _, _,
    ⟨hdstOk, rfl⟩, htx⟩ := h
  obtain ⟨husable, hcov⟩ := createTransaction_guards htx
  exact ⟨hne, ⟨src, hsrc, hsrcOk⟩, ⟨dst, hdst, hdstOk⟩, husable, hcov⟩

/-- A transfer commits exactly when it is accepted, and then posts its lines. -/
theorem create_succeeds (userId : Uuid) (now : Instant) (h : Accepted db companyId dto) :
    Succeeds (create companyId userId now dto) db fun _ db' =>
      Posts db.stock db'.stock (postings dto) := by
  obtain ⟨src, hsrc, hsrcOk⟩ := h.source
  obtain ⟨dst, hdst, hdstOk⟩ := h.destination
  obtain ⟨transfer, db', htx, hposts, -⟩ :=
    createTransaction_succeeds userId now h.variants h.covered
  refine ⟨transfer, db', ?_, hposts⟩
  simp only [create, commits_bind, commits_rejectIf, commits_findById,
    commits_assertWarehouseUsable]
  exact ⟨⟨⟩, db, ⟨h.distinct, rfl⟩, src, db, ⟨hsrc, rfl⟩, dst, db, ⟨hdst, rfl⟩, ⟨⟩, db,
    ⟨hsrcOk, rfl⟩, ⟨⟩, db, ⟨hdstOk, rfl⟩, htx⟩

theorem createTransaction_settles
    (h : Commits (createTransaction companyId userId now dto) db transfer db') :
    Settles db.stock db'.stock (postings dto) := by
  obtain ⟨husable, hcov⟩ := createTransaction_guards h
  exact (createTransaction_succeeds userId now husable hcov).of_commits h

theorem createTransaction_posts
    (h : Commits (createTransaction companyId userId now dto) db transfer db') :
    Posts db.stock db'.stock (postings dto) :=
  (createTransaction_settles h).1

end FashionErp.StockTransfersService
