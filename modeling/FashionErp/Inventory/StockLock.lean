/-
`inventory/utils/stock-lock.ts`, and the stock ledger as a book.

Every service that moves stock does it through the same three statements: lock
the `warehouse_stock` row of a pair (creating it with zero on hand first), write
a new on-hand quantity to the locked row, and insert a `stock_movements` row.
This file models the three and says what each does to the stock table.

`stockBook` reads the two tables as one book: the on-hand quantities are the
balances, the movements the log.
-/
import FashionErp.Lib.Running
import FashionErp.Core.Db

namespace FashionErp

open Lib Lib.Tx

/-- `stockKey`: a warehouse and a product variant. -/
abbrev StockKey := Uuid × Uuid

def stockKey (warehouseId productVariantId : Uuid) : StockKey := (warehouseId, productVariantId)

def onHandIn (stocks : Table WarehouseStock) (k : StockKey) : ℤ :=
  ((stocks.find? k).map (·.onHandQuantity)).getD 0

/-- The database with another `warehouse_stock` table. -/
def Db.setStocks (db : Db) (stocks : Table WarehouseStock) : Db :=
  { db with stock := { db.stock with warehouseStock := stocks } }

/-- The database with more `stock_movements` rows. -/
def Db.addMovements (db : Db) (ms : List StockMovement) : Db :=
  { db with stock := { db.stock with stockMovements := db.stock.stockMovements ++ ms } }

def lockWarehouseStockRow (k : StockKey) : DbTx WarehouseStock := do
  let db ← get
  match db.stock.warehouseStock.find? k with
  | some stock => return stock
  | none =>
    let stock : WarehouseStock :=
      { warehouseId := k.1, productVariantId := k.2, onHandQuantity := 0, reservedQuantity := 0 }
    set (db.setStocks (db.stock.warehouseStock.save stock))
    return stock

/-- Lock the row `rowKey k` for each `k` of the list, skipping keys that are
already locked, and collect the rows by `k`. -/
def lockRowsBy {κ : Type} [DecidableEq κ] (rowKey : κ → StockKey) (targets : List κ) :
    DbTx (JsMap κ WarehouseStock) :=
  targets.foldlM (fun result target => do
    if target ∈ result then
      return result
    else
      let row ← lockWarehouseStockRow (rowKey target)
      return result.insert target row) ∅

def lockWarehouseStockRows (targets : List StockKey) : DbTx (JsMap StockKey WarehouseStock) :=
  lockRowsBy id targets

/-- `manager.update(WarehouseStock, stock.id, { onHandQuantity })`. -/
def updateOnHand (stock : WarehouseStock) (onHandQuantity : ℤ) : DbTx Unit :=
  modify fun db =>
    match db.stock.warehouseStock.find? (key stock) with
    | some row =>
      db.setStocks (db.stock.warehouseStock.save { row with onHandQuantity := onHandQuantity })
    | none => db

/-- `manager.save(StockMovement, movement)` of a new movement. -/
def saveMovement (movement : StockMovement) : DbTx Unit :=
  modify fun db => db.addMovements [movement]

@[simp] theorem Db.setStocks_stocks (db : Db) (t : Table WarehouseStock) :
    (db.setStocks t).stock.warehouseStock = t := rfl
@[simp] theorem Db.setStocks_movements (db : Db) (t : Table WarehouseStock) :
    (db.setStocks t).stock.stockMovements = db.stock.stockMovements := rfl
@[simp] theorem Db.setStocks_setStocks (db : Db) (t u : Table WarehouseStock) :
    (db.setStocks t).setStocks u = db.setStocks u := rfl
@[simp] theorem Db.setStocks_self (db : Db) : db.setStocks db.stock.warehouseStock = db := rfl
@[simp] theorem Db.addMovements_stocks (db : Db) (ms : List StockMovement) :
    (db.addMovements ms).stock.warehouseStock = db.stock.warehouseStock := rfl
@[simp] theorem Db.addMovements_movements (db : Db) (ms : List StockMovement) :
    (db.addMovements ms).stock.stockMovements = db.stock.stockMovements ++ ms := rfl
@[simp] theorem Db.addMovements_nil (db : Db) : db.addMovements [] = db := by
  simp [addMovements]
@[simp] theorem Db.addMovements_addMovements (db : Db) (ms ms' : List StockMovement) :
    (db.addMovements ms).addMovements ms' = db.addMovements (ms ++ ms') := by
  simp [addMovements]
@[simp] theorem Db.addMovements_setStocks (db : Db) (ms : List StockMovement)
    (t : Table WarehouseStock) :
    (db.addMovements ms).setStocks t = (db.setStocks t).addMovements ms := rfl

/-! ## Locking -/

/-- What locking row `k` does to the stock table `stocks`: the row is there, no
row is lost or changed, and every on-hand quantity reads as before. -/
structure LockedIn (stocks stocks' : Table WarehouseStock) (k : StockKey)
    (stock : WarehouseStock) : Prop where
  row : stocks'.find? k = some stock
  kept : ∀ j r, stocks.find? j = some r → stocks'.find? j = some r
  onHand : ∀ j, onHandIn stocks' j = onHandIn stocks j

/-- Locking a row always succeeds, and changes no on-hand quantity. -/
theorem lockWarehouseStockRow_succeeds (k : StockKey) (db : Db) :
    Succeeds (lockWarehouseStockRow k) db fun stock db' =>
      ∃ stocks, db' = db.setStocks stocks ∧
        LockedIn db.stock.warehouseStock stocks k stock := by
  cases hk : db.stock.warehouseStock.find? k with
  | some stock =>
    refine ⟨stock, db, ?_, db.stock.warehouseStock, rfl, hk, fun _ _ h => h, fun _ => rfl⟩
    simp [lockWarehouseStockRow, hk]
  | none =>
    have hkey : key (⟨k.1, k.2, 0, 0⟩ : WarehouseStock) = k := rfl
    refine ⟨⟨k.1, k.2, 0, 0⟩,
      db.setStocks (db.stock.warehouseStock.save ⟨k.1, k.2, 0, 0⟩),
      ?_, _, rfl, ?_, ?_, ?_⟩
    · simp [lockWarehouseStockRow, hk]
    · exact Table.find?_save_self _ _
    · intro j r hj
      have hne : k ≠ j := by
        rintro rfl
        rw [hk] at hj
        cases hj
      rw [Table.find?_save_ne _ _ _ (by rwa [hkey]), hj]
    · -- The new row reads zero, as the missing row did.
      intro j
      by_cases hj : k = j
      · subst hj
        simp [onHandIn, Table.find?_save, hkey, hk]
      · simp [onHandIn, Table.find?_save, hkey, hj]

theorem lookup_of_mem {κ ν : Type} [DecidableEq κ] {rows : JsMap κ ν} {k : κ} (h : k ∈ rows) :
    ∃ row, rows.lookup k = some row :=
  Option.isSome_iff_exists.1 (AList.lookup_isSome.2 h)

def Mirrors {κ : Type} [DecidableEq κ] (rowKey : κ → StockKey) (rows : JsMap κ WarehouseStock)
    (stocks : Table WarehouseStock) : Prop :=
  ∀ k stock, rows.lookup k = some stock → stocks.find? (rowKey k) = some stock

theorem lockRowsBy_succeeds {κ : Type} [DecidableEq κ] (rowKey : κ → StockKey)
    (targets : List κ) (db : Db) :
    Succeeds (lockRowsBy rowKey targets) db fun rows db' =>
      ∃ stocks, db' = db.setStocks stocks ∧
        (∀ k ∈ targets, k ∈ rows) ∧ Mirrors rowKey rows stocks ∧
        ∀ j, onHandIn stocks j = onHandIn db.stock.warehouseStock j := by
  have hnil : Mirrors rowKey ∅ db.stock.warehouseStock := by
    intro k stock h
    rw [AList.lookup_empty] at h
    cases h
  refine foldlM_succeeds (fun done (rows : JsMap κ WarehouseStock) db' =>
    ∃ stocks, db' = db.setStocks stocks ∧
      (∀ k ∈ done, k ∈ rows) ∧ Mirrors rowKey rows stocks ∧
      ∀ j, onHandIn stocks j = onHandIn db.stock.warehouseStock j) ?_
    ⟨db.stock.warehouseStock, rfl, by simp, hnil, fun _ => rfl⟩
  rintro done target rest rows _ - ⟨stocks, rfl, hdone, hmir, hon⟩
  by_cases hmem : target ∈ rows
  · refine ⟨rows, _, by simp [hmem], stocks, rfl, ?_, hmir, hon⟩
    intro k hk
    rcases List.mem_append.1 hk with hk | hk
    · exact hdone k hk
    · rw [List.mem_singleton.1 hk]; exact hmem
  · obtain ⟨stock, _, hc, stocks', rfl, hlock⟩ :=
      lockWarehouseStockRow_succeeds (rowKey target)
        (db.setStocks stocks)
    refine ⟨rows.insert target stock, _, ?_, stocks', rfl, ?_, ?_, ?_⟩
    · rw [if_neg hmem, commits_bind]
      exact ⟨stock, _, hc, by simp⟩
    · intro k hk
      rw [AList.mem_insert]
      rcases List.mem_append.1 hk with hk | hk
      · exact .inr (hdone k hk)
      · exact .inl (List.mem_singleton.1 hk)
    · intro k r hk
      by_cases hkt : k = target
      · subst hkt
        rw [AList.lookup_insert, Option.some.injEq] at hk
        rw [← hk, hlock.row]
      · rw [AList.lookup_insert_ne hkt] at hk
        exact hlock.kept _ _ (hmir k r hk)
    · intro j
      rw [hlock.onHand j, Db.setStocks_stocks, hon j]

/-! ## Writing an on-hand quantity -/

variable {stock : WarehouseStock} {stocks : Table WarehouseStock} {ps : List (StockKey × ℤ)}

theorem commits_updateOnHand (row : WarehouseStock) {q : ℤ} {db : Db}
    (hrow : db.stock.warehouseStock.find? (key stock) = some row) (u : Unit) (db' : Db) :
    Commits (updateOnHand stock q) db u db' ↔
      db' = db.setStocks (db.stock.warehouseStock.save { row with onHandQuantity := q }) := by
  simp only [updateOnHand, commits_modify, hrow]

theorem updateOnHand_bind {β : Type} (row : WarehouseStock) {q : ℤ} {db : Db} {k : Unit → DbTx β}
    {R : β → Db → Prop} (hrow : db.stock.warehouseStock.find? (key stock) = some row)
    (h : Succeeds (k ⟨⟩) (db.setStocks (db.stock.warehouseStock.save { row with onHandQuantity := q })) R) :
    Succeeds (updateOnHand stock q >>= k) db R := by
  refine ((commits_updateOnHand row hrow ⟨⟩ _).2 rfl).succeeds.bind ?_
  rintro _ _ ⟨-, rfl⟩
  exact h

theorem onHandIn_save {k : StockKey} {row : WarehouseStock} (hrow : stocks.find? k = some row)
    (q : ℤ) (j : StockKey) :
    onHandIn (stocks.save { row with onHandQuantity := q }) j =
      onHandIn stocks j + if k = j then q - row.onHandQuantity else 0 := by
  have hrow_key : key row = k := Table.key_of_find? hrow
  have hkey : key ({ row with onHandQuantity := q } : WarehouseStock) = k := hrow_key
  by_cases hj : k = j
  · subst hj
    simp [onHandIn, Table.find?_save, hkey, hrow]
  · simp [onHandIn, Table.find?_save, hkey, hj]

theorem Mirrors.find? {κ : Type} [DecidableEq κ] {rowKey : κ → StockKey}
    {rows : JsMap κ WarehouseStock} {k : κ} (hm : Mirrors rowKey rows stocks)
    (hk : rows.lookup k = some stock) : stocks.find? (key stock) = some stock := by
  have hrow := hm k stock hk
  rwa [Table.key_of_find? hrow]

theorem Mirrors.write {κ : Type} [DecidableEq κ] {rowKey : κ → StockKey}
    (hinj : Function.Injective rowKey) {rows : JsMap κ WarehouseStock} {k : κ}
    (hm : Mirrors rowKey rows stocks) (hk : rows.lookup k = some stock) (q : ℤ) :
    Mirrors rowKey (rows.insert k { stock with onHandQuantity := q })
      (stocks.save { stock with onHandQuantity := q }) := by
  have hkey : key ({ stock with onHandQuantity := q } : WarehouseStock) = rowKey k :=
    (Table.key_of_find? (hm k stock hk) : key stock = rowKey k)
  intro j r hj
  by_cases hjk : j = k
  · subst hjk
    rw [AList.lookup_insert, Option.some.injEq] at hj
    rw [← hj, ← hkey, Table.find?_save_self]
  · rw [AList.lookup_insert_ne hjk] at hj
    have hne : rowKey k ≠ rowKey j := fun e => hjk (hinj e).symm
    rw [Table.find?_save_ne _ _ _ (by rwa [hkey]), hm j r hj]

theorem Mirrors.onHand {κ : Type} [DecidableEq κ] {rowKey : κ → StockKey}
    {rows : JsMap κ WarehouseStock} {k : κ} (hm : Mirrors rowKey rows stocks)
    (hk : rows.lookup k = some stock) : stock.onHandQuantity = onHandIn stocks (rowKey k) := by
  rw [onHandIn, hm k stock hk, Option.map_some, Option.getD_some]

/-! ## The stock book -/

def StockMovement.posting (m : StockMovement) : StockKey × ℤ :=
  (stockKey m.warehouseId m.productVariantId, m.quantityChange)

/-- The stock ledger as a book. -/
def StockTables.book (stock : StockTables) : Book StockKey ℤ where
  balance := onHandIn stock.warehouseStock
  log := stock.stockMovements.map StockMovement.posting

/-- `stock'` is `stock` with the list `ps` posted: the on-hand quantities move by
its net and the movements that were inserted post exactly it. -/
def Posts (stock stock' : StockTables) (ps : List (StockKey × ℤ)) : Prop :=
  stock'.book = stock.book.post ps

theorem posts_iff {stock stock' : StockTables} :
    Posts stock stock' ps ↔
      (∀ k, onHandIn stock'.warehouseStock k = onHandIn stock.warehouseStock k + net ps k) ∧
      stock'.stockMovements.map StockMovement.posting =
        stock.stockMovements.map StockMovement.posting ++ ps := by
  simp only [Posts, StockTables.book, Book.post, Book.mk.injEq, funext_iff]

theorem Posts.refl (stock : StockTables) : Posts stock stock [] := by
  rw [posts_iff]
  simp

theorem Posts.trans {s₁ s₂ s₃ : StockTables} {qs : List (StockKey × ℤ)} (h₁ : Posts s₁ s₂ ps)
    (h₂ : Posts s₂ s₃ qs) : Posts s₁ s₃ (ps ++ qs) := by
  rw [Posts] at *
  rw [h₂, h₁, Book.post_post]

/-! ## The stock card -/

def StockMovement.entry (m : StockMovement) : StockKey × ℤ × ℤ :=
  (stockKey m.warehouseId m.productVariantId, m.quantityChange, m.quantityAfter)

/-- Every stock card runs, from zero to the quantity on hand. -/
def StockTables.Chained (stock : StockTables) : Prop :=
  Carries (fun _ => 0) (stock.stockMovements.map StockMovement.entry)
    (onHandIn stock.warehouseStock)

/-- The movements inserted carry the on-hand quantities of `stock` to those of
`stock'`. -/
def Continues (stock stock' : StockTables) : Prop :=
  ∃ ms, stock'.stockMovements = stock.stockMovements ++ ms ∧
    Carries (onHandIn stock.warehouseStock) (ms.map StockMovement.entry)
      (onHandIn stock'.warehouseStock)

/-- `stock'` is `stock` with the list `ps` posted, and every movement inserted
records the on-hand quantity at the end. -/
def Settles (stock stock' : StockTables) (ps : List (StockKey × ℤ)) : Prop :=
  Posts stock stock' ps ∧ ∃ ms, stock'.stockMovements = stock.stockMovements ++ ms ∧
    ms.map StockMovement.entry = settled (onHandIn stock'.warehouseStock) ps

theorem map_posting_of_settled {ms : List StockMovement} {bal : StockKey → ℤ}
    (h : ms.map StockMovement.entry = settled bal ps) : ms.map StockMovement.posting = ps := by
  have hentry : ms.map StockMovement.posting =
      (ms.map StockMovement.entry).map fun e => (e.1, e.2.1) := by
    rw [List.map_map]
    rfl
  rw [hentry, h, settled, List.map_map]
  exact List.map_id ps

theorem Continues.refl (stock : StockTables) : Continues stock stock :=
  ⟨[], by rw [List.append_nil], carries_nil _⟩

theorem Continues.trans {s₁ s₂ s₃ : StockTables} (h₁ : Continues s₁ s₂) (h₂ : Continues s₂ s₃) :
    Continues s₁ s₃ := by
  obtain ⟨ms, hms, hcarries⟩ := h₁
  obtain ⟨ms', hms', hcarries'⟩ := h₂
  refine ⟨ms ++ ms', by rw [hms', hms, List.append_assoc], ?_⟩
  rw [List.map_append]
  exact hcarries.append hcarries'

theorem StockTables.Chained.continues {stock stock' : StockTables} (h : stock.Chained)
    (hs : Continues stock stock') : stock'.Chained := by
  obtain ⟨ms, hms, hcarries⟩ := hs
  rw [Chained, hms, List.map_append]
  exact h.append hcarries

/-- Recording the quantities of the end keeps the stock card running exactly when
no row is posted to twice. -/
theorem StockTables.Chained.settles_iff {stock stock' : StockTables} (h : stock.Chained)
    (hs : Settles stock stock' ps) : stock'.Chained ↔ OncePerKey ps := by
  obtain ⟨hposts, ms, hms, hentries⟩ := hs
  rw [Chained, hms, List.map_append, Carries.append_iff h, hentries]
  exact carries_settled_iff (posts_iff.1 hposts).1

theorem continues_of_write {db : Db} {k : StockKey} {row : WarehouseStock} {m : StockMovement}
    (hin : LockedIn db.stock.warehouseStock stocks k row)
    (hm : m.entry = (k, m.quantityChange, row.onHandQuantity + m.quantityChange)) :
    Continues db.stock ((db.setStocks (stocks.save
      { row with onHandQuantity := row.onHandQuantity + m.quantityChange })).addMovements
        [m]).stock := by
  have hon : ∀ j, onHandIn (stocks.save
      { row with onHandQuantity := row.onHandQuantity + m.quantityChange }) j =
        onHandIn db.stock.warehouseStock j + if k = j then m.quantityChange else 0 := by
    intro j
    rw [onHandIn_save hin.row, hin.onHand, add_sub_cancel_left]
  have hrow : onHandIn db.stock.warehouseStock k = row.onHandQuantity := by
    rw [← hin.onHand, onHandIn, hin.row, Option.map_some, Option.getD_some]
  have hcarries := carries_singleton hon
  rw [hon k, if_pos rfl, hrow] at hcarries
  refine ⟨[m], rfl, ?_⟩
  rw [List.map_singleton, hm]
  exact hcarries

end FashionErp
