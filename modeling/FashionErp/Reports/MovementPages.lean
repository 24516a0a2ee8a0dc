/-
`InventoryReportsService.movements`, page after page.

The rows are ordered by `createdAt` alone, so the database may order the movements of one
transaction one way for a page and another way for the next; and the count joins the warehouse
only, so it has the movements of deleted variants, which are on no page.
-/
import FashionErp.Core.Order
import FashionErp.Lib.Pages
import FashionErp.Reports.InventoryReports

namespace FashionErp.InventoryReportsService

open Lib Chronological

variable (db : Db) (scope : ResolvedCompanyBranchScope) (query : InventoryMovementQueryDto)

/-- What `countQb` counts. -/
def matchingMovements : List (StockMovement × Warehouse) :=
  (movementsInScope db scope query.warehouseId).filter fun (movement, _) =>
    query.productVariantId.all fun id => movement.productVariantId = id

/-- What `qb` selects, in no order. -/
def movementRows : List MovementRow :=
  (innerJoin (matchingMovements db scope query) fun (movement, _) =>
    joinedVariant db movement.productVariantId).map fun ((movement, warehouse), variant) =>
      { id := movement.id
        warehouseId := warehouse.id, warehouseName := warehouse.name
        productVariantId := variant.id, sku := variant.sku
        movementType := movement.movementType
        quantityChange := movement.quantityChange, quantityAfter := movement.quantityAfter
        referenceType := movement.referenceType, referenceId := movement.referenceId
        createdAt := movement.createdAt : MovementRow }

theorem movements_eq : movements db scope query =
    { data := pageOf (query.limit.getD DEFAULT_LIMIT) (query.page.getD DEFAULT_PAGE - 1)
        ((movementRows db scope query).insertionSort fun a b => b.createdAt ≤ a.createdAt)
      page := query.page.getD DEFAULT_PAGE
      limit := query.limit.getD DEFAULT_LIMIT
      total := (matchingMovements db scope query).length } := rfl

/-- `movements` where the database answers page `p` in the order `order p`. -/
def movementsIn (order : ℕ → List MovementRow) : PaginatedMovements :=
  let page := query.page.getD DEFAULT_PAGE
  let limit := query.limit.getD DEFAULT_LIMIT
  { data := pageOf limit (page - 1) (order (page - 1))
    page := page, limit := limit, total := (matchingMovements db scope query).length }

def MayAnswer (order : ℕ → List MovementRow) : Prop :=
  ∀ p, IsOrder MovementRow.createdAt (movementRows db scope query) (order p)

/-- `Math.ceil(total / limit)`. -/
def pageCount (total limit : ℕ) : ℕ := (total + limit - 1) / limit

/-- The data of the pages `1` to `ceil(total / limit)`. -/
def allPages (limit : ℕ) (order : ℕ → List MovementRow) : List MovementRow :=
  (List.range (pageCount (matchingMovements db scope query).length limit)).flatMap fun p =>
    (movementsIn db scope { query with page := some (p + 1), limit := some limit } order).data

/-- The pages partition the report: they have every matching movement, each once. -/
def Partitions (limit : ℕ) : Prop :=
  ∀ order, MayAnswer db scope query order →
    ((allPages db scope query limit order).map (·.id)).Perm
        ((matchingMovements db scope query).map (·.1.id)) ∧
      (allPages db scope query limit order).length = (matchingMovements db scope query).length

def VariantsStand : Prop :=
  ∀ pair ∈ matchingMovements db scope query, (joinedVariant db pair.1.productVariantId).isSome

instance : Decidable (VariantsStand db scope query) := inferInstanceAs (Decidable (∀ pair ∈ _, _))

/-- No two movements of one `createdAt` are on two sides of a page boundary. -/
def TiesWithinPages (limit : ℕ) : Prop :=
  ∀ q, ¬ Straddles MovementRow.createdAt (movementRows db scope query) (q * limit)

variable {db scope query} {limit : ℕ}

theorem allPages_eq (order : ℕ → List MovementRow) : allPages db scope query limit order =
    pages limit (pageCount (matchingMovements db scope query).length limit) order := rfl

theorem le_pageCount_mul (hlimit : 0 < limit) (total : ℕ) : total ≤ pageCount total limit * limit := by
  unfold pageCount
  have hmod := Nat.mod_lt (total + limit - 1) hlimit
  have hdiv := Nat.div_add_mod (total + limit - 1) limit
  rw [Nat.mul_comm] at hdiv
  omega

theorem length_movementRows_le :
    (movementRows db scope query).length ≤ (matchingMovements db scope query).length := by
  unfold movementRows innerJoin
  rw [List.length_map]
  exact List.length_filterMap_le ..

theorem length_movementRows_iff :
    (movementRows db scope query).length = (matchingMovements db scope query).length ↔
      VariantsStand db scope query := by
  unfold movementRows
  rw [List.length_map, length_innerJoin_eq_iff]
  rfl

theorem ids_movementRows (h : VariantsStand db scope query) :
    (movementRows db scope query).map (·.id) = (matchingMovements db scope query).map (·.1.id) := by
  unfold movementRows
  rw [List.map_map]
  have hfirst : (innerJoin (matchingMovements db scope query) fun pair =>
      joinedVariant db pair.1.productVariantId).map Prod.fst = _ := map_fst_innerJoin h
  conv_rhs => rw [← hfirst]
  rw [List.map_map]
  rfl

theorem nodup_ids (hids : (db.stock.stockMovements.map (·.id)).Nodup) :
    ((matchingMovements db scope query).map (·.1.id)).Nodup := by
  have hsublist : ((matchingMovements db scope query).map Prod.fst).Sublist
      db.stock.stockMovements := by
    unfold matchingMovements movementsInScope
    exact ((List.filter_sublist.trans List.filter_sublist).map _).trans
      (map_fst_innerJoin_sublist ..)
  have hnodup := (hsublist.map (·.id)).nodup hids
  rw [List.map_map] at hnodup
  exact hnodup

theorem exists_isOrder : ∃ order, IsOrder MovementRow.createdAt (movementRows db scope query) order := by
  have htotal : Std.Total fun a b : MovementRow => b.createdAt ≤ a.createdAt :=
    ⟨fun a b => le_total b.createdAt a.createdAt⟩
  have htrans : IsTrans MovementRow fun a b => b.createdAt ≤ a.createdAt :=
    ⟨fun _ _ _ hab hbc => le_trans hbc hab⟩
  exact ⟨_, List.perm_insertionSort .., List.pairwise_insertionSort ..⟩

/-- The pages of the report partition it exactly if no matching movement is of a deleted
variant and no boundary between two pages has one `createdAt` on both sides. -/
theorem movement_pages_partition_iff (hids : (db.stock.stockMovements.map (·.id)).Nodup)
    (hlimit : 0 < limit) : Partitions db scope query limit ↔
      VariantsStand db scope query ∧ TiesWithinPages db scope query limit := by
  set total := (matchingMovements db scope query).length with htotal
  have henough : (movementRows db scope query).length ≤ pageCount total limit * limit :=
    length_movementRows_le.trans (le_pageCount_mul hlimit total)
  constructor
  · intro hpartitions
    obtain ⟨order, horder⟩ := @exists_isOrder db scope query
    constructor
    · -- In one order for all the pages, they have the rows and no others.
      have hlength := (hpartitions (fun _ => order) fun _ => horder).2
      rw [allPages_eq, pages_const, List.take_of_length_le (by rw [horder.1.length_eq]; exact henough),
        horder.1.length_eq] at hlength
      exact length_movementRows_iff.1 hlength
    · refine not_straddles horder henough fun orders horders => ?_
      have hperm := (hpartitions orders horders).1
      exact List.Nodup.of_map _ (hperm.nodup_iff.2 (nodup_ids hids))
  · rintro ⟨hvariants, hties⟩ orders horders
    have hperm : (allPages db scope query limit orders).Perm (movementRows db scope query) :=
      pages_perm hties horders henough
    refine ⟨?_, hperm.length_eq.trans (length_movementRows_iff.2 hvariants)⟩
    rw [← ids_movementRows hvariants]
    exact hperm.map _

/-! Two movements of a company with one warehouse. -/

namespace PagesDemo

def receipt (id : Uuid) (millis : ℕ) : StockMovement :=
  { id, warehouseId := 100, productVariantId := 200, movementType := .PurchaseReceipt, quantityChange := 1
    quantityAfter := 1, referenceType := .GoodsReceipt, referenceId := 300
    createdAt := ⟨⟨2026, 3, 1⟩, millis⟩, createdBy := none }

def shop (millis : ℕ) (deleted : Bool) : Db where
  master :=
    { warehouses := .ofRows [{ id := 100, companyId := 10, branchId := 1, status := .Active }]
      productVariants := .ofRows [{ id := 200, companyId := 10, status := .Active, deleted }] }
  stock := { stockMovements := [receipt 1 0, receipt 2 millis] }

def company : ResolvedCompanyBranchScope := { companyId := 10, branchId := none, allowedBranchIds := none }

end PagesDemo

open PagesDemo in
theorem movement_pages_partition_iff_one_page : Partitions (shop 5 false) company {} 20 := by
  refine (movement_pages_partition_iff (by decide) (by decide)).2 ⟨by decide +kernel, ?_⟩
  rintro q ⟨k, hbefore, hafter⟩
  have hle : atLeast MovementRow.createdAt k (movementRows (shop 5 false) company {}) ≤ 2 :=
    List.countP_le_length
  omega

open PagesDemo in
/-- Two movements of one transaction, and the first page's is the second page's as well; and two
of a deleted variant, which are counted and never shown. -/
theorem one_movement_on_two_pages :
    ¬ Partitions (shop 0 false) company {} 1 ∧ ¬ Partitions (shop 5 true) company {} 20 := by
  constructor
  · intro h
    have hboth := (h (fun p => if p = 0 then movementRows (shop 0 false) company {}
      else (movementRows (shop 0 false) company {}).reverse) fun p => ?_).1
    · exact absurd hboth (by decide +kernel)
    · dsimp only
      split
      · exact ⟨.refl _, by decide +kernel⟩
      · exact ⟨List.reverse_perm _, by decide +kernel⟩
  · intro h
    have hempty : movementRows (shop 5 true) company {} = [] := by decide +kernel
    have hlength := (h (fun _ => []) fun p => ⟨by rw [hempty], .nil⟩).2
    exact absurd hlength (by decide +kernel)

end FashionErp.InventoryReportsService
