/-
`customer-portal/services/customer-catalog.service.ts`: a product as a shopper is shown it.

`detail` finds an active product of the company, and `project` adds its active variants: each
with its own selling price, what the active warehouses have of it, and the options that are
still active.
-/
import FashionErp.Core.MasterData
import FashionErp.Products.Variants
import FashionErp.Shopping.Catalog

namespace FashionErp.CustomerCatalogService

open Lib Shopping

def VARIANT_LIMIT : ℕ := 100
def ATTRIBUTE_LIMIT : ℕ := VARIANT_LIMIT * 8

/-- A row of `products`. -/
structure ProductRow where
  id : Uuid
  companyId : Uuid
  name : String
  code : String := ""
  description : Option String := none
  imageUrl : Option String := none
  status : ActiveStatus
  deleted : Bool := false

structure AttributeOption where
  id : Uuid
  companyId : Uuid
  kind : AttributeKind
  value : String
  status : ActiveStatus
  deleted : Bool := false

structure ProductVariantAttribute where
  variantId : Uuid
  optionId : Uuid
  kind : AttributeKind
  deleted : Bool := false

instance : Keyed ProductRow Uuid := ⟨ProductRow.id⟩
instance : Keyed AttributeOption Uuid := ⟨AttributeOption.id⟩

structure CatalogTables where
  products : Table ProductRow := .empty
  attributeOptions : Table AttributeOption := .empty
  productVariantAttributes : List ProductVariantAttribute := []

/-! ## The queries -/

section Queries

variable (text : Uuid ↪ String) (catalog : CatalogTables) (db : Db) (companyId : Uuid)

def activeCompany : Option Company :=
  (db.master.companies.find? companyId).filter fun company =>
    company.status = .Active && !company.deleted

def variantRows (productId : Uuid) : List ProductVariant :=
  (db.master.productVariants.rows.filter fun v =>
    v.companyId = companyId && v.productId = productId && v.status = .Active &&
      !v.deleted).insertionSort fun a b => a.sku < b.sku ∨ a.sku = b.sku ∧ text a.id ≤ text b.id

def attributeRows (ids : List Uuid) : List (Uuid × Attribute) :=
  let rows := catalog.productVariantAttributes.filter fun a => a.variantId ∈ ids && !a.deleted
  (rows.filterMap fun a =>
    ((catalog.attributeOptions.find? a.optionId).filter fun option =>
      option.companyId = companyId && option.status = .Active && option.kind = a.kind &&
        !option.deleted).map fun option =>
    (a.variantId, { id := text option.id, kind := option.kind, value := option.value }
      )).insertionSort fun a b =>
    kinds.idxOf a.2.kind < kinds.idxOf b.2.kind ∨ a.2.kind = b.2.kind ∧ a.2.id ≤ b.2.id

def sellsFrom (warehouseId : Uuid) : Bool :=
  (db.master.warehouses.find? warehouseId).any fun warehouse =>
    warehouse.companyId = companyId && warehouse.status = .Active && !warehouse.deleted &&
      (db.master.branches.find? warehouse.branchId).any fun branch =>
        branch.companyId = companyId && branch.status = .Active && !branch.deleted

def quantityAvailable (variantId : Uuid) : ℤ :=
  ((db.stock.warehouseStock.rows.filter fun stock =>
    stock.productVariantId = variantId && sellsFrom db companyId stock.warehouseId).map fun stock =>
      max 0 (stock.onHandQuantity - stock.reservedQuantity)).sum

/-- A variant with the options that are left of it; `none` if one is missing. -/
def projectVariant (attributes : List (Uuid × Attribute)) (row : ProductVariant) : Option Variant :=
  let options := (attributes.filter fun a => a.1 = row.id).map Prod.snd
  if Variants.computeCombinationKey (options.map Attribute.id) ≠ row.combinationKey then none
  else some
    { id := text row.id, sku := row.sku, unitPrice := toFixed2 row.sellingPrice
      quantityAvailable := quantityAvailable db companyId row.id, attributes := options }

end Queries

section Detail

variable (text : Uuid ↪ String) (isPublicImageUrl : String → Bool) (catalog : CatalogTables)
  (db : Db) (companyId : Uuid)

def project (product : ProductRow) (currency : String) : Except Failure Product :=
  let rows := variantRows text db companyId product.id
  if rows.length > VARIANT_LIMIT then
    .error (appException .ValidationError
      "This product has too many variants for chat shopping; please contact staff")
  else
    let attributes := attributeRows text catalog companyId (rows.map (·.id))
    if rows ≠ [] ∧ attributes.length > ATTRIBUTE_LIMIT then
      .error (appException .ValidationError
        "Too many variant options for chat shopping; please contact staff")
    else .ok
      { id := text product.id, name := product.name, description := product.description
        imageUrl := product.imageUrl.filter isPublicImageUrl, currency := currency
        variants := rows.filterMap (projectVariant text db companyId attributes) }

end Detail

end FashionErp.CustomerCatalogService
