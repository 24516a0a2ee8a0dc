/-
`products/services/product-variants.service.ts`: the variants of a product, and the attribute
options that tell them apart.

The options of a variant are rows of a table of their own.
-/
import FashionErp.Core.Db
import FashionErp.Lib.Column
import FashionErp.Lib.Json

namespace FashionErp.Variants

open Lib

/-! ## Options and keys -/

abbrev OptionId := String

inductive AttributeKind
  | Color
  | Size
  | Style
  | Material
  deriving DecidableEq

def AttributeKind.value : AttributeKind → String
  | .Color => "COLOR"
  | .Size => "SIZE"
  | .Style => "STYLE"
  | .Material => "MATERIAL"

structure AttributeOption where
  id : OptionId
  companyId : Uuid
  kind : AttributeKind
  status : ActiveStatus
  deleted : Bool := false

/-- `sort` without a function: by UTF-16 code units. -/
def sortTexts (texts : List String) : List String :=
  texts.insertionSort fun a b => Json.codeUnits a ≤ Json.codeUnits b

def computeCombinationKey (optionIds : List OptionId) : String :=
  "|".intercalate (sortTexts optionIds)

theorem computeCombinationKey_perm {xs ys : List OptionId} (h : xs.Perm ys) :
    computeCombinationKey xs = computeCombinationKey ys := by
  unfold computeCombinationKey sortTexts
  rw [Json.insertionSort_codeUnits_perm h]

/-! ## Variants -/

structure ProductRow where
  id : Uuid
  companyId : Uuid
  deleted : Bool := false

/-- An entity or a row of `product_variants`; `deleted` is that `deletedAt` is set. -/
structure Variant where
  id : Uuid
  productId : Uuid
  companyId : Uuid
  sku : String
  combinationKey : String
  costPrice : Cents
  sellingPrice : Cents
  baseUomId : Option Uuid
  status : ActiveStatus
  deleted : Bool := false
  deriving DecidableEq

instance : Keyed Variant Uuid := ⟨Variant.id⟩

structure VariantAttribute where
  variantId : Uuid
  optionId : OptionId
  kind : AttributeKind

/-- The tables the service reads and writes; `base` has the units and the purchase orders. -/
structure VariantDb where
  base : Db
  uoms : Table Uom := .empty
  products : List ProductRow := []
  options : List AttributeOption := []
  variants : Table Variant := .empty
  attributes : List VariantAttribute := []
  variantUoms : List ProductVariantUom := []

structure AttributeInput where
  kind : AttributeKind
  optionId : OptionId
  deriving DecidableEq

structure CreateProductVariantDto where
  sku : String
  costPrice : Cents
  sellingPrice : Cents
  baseUomId : Option Uuid := none
  attributes : Option (List AttributeInput) := none

structure UpdateProductVariantDto where
  costPrice : Option Cents := none
  sellingPrice : Option Cents := none
  attributes : Option (List AttributeInput) := none

def optionIds (db : VariantDb) (variantId : Uuid) : List OptionId :=
  (db.attributes.filter fun a => a.variantId = variantId).map (·.optionId)

/-! ## The checks -/

/-- `ProductsService.findByIdInCompany`. -/
def findProduct (productId companyId : Uuid) (db : VariantDb) : Except Failure Unit :=
  if db.products.any fun p => p.id = productId && p.companyId = companyId && !p.deleted then .ok ()
  else .error (appException .NotFound "Product not found")

def findByIdInCompany (id companyId : Uuid) (db : VariantDb) : Except Failure Variant :=
  match (db.variants.find? id).filter fun v => v.companyId = companyId && !v.deleted with
  | some variant => .ok variant
  | none => .error (appException .NotFound "Product variant not found")

/-- One round of the loop of `resolveAttributes`, with what it has collected. -/
def resolveAttribute (companyId : Uuid) (db : VariantDb) (attributes : List AttributeInput)
    (input : AttributeInput) : Except Failure (List AttributeInput) :=
  let kind := input.kind.value
  let optionId := input.optionId
  if attributes.any fun a => a.kind = input.kind then
    .error (appException .ValidationError s!"Duplicate attribute kind in variant: {kind}")
  else
    match db.options.find? fun o => o.id = optionId && o.companyId = companyId && !o.deleted with
    | none => .error (appException .NotFound "Attribute option not found")
    | some option =>
      if option.status ≠ .Active then
        .error (appException .ValidationError s!"Attribute option {optionId} must be active")
      else if option.kind ≠ input.kind then
        .error (appException .ValidationError
          s!"Attribute option {optionId} does not belong to kind {kind}")
      else
        .ok (attributes ++ [input])

def resolveAttributes (companyId : Uuid) (inputs : Option (List AttributeInput)) (db : VariantDb) :
    Except Failure (List AttributeInput) :=
  (inputs.getD []).foldlM (resolveAttribute companyId db) []

def combinationKey (attributes : List AttributeInput) : String :=
  computeCombinationKey (attributes.map (·.optionId))

def resolveBaseUom (companyId : Uuid) (baseUomId : Option Uuid) (db : VariantDb) :
    Except Failure (Option Uuid) :=
  match baseUomId with
  | none => .ok none
  | some id =>
    match (db.uoms.find? id).filter fun u => u.companyId = companyId && !u.deleted && u.isActive with
    | some uom => .ok (some uom.id)
    | none => .error (appException .ValidationError
        "baseUomId must reference an active UOM in this company")

def combinationExists : Failure :=
  appException .Conflict
    "A variant with this exact attribute combination already exists for this product"

/-- The check of the combination; `exceptId` is the variant that may have it. -/
def assertCombinationAvailable (productId : Uuid) (key : String) (exceptId : Option Uuid)
    (db : VariantDb) : Except Failure Unit :=
  match db.variants.rows.find? fun v => v.productId = productId && v.combinationKey = key && !v.deleted with
  | none => .ok ()
  | some existing => if some existing.id = exceptId then .ok () else .error combinationExists

def assertSkuAvailable (companyId : Uuid) (sku : String) (db : VariantDb) : Except Failure Unit :=
  if db.variants.rows.any fun v => v.companyId = companyId && v.sku = sku && !v.deleted then
    .error (appException .Conflict "SKU already exists for this company")
  else
    .ok ()

def assertNotLinkedToOpenPurchaseOrder (companyId variantId : Uuid) (db : VariantDb) :
    Except Failure Unit :=
  if db.base.buying.purchaseOrders.rows.any fun o => o.companyId = companyId &&
      o.status ≠ .Cancelled && o.items.any fun item => item.productVariantId = variantId then
    .error (appException .Conflict
      "Cannot delete a product variant referenced by an open purchase order")
  else
    .ok ()

/-! ## The writes -/

/-- The row meets another one in a unique index, removed or not. -/
def Clashes (v o : Variant) : Prop :=
  o.id ≠ v.id ∧ ((o.companyId = v.companyId ∧ o.sku = v.sku) ∨
    (o.productId = v.productId ∧ o.combinationKey = v.combinationKey))

instance (v o : Variant) : Decidable (Clashes v o) := inferInstanceAs (Decidable (_ ∧ _))

/-- Write a row of `product_variants`. -/
def writeVariant (v : Variant) (db : VariantDb) : Except Failure VariantDb :=
  if ∃ o ∈ db.variants.rows, Clashes v o then .error (.duplicateEntry "product_variants")
  else .ok { db with variants := db.variants.save v }

def attributeRows (variantId : Uuid) (attributes : List AttributeInput) : List VariantAttribute :=
  attributes.map fun a => ⟨variantId, a.optionId, a.kind⟩

/-- The entity that `create` saves, with the id it is given. -/
def newVariant (id productId companyId : Uuid) (dto : CreateProductVariantDto)
    (attributes : List AttributeInput) (baseUomId : Option Uuid) : Variant where
  id := id
  productId := productId
  companyId := companyId
  sku := dto.sku
  combinationKey := combinationKey attributes
  costPrice := dto.costPrice
  sellingPrice := dto.sellingPrice
  baseUomId := baseUomId
  status := .Active

def baseMapping (variantId companyId : Uuid) (baseUomId : Option Uuid) : List ProductVariantUom :=
  baseUomId.toList.map fun uomId =>
    { variantId := variantId, companyId := companyId, uomId := uomId,
      conversionFactorToBase := 10000, usageType := .Both, isActive := true }

/-- The writes of `create`. -/
def insertVariant (id productId companyId : Uuid) (dto : CreateProductVariantDto)
    (attributes : List AttributeInput) (baseUomId : Option Uuid) (db : VariantDb) :
    Except Failure VariantDb :=
  (writeVariant (newVariant id productId companyId dto attributes baseUomId) db).map fun db =>
    { db with
      attributes := db.attributes ++ attributeRows id attributes
      variantUoms := db.variantUoms ++ baseMapping id companyId baseUomId }

/-- What `update` makes of the prices. -/
def applyPrices (dto : UpdateProductVariantDto) (variant : Variant) : Variant :=
  { variant with
    costPrice := dto.costPrice.getD variant.costPrice
    sellingPrice := dto.sellingPrice.getD variant.sellingPrice }

/-- The row that `save(entity)` writes over `row` when it has read `seen`. Nobody changes the
product, the company or the SKU of a variant. -/
def mergeVariant (entity seen row : Variant) : Variant :=
  { row with
    combinationKey := mergeCol entity.combinationKey seen.combinationKey row.combinationKey
    costPrice := mergeCol entity.costPrice seen.costPrice row.costPrice
    sellingPrice := mergeCol entity.sellingPrice seen.sellingPrice row.sellingPrice
    baseUomId := mergeCol entity.baseUomId seen.baseUomId row.baseUomId
    status := mergeCol entity.status seen.status row.status
    deleted := mergeCol entity.deleted seen.deleted row.deleted }

def replaceAttributes (variantId : Uuid) (attributes : List AttributeInput) (db : VariantDb) :
    VariantDb :=
  { db with attributes := (db.attributes.filter fun a => a.variantId ≠ variantId) ++
      attributeRows variantId attributes }

/-- What `save(entity)` leaves, and an update of the attributes besides. -/
def saveVariant (attributes : Option (List AttributeInput)) (merged : Variant) (db : VariantDb) :
    Except Failure VariantDb :=
  (writeVariant merged db).map fun db =>
    match attributes with
    | some attributes => replaceAttributes merged.id attributes db
    | none => db

def create (id productId companyId : Uuid) (dto : CreateProductVariantDto) (db : VariantDb) :
    Except Failure VariantDb := do
  findProduct productId companyId db
  let attributes ← resolveAttributes companyId dto.attributes db
  let baseUomId ← resolveBaseUom companyId dto.baseUomId db
  assertCombinationAvailable productId (combinationKey attributes) none db
  assertSkuAvailable companyId dto.sku db
  insertVariant id productId companyId dto attributes baseUomId db

/-! ## Creations on their own -/

def Uses (companyId productId : Uuid) (sku key : String) (v : Variant) : Prop :=
  (v.companyId = companyId ∧ v.sku = sku) ∨ (v.productId = productId ∧ v.combinationKey = key)

instance (companyId productId : Uuid) (sku key : String) (v : Variant) :
    Decidable (Uses companyId productId sku key v) :=
  inferInstanceAs (Decidable (_ ∨ _))

variable {db : VariantDb} {id productId companyId : Uuid} {dto : CreateProductVariantDto}
  {attributes : List AttributeInput} {baseUomId : Option Uuid}

/-- A creation whose SKU and combination no live variant uses succeeds exactly if no removed
variant uses them either. -/
theorem create_succeeds_iff (hproduct : findProduct productId companyId db = .ok ())
    (hattributes : resolveAttributes companyId dto.attributes db = .ok attributes)
    (huom : resolveBaseUom companyId dto.baseUomId db = .ok baseUomId)
    (hid : db.variants.find? id = none)
    (hlive : ∀ v ∈ db.variants.rows, v.deleted = false →
      ¬ Uses companyId productId dto.sku (combinationKey attributes) v) :
    (create id productId companyId dto db).isOk = true ↔ ∀ v ∈ db.variants.rows,
      v.deleted = true → ¬ Uses companyId productId dto.sku (combinationKey attributes) v := by
  have hcombination : assertCombinationAvailable productId (combinationKey attributes) none db =
      .ok () := by
    unfold assertCombinationAvailable
    split
    · rfl
    · rename_i existing hfind
      have hmem := List.mem_of_find?_eq_some hfind
      have htest := List.find?_some hfind
      simp only [Bool.and_eq_true, decide_eq_true_eq, Bool.not_eq_true'] at htest
      exact absurd (.inr htest.1) (hlive existing hmem htest.2)
  have hsku : assertSkuAvailable companyId dto.sku db = .ok () := by
    unfold assertSkuAvailable
    refine if_neg fun hany => ?_
    obtain ⟨v, hv, htest⟩ := List.any_eq_true.1 hany
    simp only [Bool.and_eq_true, decide_eq_true_eq, Bool.not_eq_true'] at htest
    exact hlive v hv htest.2 (.inl htest.1)
  have hother : ∀ o ∈ db.variants.rows, o.id ≠ id := Table.find?_eq_none.1 hid
  have hcreate : create id productId companyId dto db =
      insertVariant id productId companyId dto attributes baseUomId db := by
    unfold create
    rw [hproduct, hattributes, huom]
    show (assertCombinationAvailable productId (combinationKey attributes) none db >>= fun _ => _) = _
    rw [hcombination]
    show (assertSkuAvailable companyId dto.sku db >>= fun _ => _) = _
    rw [hsku]
    rfl
  rw [hcreate, insertVariant, writeVariant]
  constructor
  · intro hok v hv _ huses
    rw [if_pos ⟨v, hv, hother v hv, huses⟩] at hok
    cases hok
  · intro hremoved
    rw [if_neg]
    · rfl
    · rintro ⟨o, ho, -, huses⟩
      cases hdeleted : o.deleted with
      | false => exact hlive o ho hdeleted huses
      | true => exact hremoved o ho hdeleted huses

end FashionErp.Variants
