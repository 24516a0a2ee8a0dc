/-
The price of a sale line: `products/services/product-variant-uoms.service.ts`,
`products/services/price-list-items.service.ts` and the private methods of
`sales/services/sales.service.ts` that call them.

A line names a variant, perhaps a unit and perhaps a price list.
-/
import FashionErp.Core.MasterData
import Mathlib.Data.List.Sort

namespace FashionErp

open Lib Lib.Tx

namespace ProductVariantUomsService

structure ResolvedVariantUomSelection where
  uomId : Uuid
  code : String
  name : String
  symbol : Option String
  conversionFactorToBase : ℤ
  usageType : ProductVariantUomUsageType
  isBase : Bool

def findActiveUomOrThrow (uomId companyId : Uuid) : DbTx Uom := do
  let db ← get
  orReject ((db.master.uoms.find? uomId).filter fun u =>
      u.companyId = companyId && !u.deleted && u.isActive)
    (appException .ValidationError "uomId does not reference an active UOM in this company")

def isUsageAllowed (actual expected : ProductVariantUomUsageType) : Bool :=
  actual = .Both || actual = expected

def findMapping (db : Db) (variantId companyId uomId : Uuid) : Option ProductVariantUom :=
  db.master.productVariantUoms.find? fun m =>
    m.variantId = variantId && m.companyId = companyId && m.uomId = uomId && !m.deleted

def resolveSelectionForUsage (variant : ProductVariant) (companyId : Uuid)
    (usage : ProductVariantUomUsageType) (requestedUomId : Option Uuid) :
    DbTx (Option ResolvedVariantUomSelection) := do
  match variant.baseUomId with
  | none =>
    rejectIf requestedUomId.isSome
      (appException .ValidationError "Variant does not have a base UOM configured yet")
    return none
  | some baseUomId =>
    let resolvedUomId := requestedUomId.getD baseUomId
    let uom ← findActiveUomOrThrow resolvedUomId companyId
    let db ← get
    if resolvedUomId = baseUomId then
      -- The base row is used whether it is active or not.
      let baseMapping := findMapping db variant.id companyId baseUomId
      return some
        { uomId := uom.id, code := uom.code, name := uom.name, symbol := uom.symbol
          conversionFactorToBase := (baseMapping.map (·.conversionFactorToBase)).getD 10000
          usageType := (baseMapping.map (·.usageType)).getD .Both
          isBase := true }
    else
      let mapping ← orReject
        ((findMapping db variant.id companyId resolvedUomId).filter (·.isActive))
        (appException .ValidationError "Selected UOM is not mapped to this variant")
      let usageName := usage.lowerCase
      rejectIf (isUsageAllowed mapping.usageType usage = false)
        (appException .ValidationError
          s!"Selected UOM is not enabled for {usageName} transactions")
      return some
        { uomId := mapping.uomId, code := uom.code, name := uom.name, symbol := uom.symbol
          conversionFactorToBase := mapping.conversionFactorToBase
          usageType := mapping.usageType, isBase := false }

end ProductVariantUomsService

/-- `PriceListItemsService.resolveActivePrice`: of the active rows of the list and the
variant, latest first, the first one of the unit whose window holds `atTime`. -/
def PriceListItemsService.resolveActivePrice (companyId priceListId productVariantId : Uuid)
    (uomId : Option Uuid) (atTime : Instant) : DbTx (Option PriceListItem) :=
  reads fun db =>
    let rows := db.master.priceListItems.filter fun row =>
      row.companyId = companyId && row.priceListId = priceListId &&
        row.productVariantId = productVariantId && row.status = .Active && !row.deleted
    (rows.insertionSort fun a b => b.validFrom ≤ a.validFrom).find? fun row =>
      row.uomId = uomId ∧ row.validFrom ≤ atTime ∧ ¬ row.validTo.any (· ≤ atTime)

namespace SalesService

structure CreateSaleItemDto where
  productVariantId : Uuid
  uomId : Option Uuid
  quantity : ℕ
  discountAmount : Option Cents
  taxAmount : Option Cents
  priceListId : Option Uuid

structure ResolvedSaleItemPricing where
  variant : ProductVariant
  productVariantId : Uuid
  priceListId : Uuid
  uomId : Option Uuid
  uomCode : Option String
  uomName : Option String
  quantity : ℕ
  baseQuantity : ℤ
  conversionFactorToBase : ℤ
  unitPrice : Cents

def resolveDefaultPriceListId (companyId : Uuid) : DbTx (Option Uuid) :=
  reads fun db =>
    match db.master.priceLists.rows.filter fun l =>
        l.companyId = companyId && l.status = .Active && !l.deleted with
    | [priceList] => some priceList.id
    | _ => none

def resolvePriceListId (itemDto : CreateSaleItemDto) (companyId : Uuid)
    (defaultPriceListId : Option Uuid) : DbTx Uuid := do
  match itemDto.priceListId with
  | some priceListId =>
    let db ← get
    let priceList ← orReject
      ((db.master.priceLists.find? priceListId).filter fun l =>
        l.companyId = companyId && !l.deleted)
      (appException .ValidationError
        "priceListId does not reference a price list in the resolved company")
    rejectIf (priceList.status ≠ .Active)
      (appException .ValidationError "priceListId must reference an active price list")
    return priceList.id
  | none =>
    orReject defaultPriceListId
      (appException .ValidationError "priceListId is required for this item: the company has zero or multiple active price lists")

def computeBaseQuantity (quantity conversionFactorToBase : ℤ) (fieldName : String) : DbTx ℤ := do
  let rawBaseQuantity := quantity * conversionFactorToBase
  rejectIf (rawBaseQuantity ≤ 0 ∨ ¬ 10000 ∣ rawBaseQuantity)
    (appException .ValidationError
      s!"{fieldName} must convert to a whole positive base-unit quantity")
  return rawBaseQuantity / 10000

def resolveItemPricing (itemDto : CreateSaleItemDto) (companyId : Uuid)
    (defaultPriceListId : Option Uuid) (transactionDate : Instant) :
    DbTx ResolvedSaleItemPricing := do
  let variantId := itemDto.productVariantId
  let db ← get
  let variant ← orReject
    ((db.master.productVariants.find? variantId).filter fun v =>
      v.companyId = companyId && !v.deleted)
    .entityNotFound
  let selectedUom ← ProductVariantUomsService.resolveSelectionForUsage variant companyId .Sales
    itemDto.uomId
  let conversionFactorToBase := (selectedUom.map (·.conversionFactorToBase)).getD 10000
  let baseQuantity ← computeBaseQuantity itemDto.quantity conversionFactorToBase
    s!"quantity for product variant {variantId}"
  let priceListId ← resolvePriceListId itemDto companyId defaultPriceListId
  let uomId := selectedUom.map (·.uomId)
  let priceRow ← PriceListItemsService.resolveActivePrice companyId priceListId variantId uomId
    transactionDate
  let priceRow ← orReject (priceRow.filter fun row => row.status = .Active)
    (appException .ValidationError
      s!"No active price found for product variant {variantId} in the resolved price list")
  return {
    variant := variant, productVariantId := variantId, priceListId := priceListId
    uomId := uomId
    uomCode := selectedUom.map (·.code), uomName := selectedUom.map (·.name)
    quantity := itemDto.quantity, baseQuantity := baseQuantity
    conversionFactorToBase := conversionFactorToBase, unitPrice := priceRow.price }

/-! ## Pricing only reads -/

theorem resolveSelectionForUsage_readsOnly (variant : ProductVariant) (companyId : Uuid)
    (usage : ProductVariantUomUsageType) (requestedUomId : Option Uuid) :
    ReadsOnly Db.master
      (ProductVariantUomsService.resolveSelectionForUsage variant companyId usage
        requestedUomId) := by
  unfold ProductVariantUomsService.resolveSelectionForUsage
  cases variant.baseUomId with
  | none => exact (readsOnly_rejectIf _ _).bind fun _ => readsOnly_pure _
  | some baseUomId =>
    refine ReadsOnly.bind ?_ fun uom => ReadsOnly.get_bind (fun db => ?_) fun db db' h => ?_
    · exact readsOnly_lookup (fun m : MasterData => (m.uoms.find? _).filter fun u =>
        u.companyId = companyId && !u.deleted && u.isActive) _
    · split
      · exact readsOnly_pure _
      · exact (readsOnly_orReject _ _).bind fun mapping =>
          (readsOnly_rejectIf _ _).bind fun _ => readsOnly_pure _
    · simp only [ProductVariantUomsService.findMapping, h]

theorem resolvePriceListId_readsOnly (itemDto : CreateSaleItemDto) (companyId : Uuid)
    (defaultPriceListId : Option Uuid) :
    ReadsOnly Db.master (resolvePriceListId itemDto companyId defaultPriceListId) := by
  unfold resolvePriceListId
  cases itemDto.priceListId with
  | none => exact readsOnly_orReject _ _
  | some priceListId =>
    refine ReadsOnly.get_bind (fun db => ?_) fun db db' h => by rw [h]
    exact (readsOnly_orReject _ _).bind fun priceList =>
      (readsOnly_rejectIf _ _).bind fun _ => readsOnly_pure _

theorem resolveItemPricing_readsOnly (itemDto : CreateSaleItemDto) (companyId : Uuid)
    (defaultPriceListId : Option Uuid) (transactionDate : Instant) :
    ReadsOnly Db.master
      (resolveItemPricing itemDto companyId defaultPriceListId transactionDate) := by
  unfold resolveItemPricing
  refine ReadsOnly.get_bind (fun db => ?_) fun db db' h => by rw [h]
  refine (readsOnly_orReject _ _).bind fun variant => ?_
  refine (resolveSelectionForUsage_readsOnly _ _ _ _).bind fun selectedUom => ?_
  refine ((readsOnly_rejectIf _ _).bind fun _ => readsOnly_pure _).bind fun baseQuantity => ?_
  refine (resolvePriceListId_readsOnly _ _ _).bind fun priceListId => ?_
  refine (readsOnly_reads fun _ _ h => by rw [h]).bind fun priceRow => ?_
  exact (readsOnly_orReject _ _).bind fun priceRow => readsOnly_pure _

/-! ## What a line is priced by -/

end SalesService

end FashionErp
