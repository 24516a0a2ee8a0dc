/-
`products/services/price-list-items.service.ts`: dated prices of a variant in a price list.

The window of a new price is checked against the ACTIVE rows of the list and the variant, on the
times of the two `Date`s; the rows are then written by a statement of their own.
-/
import FashionErp.Core.Order
import FashionErp.Lib.Apart
import FashionErp.Lib.Column
import FashionErp.Lib.SaveEntity
import FashionErp.Sales.Pricing

namespace FashionErp

open Lib Lib.Tx
open scoped Chronological

/-- A JavaScript `Date`; `none` is an invalid one, whose time is `NaN`. -/
abbrev JsDate := Option Instant

/-- `a < b`. -/
def JsDate.lt : JsDate → JsDate → Bool
  | some a, some b => a < b
  | _, _ => false

/-- `a <= b`. -/
def JsDate.le : JsDate → JsDate → Bool
  | some a, some b => a ≤ b
  | _, _ => false

/-- What a `timestamp` column makes of a time: it rounds to its precision. -/
structure TimestampColumn where
  keep : Instant → Instant
  keep_le : ∀ a b, a ≤ b → keep a ≤ keep b
  keep_keep : ∀ a, keep (keep a) = keep a

/-- What a nullable `timestamp` column makes of a value; the driver writes `NULL` for an
invalid `Date`. -/
def TimestampColumn.store (column : TimestampColumn) : Option JsDate → Option JsDate
  | some (some t) => some (some (column.keep t))
  | _ => none

namespace PriceListItemsService

/-- An entity or a row of `price_list_items`; `deleted` is that `deletedAt` is set. -/
structure Item where
  id : Uuid
  priceListId : Uuid
  productVariantId : Uuid
  companyId : Uuid
  uomId : Option Uuid
  price : Cents
  validFrom : Instant
  validTo : Option JsDate
  status : PriceListItemStatus
  deleted : Bool := false
  deriving DecidableEq

instance : Keyed Item Uuid := ⟨Item.id⟩

structure PriceDb where
  base : Db := {}
  items : Table Item := .empty
  nextId : Uuid := 0

structure CreatePriceListItemDto where
  productVariantId : Uuid
  uomId : Option Uuid := none
  price : Cents
  validFrom : JsDate
  validTo : Option JsDate := none

/-- `validTo` is not sent, or it is `null`, or a text. -/
structure UpdatePriceListItemDto where
  price : Option Cents := none
  validTo : Option (Option JsDate) := none

/-! ## Checks -/

/-- `PriceListsService.findByIdInCompany`. -/
def findPriceList (id companyId : Uuid) : DbTx PriceList := do
  let db ← get
  orReject ((db.master.priceLists.find? id).filter fun l => l.companyId = companyId && !l.deleted)
    (appException .NotFound "Price list not found")

def resolveSupportedUomId (variant : ProductVariant) (companyId : Uuid)
    (requestedUomId : Option Uuid) : DbTx (Option Uuid) := do
  match requestedUomId with
  | none => return variant.baseUomId
  | some requested =>
    let baseUomId ← orReject variant.baseUomId
      (appException .ValidationError "Variant does not have a base UOM configured yet")
    if requested = baseUomId then
      let baseUom ← ProductVariantUomsService.findActiveUomOrThrow baseUomId companyId
      return some baseUom.id
    else
      let db ← get
      let mapping ← orReject
        ((ProductVariantUomsService.findMapping db variant.id companyId requested).filter
          (·.isActive))
        (appException .ValidationError "Selected UOM is not mapped to this variant")
      return some mapping.uomId

def findByIdInCompany (id companyId : Uuid) (db : PriceDb) : Except Failure Item :=
  orRefuse ((db.items.find? id).filter fun item => item.companyId = companyId ∧ item.deleted = false)
    (appException .NotFound "Price list item not found")

def assertValidRange (validFrom : JsDate) (validTo : Option JsDate) : Except Failure Unit :=
  refuseIf (validTo.any fun validTo => validTo.le validFrom)
    (appException .ValidationError "validTo must be after validFrom")

def assertPositivePrice (price : Cents) : Except Failure Unit :=
  refuseIf (price ≤ 0) (appException .ValidationError "price must be a positive amount")

/-- The rows `assertNoOverlap` reads. -/
def candidates (priceListId productVariantId : Uuid) (validFrom : JsDate) (db : PriceDb) :
    List Item :=
  db.items.rows.filter fun row =>
    row.priceListId = priceListId ∧ row.productVariantId = productVariantId ∧
      row.status = .Active ∧ row.deleted = false ∧
        (row.validTo = none ∨ row.validTo.any fun validTo => validFrom.lt validTo)

/-- The start is before the end, where no end is `Infinity`. -/
def startsBefore (start : JsDate) : Option JsDate → Bool
  | none => start.isSome
  | some validTo => start.lt validTo

def overlapping (uomId : Option Uuid) (validFrom : JsDate) (validTo : Option JsDate)
    (excludeId : Option Uuid) (row : Item) : Bool :=
  some row.id ≠ excludeId && row.uomId = uomId &&
    startsBefore (some row.validFrom) validTo && startsBefore validFrom row.validTo

def assertNoOverlap (uomId : Option Uuid) (validFrom : JsDate) (validTo : Option JsDate)
    (excludeId : Option Uuid) (rows : List Item) : Except Failure Unit :=
  refuseIf (rows.any (overlapping uomId validFrom validTo excludeId))
    (appException .Conflict
      "An active price already exists for this variant in this price list during the requested period")

/-! ## `create` -/

/-- `create`, up to `assertNoOverlap`: the unit of the new price. -/
def resolveNew (priceListId companyId : Uuid) (dto : CreatePriceListItemDto) (db : PriceDb) :
    Except Failure (Option Uuid) := do
  let _priceList ← value (findPriceList priceListId companyId) db.base
  let variant ← value (ProductVariantsService.findByIdInCompany dto.productVariantId companyId) db.base
  let resolvedUomId ← value (resolveSupportedUomId variant companyId dto.uomId) db.base
  assertPositivePrice dto.price
  assertValidRange dto.validFrom dto.validTo
  return resolvedUomId

def newItem (column : TimestampColumn) (priceListId companyId : Uuid)
    (dto : CreatePriceListItemDto) (resolvedUomId : Option Uuid) (validFrom : Instant) (id : Uuid) :
    Item :=
  { id, priceListId, companyId
    productVariantId := dto.productVariantId
    uomId := resolvedUomId
    price := dto.price
    validFrom := column.keep validFrom
    validTo := column.store dto.validTo
    status := .Active }

def Duplicates (item : Item) (db : PriceDb) : Prop :=
  ∃ row ∈ db.items.rows, row.priceListId = item.priceListId ∧
    row.productVariantId = item.productVariantId ∧ (row.uomId = item.uomId ∧ item.uomId ≠ none) ∧
      row.validFrom = item.validFrom

instance (item : Item) (db : PriceDb) : Decidable (Duplicates item db) :=
  inferInstanceAs (Decidable (∃ row ∈ db.items.rows, _))

/-- The `INSERT` of `create`. -/
def insertItem (item : Item) (db : PriceDb) : Except Failure PriceDb := do
  refuseIf (Duplicates item db) (.duplicateEntry "priceListId_productVariantId_uomId_validFrom")
  return { db with items := db.items.save item, nextId := db.nextId + 1 }

/-! ## `update`, `deactivate` and `remove` -/

/-- `new Date(dto.validTo)`: `null` is the first instant of 1970. -/
def newDate : Option JsDate → JsDate
  | none => some { date := ⟨1970, 1, 1⟩, millis := 0 }
  | some date => date

def nextValidTo (dto : UpdatePriceListItemDto) (item : Item) : Option JsDate :=
  match dto.validTo with
  | none => item.validTo
  | some validTo => some (newDate validTo)

/-- The entity `update` saves. -/
def applyUpdate (dto : UpdatePriceListItemDto) (item : Item) : Item :=
  { item with price := dto.price.getD item.price, validTo := nextValidTo dto item }

/-- `update`, up to `assertNoOverlap`. -/
def loadUpdate (id companyId : Uuid) (dto : UpdatePriceListItemDto) (db : PriceDb) :
    Except Failure Item := do
  let item ← findByIdInCompany id companyId db
  assertPositivePrice (dto.price.getD item.price)
  assertValidRange (some item.validFrom) (nextValidTo dto item)
  return applyUpdate dto item

/-- The entity `deactivate` saves. -/
def setInactive (item : Item) : Item := { item with status := .Inactive }

/-- What `softRemove` leaves of a row. -/
def markDeleted (row : Item) : Item := { row with deleted := true }

/-- `save`: the row with the columns in which the entity differs from what was read. -/
def mergeItem (column : TimestampColumn) (entity seen row : Item) : Item where
  id := row.id
  priceListId := mergeCol entity.priceListId seen.priceListId row.priceListId
  productVariantId := mergeCol entity.productVariantId seen.productVariantId row.productVariantId
  companyId := mergeCol entity.companyId seen.companyId row.companyId
  uomId := mergeCol entity.uomId seen.uomId row.uomId
  price := mergeCol entity.price seen.price row.price
  validFrom := column.keep (mergeCol entity.validFrom seen.validFrom row.validFrom)
  validTo := column.store (mergeCol entity.validTo seen.validTo row.validTo)
  status := mergeCol entity.status seen.status row.status
  deleted := mergeCol entity.deleted seen.deleted row.deleted

def itemRow (column : TimestampColumn) (id : Uuid) : RowAccess PriceDb Item where
  find db := db.items.find? id
  put row db := { db with items := db.items.save row }
  merge := mergeItem column

/-! ## Windows -/

def Item.ends (row : Item) : Option Instant := row.validTo.join

def Item.slot (row : Item) : Uuid × Uuid × Option Uuid :=
  (row.priceListId, row.productVariantId, row.uomId)

def Item.InForce (row : Item) : Prop := row.status = .Active ∧ row.deleted = false

instance (row : Item) : Decidable row.InForce := inferInstanceAs (Decidable (_ ∧ _))

def Item.occupies (row : Item) : Set ((Uuid × Uuid × Option Uuid) × Instant) :=
  {x | row.InForce ∧ x.1 = row.slot ∧ x.2 ∈ upTo row.validFrom row.ends}

/-- The row as `resolveActivePrice` reads it. -/
def Item.priceRow (row : Item) : PriceListItem where
  companyId := row.companyId
  priceListId := row.priceListId
  productVariantId := row.productVariantId
  uomId := row.uomId
  price := row.price
  validFrom := row.validFrom
  validTo := row.ends
  status := row.status
  deleted := row.deleted

instance (row : Item) (x : (Uuid × Uuid × Option Uuid) × Instant) : Decidable (x ∈ row.occupies) :=
  inferInstanceAs (Decidable (_ ∧ _ ∧ _ ∈ upTo _ _))

/-- The rows of the table, as `resolveActivePrice` finds them in some order. -/
def WithPrices (db : PriceDb) (base : Db) : Prop :=
  base.master.priceListItems.Perm (db.items.rows.map Item.priceRow)

/-- One price at a time. The windows in force do not meet, at most one row is at any
instant, and whichever order the rows are found in, `resolveActivePrice` answers the same. -/
structure OnePrice (db : PriceDb) : Prop where
  apart : db.items.Apart Item.occupies
  once : ∀ x, db.items.rows.countP (fun row => x ∈ row.occupies) ≤ 1
  answer : ∀ base base' companyId priceListId productVariantId uomId atTime,
    WithPrices db base → WithPrices db base' →
      value (resolveActivePrice companyId priceListId productVariantId uomId atTime) base =
        value (resolveActivePrice companyId priceListId productVariantId uomId atTime) base'

theorem occupies_of_answers {companyId priceListId productVariantId : Uuid} {uomId : Option Uuid}
    {atTime : Instant} {row : Item}
    (hread : (row.priceRow.companyId = companyId && row.priceRow.priceListId = priceListId &&
      row.priceRow.productVariantId = productVariantId && row.priceRow.status = .Active &&
        !row.priceRow.deleted) = true)
    (hfound : row.priceRow.uomId = uomId ∧ row.priceRow.validFrom ≤ atTime ∧
      ¬ row.priceRow.validTo.any (· ≤ atTime)) :
    ((priceListId, productVariantId, uomId), atTime) ∈ row.occupies := by
  simp only [Item.priceRow, Bool.and_eq_true, Bool.not_eq_true'] at hread hfound
  obtain ⟨⟨⟨⟨-, hlist⟩, hvariant⟩, hactive⟩, hdeleted⟩ := hread
  obtain ⟨huom, hfrom, hto⟩ := hfound
  refine ⟨⟨of_decide_eq_true hactive, hdeleted⟩, ?_, hfrom,
    fun e he => lt_of_not_ge fun hle => hto ?_⟩
  · rw [Item.slot, of_decide_eq_true hlist, of_decide_eq_true hvariant, huom]
  · rw [Option.mem_def.1 he]
    exact decide_eq_true hle

/-- Windows that do not meet give one price. -/
theorem OnePrice.of_apart {db : PriceDb} (h : db.items.Apart Item.occupies) : OnePrice db where
  apart := h
  once x := h.countP_le_one
  answer base base' companyId priceListId productVariantId uomId atTime hbase hbase' := by
    have hperm := hbase.trans hbase'.symm
    refine congrArg Except.ok (find?_eq_of_perm ?_ fun x hx y hy hpx hpy => ?_)
    · refine (List.perm_insertionSort _ _).trans (.trans ?_ (List.perm_insertionSort _ _).symm)
      exact hperm.filter _
    · rw [List.mem_insertionSort, List.mem_filter, hbase.mem_iff] at hx hy
      obtain ⟨hx, hreadx⟩ := hx
      obtain ⟨hy, hready⟩ := hy
      obtain ⟨r, hr, rfl⟩ := List.mem_map.1 hx
      obtain ⟨r', hr', rfl⟩ := List.mem_map.1 hy
      rw [h.unique hr hr' (occupies_of_answers hreadx (of_decide_eq_true hpx))
        (occupies_of_answers hready (of_decide_eq_true hpy))]

end PriceListItemsService

end FashionErp
