/-
`promotions/services/promotions.service.ts`: changing a promotion, and using one in a
sale.

`update` reads the promotion without a lock, changes the entity and saves it.
-/
import FashionErp.Core.Db
import FashionErp.Lib.Column

namespace FashionErp

open Lib Lib.Tx

/-- A promotion row after `save(entity)`, when the save read `seen` and updates `row`. -/
def Promotion.merge (entity seen row : Promotion) : Promotion where
  id := row.id
  companyId := mergeCol entity.companyId seen.companyId row.companyId
  code := mergeCol entity.code seen.code row.code
  name := mergeCol entity.name seen.name row.name
  description := mergeCol entity.description seen.description row.description
  discountType := mergeCol entity.discountType seen.discountType row.discountType
  discountValue := mergeCol entity.discountValue seen.discountValue row.discountValue
  minimumPurchase := mergeCol entity.minimumPurchase seen.minimumPurchase row.minimumPurchase
  maximumDiscountAmount := mergeCol entity.maximumDiscountAmount seen.maximumDiscountAmount
    row.maximumDiscountAmount
  startDate := mergeCol entity.startDate seen.startDate row.startDate
  endDate := mergeCol entity.endDate seen.endDate row.endDate
  usageLimit := mergeCol entity.usageLimit seen.usageLimit row.usageLimit
  usageCount := mergeCol entity.usageCount seen.usageCount row.usageCount
  status := mergeCol entity.status seen.status row.status
  createdBy := mergeCol entity.createdBy seen.createdBy row.createdBy
  updatedBy := mergeCol entity.updatedBy seen.updatedBy row.updatedBy

namespace PromotionsService

/-- `UpdatePromotionDto`. The outer `none` is a field that is not sent; a nullable
column may be sent as `null`. -/
structure UpdatePromotionDto where
  name : Option String
  description : Option (Option String)
  minimumPurchase : Option Cents
  maximumDiscountAmount : Option (Option Cents)
  endDate : Option IsoDateString
  usageLimit : Option (Option ℕ)
  status : Option PromotionStatus

def findByIdInCompany (id companyId : Uuid) : DbTx Promotion := do
  let db ← get
  orReject ((db.selling.promotions.find? id).filter fun p => p.companyId = companyId)
    (appException .NotFound "Promotion not found")

def assertEndDate (dto : UpdatePromotionDto) (entity : Promotion) : DbTx Unit :=
  rejectIf (dto.endDate.any fun endDate => ¬ entity.startDate.midnight ≤ endDate.time)
    (appException .ValidationError "endDate must be on or after startDate")

/-- `description?.trim() || null`. -/
def trimmedOrNull (description : Option String) : Option String :=
  (description.map trim).filter (· ≠ "")

/-- What `update` writes into the entity. -/
def applyUpdate (dto : UpdatePromotionDto) (userId : Uuid) (entity : Promotion) : Promotion :=
  { entity with
    name := dto.name.getD entity.name
    description := (dto.description.map trimmedOrNull).getD entity.description
    minimumPurchase := dto.minimumPurchase.getD entity.minimumPurchase
    maximumDiscountAmount := dto.maximumDiscountAmount.getD entity.maximumDiscountAmount
    endDate := (dto.endDate.map fun endDate => some endDate.day).getD entity.endDate
    usageLimit := dto.usageLimit.getD entity.usageLimit
    status := dto.status.getD entity.status
    updatedBy := some userId }

/-- `manager.save(Promotion, entity)` when nothing else writes the row meanwhile. -/
def savePromotion (promotion : Promotion) : DbTx Unit :=
  modify fun db =>
    { db with selling := { db.selling with promotions := db.selling.promotions.save promotion } }

def update (id companyId userId : Uuid) (dto : UpdatePromotionDto) : DbTx Promotion := do
  let entity ← findByIdInCompany id companyId
  assertEndDate dto entity
  savePromotion (applyUpdate dto userId entity)
  return applyUpdate dto userId entity

/-! ## Use in a sale -/

def findByCode (db : Db) (companyId : Uuid) (code : String) : Option Promotion :=
  db.selling.promotions.rows.find? fun p => p.companyId = companyId && p.code = code

/-- The checks of `resolveAndLockForUse` on the row it holds. -/
def assertUsable (code : String) (orderSubtotal : Cents) (asOfDate : Instant)
    (promotion : Promotion) : DbTx Unit := do
  rejectIf (promotion.status ≠ .Active)
    (appException .ValidationError s!"Promotion code \"{code}\" is not active")
  let asOfDateOnly := asOfDate.date
  rejectIf (¬ promotion.startDate ≤ asOfDateOnly)
    (appException .ValidationError s!"Promotion code \"{code}\" is not yet valid")
  rejectIf (promotion.endDate.any fun endDate => ¬ asOfDateOnly ≤ endDate)
    (appException .ValidationError s!"Promotion code \"{code}\" has expired")
  let minimumPurchase := toFixed2 promotion.minimumPurchase
  rejectIf (orderSubtotal < promotion.minimumPurchase)
    (appException .ValidationError
      s!"Promotion code \"{code}\" requires a minimum purchase of {minimumPurchase}")
  rejectIf (promotion.usageLimit.any fun usageLimit => usageLimit ≤ promotion.usageCount)
    (appException .ValidationError s!"Promotion code \"{code}\" has reached its usage limit")

def resolveAndLockForUse (companyId : Uuid) (code : String) (orderSubtotal : Cents)
    (asOfDate : Instant) : DbTx Promotion := do
  let db ← get
  let promotion ← orReject (findByCode db companyId code)
    (appException .ValidationError
      s!"Promotion code \"{code}\" does not exist for this company")
  assertUsable code orderSubtotal asOfDate promotion
  return promotion

/-- `usage_count = usage_count + 1` on the row of a promotion. -/
def countUse (promotions : Table Promotion) (promotionId : Uuid) : Table Promotion :=
  match promotions.find? promotionId with
  | none => promotions
  | some promotion => promotions.save { promotion with usageCount := promotion.usageCount + 1 }

def incrementUsage (promotionId : Uuid) : DbTx Unit :=
  modify fun db =>
    { db with selling := { db.selling with
        promotions := countUse db.selling.promotions promotionId } }

def computeDiscountAmount (promotion : Promotion) (orderSubtotal : Cents) : ℤ :=
  let discount : ℤ :=
    match promotion.discountType with
    | .Percentage =>
      let discount := orderSubtotal * promotion.discountValue
      match promotion.maximumDiscountAmount with
      | some maximumDiscountAmount => min discount (maximumDiscountAmount * 1000000)
      | none => discount
    | .FixedAmount => promotion.discountValue * 10000
  min discount (orderSubtotal * 1000000)

/-! ## What they do -/

def UnderLimit (promotion : Promotion) : Prop :=
  ∀ usageLimit ∈ promotion.usageLimit, promotion.usageCount < usageLimit

@[simp] theorem commits_findByIdInCompany (id companyId : Uuid) (db : Db) (p : Promotion) (db' : Db) :
    Commits (findByIdInCompany id companyId) db p db' ↔
      (db.selling.promotions.find? id = some p ∧ p.companyId = companyId) ∧ db = db' := by
  simp only [findByIdInCompany, commits_lookup, Option.filter_eq_some_iff, decide_eq_true_eq]

theorem find?_of_findByCode {db : Db} {companyId : Uuid} {code : String} {p : Promotion}
    (h : findByCode db companyId code = some p) : db.selling.promotions.find? p.id = some p :=
  (Table.mem_rows_iff _ p).1 (List.mem_of_find?_eq_some h)

/-- A promotion that passes the checks has room for the use. -/
theorem resolveAndLockForUse_spec {companyId : Uuid} {code : String} {orderSubtotal : Cents}
    {asOfDate : Instant} {db db' : Db} {p : Promotion}
    (h : Commits (resolveAndLockForUse companyId code orderSubtotal asOfDate) db p db') :
    db = db' ∧ findByCode db companyId code = some p ∧ p.status = .Active ∧ UnderLimit p := by
  simp only [resolveAndLockForUse, assertUsable, commits_bind, commits_get, commits_orReject,
    commits_rejectIf, commits_pure] at h
  obtain ⟨_, _, ⟨rfl, rfl⟩, _, _, ⟨hfind, rfl⟩, _, _, ⟨_, _, ⟨hactive, rfl⟩, _, _, ⟨-, rfl⟩,
    _, _, ⟨-, rfl⟩, _, _, ⟨-, rfl⟩, hlimit, rfl⟩, rfl, rfl⟩ := h
  refine ⟨rfl, hfind, not_not.1 hactive, fun usageLimit hmem => ?_⟩
  rw [Option.any_eq_true] at hlimit
  rw [← Nat.not_le]
  exact fun hle => hlimit ⟨usageLimit, hmem, decide_eq_true hle⟩

theorem computeDiscountAmount_le (promotion : Promotion) (orderSubtotal : Cents) :
    computeDiscountAmount promotion orderSubtotal ≤ orderSubtotal * 1000000 := by
  unfold computeDiscountAmount
  exact Int.min_le_right _ _

/-- What an update saves, whatever it changes, is the count it read. -/
@[simp] theorem applyUpdate_usageCount (dto : UpdatePromotionDto) (userId : Uuid) (p : Promotion) :
    (applyUpdate dto userId p).usageCount = p.usageCount := rfl

theorem find?_countUse (promotions : Table Promotion) (promotionId id : Uuid) :
    (countUse promotions promotionId).find? id = (promotions.find? id).map fun p =>
      if id = promotionId then { p with usageCount := p.usageCount + 1 } else p := by
  unfold countUse
  cases hfind : promotions.find? promotionId with
  | none =>
    by_cases hid : id = promotionId
    · rw [hid, hfind]
      rfl
    · simp only [if_neg hid, Option.map_id']
  | some p =>
    have hp : key p = promotionId := Table.key_of_find? hfind
    have hkey : key { p with usageCount := p.usageCount + 1 } = promotionId := hp
    simp only [Table.find?_save]
    by_cases hid : id = promotionId
    · rw [if_pos (hkey.trans hid.symm), hid, hfind, Option.map_some, if_pos rfl]
    · rw [if_neg fun h => hid (h.symm.trans hkey)]
      simp only [if_neg hid, Option.map_id']

end PromotionsService

end FashionErp
