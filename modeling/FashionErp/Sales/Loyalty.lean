/-
`loyalty/services/loyalty.service.ts`: the two entries that sales and returns
make in the loyalty ledger, and the one that redeems points.

The first two run inside the caller's transaction and are idempotent by their source:
a row of the same company, source type and source id is returned instead of a second
one, and a duplicate entry from the unique index is answered by reading the winning
row.
-/
import FashionErp.Core.MasterData

namespace FashionErp.LoyaltyService

open Lib Lib.Tx

def findBySource (db : Db) (companyId : Uuid) (sourceType : String) (sourceId : Uuid) :
    Option LoyaltyPointTransaction :=
  db.selling.loyaltyTransactions.find? fun t =>
    t.companyId = companyId ∧ t.sourceType = some sourceType ∧ t.sourceId = some sourceId

def getActiveProgramOrNull (db : Db) (companyId : Uuid) : Option LoyaltyProgram :=
  (db.master.loyaltyPrograms.find? fun p => p.companyId = companyId).filter (·.isActive)

/-- `manager.save` of a new row, under the unique index on company and source. -/
def insertTransaction (companyId customerId : Uuid) (type : LoyaltyPointTransactionType)
    (pointsDelta : ℤ) (sourceType : String) (sourceId : Uuid)
    (reversesTransactionId : Option Uuid) (userId : Uuid) : DbTx LoyaltyPointTransaction := do
  let db ← get
  rejectIf (findBySource db companyId sourceType sourceId).isSome
    (.duplicateEntry "loyalty_point_transactions.company_id_source_type_source_id")
  let id ← randomUUID
  let entity : LoyaltyPointTransaction :=
    { id := id, companyId := companyId, customerId := customerId, type := type,
      pointsDelta := pointsDelta, sourceType := some sourceType, sourceId := some sourceId,
      reversesTransactionId := reversesTransactionId, createdBy := some userId }
  modify fun db =>
    { db with selling := { db.selling with
        loyaltyTransactions := db.selling.loyaltyTransactions ++ [entity] } }
  return entity

/-- The `try` around the insert: a duplicate entry is answered with the row that
won, any other error is passed on. -/
def insertOrFindWinning (companyId customerId : Uuid) (type : LoyaltyPointTransactionType)
    (pointsDelta : ℤ) (sourceType : String) (sourceId : Uuid)
    (reversesTransactionId : Option Uuid) (userId : Uuid) :
    DbTx (Option LoyaltyPointTransaction) :=
  tryCatch
    (some <$> insertTransaction companyId customerId type pointsDelta sourceType sourceId
      reversesTransactionId userId)
    fun error => do
      let db ← get
      match error with
      | .duplicateEntry _ =>
        let winning ← orReject (findBySource db companyId sourceType sourceId) error
        return some winning
      | _ => throw error

def earnForSale (companyId customerId saleId : Uuid) (saleGrandTotal : Cents) (userId : Uuid) :
    DbTx (Option LoyaltyPointTransaction) := do
  let db ← get
  match findBySource db companyId "SALE" saleId with
  | some existing => return some existing
  | none =>
    match getActiveProgramOrNull db companyId with
    | none => return none
    | some program =>
      let points := saleGrandTotal * program.pointsPerCurrencyUnit / 1000000
      if saleGrandTotal < program.minimumPurchaseForEarning then
        return none
      else if points ≤ 0 then
        return none
      else
        insertOrFindWinning companyId customerId .Earn points "SALE" saleId none userId

def reverseForSaleReturn (companyId customerId saleId saleReturnId : Uuid) (reversalPoints : ℤ)
    (userId : Uuid) : DbTx (Option LoyaltyPointTransaction) := do
  let db ← get
  if reversalPoints ≤ 0 then
    return none
  else
    match findBySource db companyId "SALE_RETURN" saleReturnId with
    | some existingReversal => return some existingReversal
    | none =>
      match findBySource db companyId "SALE" saleId with
      | none => return none
      | some originalEarn =>
        insertOrFindWinning companyId customerId .Reversal (-reversalPoints) "SALE_RETURN"
          saleReturnId (some originalEarn.id) userId

/-! ## Redeeming -/

structure RedeemLoyaltyPointsDto where
  points : ℕ
  notes : Option String

def customerRows (db : Db) (companyId customerId : Uuid) : List LoyaltyPointTransaction :=
  db.selling.loyaltyTransactions.filter fun t =>
    t.companyId = companyId ∧ t.customerId = customerId

def getAvailableBalance (db : Db) (companyId customerId : Uuid) : ℤ :=
  ((customerRows db companyId customerId).map (·.pointsDelta)).sum

/-- `redeem` before it locks: the customer and the program. -/
def findRedeemableProgram (companyId customerId : Uuid) : DbTx LoyaltyProgram := do
  let _customer ← CustomersService.findByIdInCompany customerId companyId
  let db ← get
  orReject (getActiveProgramOrNull db companyId)
    (appException .UnprocessableEntity "No active loyalty program is configured for this company")

def assertBalance (companyId customerId : Uuid) (points : ℕ) : DbTx Unit := do
  let db ← get
  let balance := getAvailableBalance db companyId customerId
  rejectIf (balance < points)
    (appException .UnprocessableEntity
      s!"Insufficient loyalty points: requested {points}, available {balance}")

/-- The insert of `redeem`. -/
def insertRedemption (companyId customerId userId : Uuid) (program : LoyaltyProgram)
    (dto : RedeemLoyaltyPointsDto) : DbTx LoyaltyPointTransaction := do
  let id ← randomUUID
  let entity : LoyaltyPointTransaction :=
    { id := id, companyId := companyId, customerId := customerId, type := .Redeem,
      pointsDelta := -(dto.points : ℤ),
      -- Points times ten-thousandths of a currency unit, in millionths of a cent.
      redemptionValue := some
        (roundToCents (dto.points * program.redemptionValuePerPoint * 10000)),
      sourceType := none, sourceId := none, reversesTransactionId := none, notes := dto.notes,
      createdBy := some userId }
  modify fun db =>
    { db with selling := { db.selling with
        loyaltyTransactions := db.selling.loyaltyTransactions ++ [entity] } }
  return entity

/-- `redeem`, as `redeemStandalone` calls it. -/
def redeem (companyId customerId userId : Uuid) (dto : RedeemLoyaltyPointsDto) :
    DbTx LoyaltyPointTransaction := do
  let program ← findRedeemableProgram companyId customerId
  assertBalance companyId customerId dto.points
  insertRedemption companyId customerId userId program dto

/-! ## What an entry touches -/

/-- `db'` is `db` up to the loyalty ledger and the supply of ids. -/
def LoyaltyOnly (db db' : Db) : Prop :=
  db' = { db with
    selling := { db.selling with loyaltyTransactions := db'.selling.loyaltyTransactions }
    sequences := db'.sequences }

theorem LoyaltyOnly.refl (db : Db) : LoyaltyOnly db db := rfl

variable {companyId sourceId : Uuid} {sourceType : String} {db : Db} {t : LoyaltyPointTransaction}

theorem insertTransaction_succeeds (customerId : Uuid) (type : LoyaltyPointTransactionType)
    (pointsDelta : ℤ) (reverses : Option Uuid) (userId : Uuid)
    (h : findBySource db companyId sourceType sourceId = none) :
    Succeeds (insertTransaction companyId customerId type pointsDelta sourceType sourceId
      reverses userId) db fun _ db' => LoyaltyOnly db db' := by
  refine Succeeds.get_bind (Succeeds.rejectIf_bind (by simp [h]) ?_)
  refine (randomUUID_succeeds db).bind fun id db₁ h₁ => ?_
  refine Succeeds.modify_bind (Succeeds.pure ?_)
  rw [h₁]
  rfl

variable {type : LoyaltyPointTransactionType} {customerId userId : Uuid}

/-- A loyalty entry never fails, whether it is made, found or skipped. -/
theorem insertOrFindWinning_succeeds {pointsDelta : ℤ} {reverses : Option Uuid}
    (h : findBySource db companyId sourceType sourceId = none) :
    Succeeds (insertOrFindWinning companyId customerId type pointsDelta sourceType sourceId
      reverses userId) db fun _ db' => LoyaltyOnly db db' := by
  obtain ⟨entity, db', hins, honly⟩ := insertTransaction_succeeds customerId type pointsDelta reverses
    userId h
  refine ⟨some entity, db', ?_, honly⟩
  rw [insertOrFindWinning, commits_tryCatch]
  exact .inl ((commits_map _ _ _ _ _).2 ⟨entity, hins, rfl⟩)

theorem earnForSale_succeeds (companyId customerId saleId : Uuid) (saleGrandTotal : Cents)
    (userId : Uuid) (db : Db) :
    Succeeds (earnForSale companyId customerId saleId saleGrandTotal userId) db
      fun _ db' => LoyaltyOnly db db' := by
  refine Succeeds.get_bind ?_
  cases hfind : findBySource db companyId "SALE" saleId with
  | some existing => exact Succeeds.pure (LoyaltyOnly.refl db)
  | none =>
    cases getActiveProgramOrNull db companyId with
    | none => exact Succeeds.pure (LoyaltyOnly.refl db)
    | some program =>
      simp only
      split
      · exact Succeeds.pure (LoyaltyOnly.refl db)
      · split
        · exact Succeeds.pure (LoyaltyOnly.refl db)
        · exact insertOrFindWinning_succeeds hfind

theorem reverseForSaleReturn_succeeds (companyId customerId saleId saleReturnId : Uuid)
    (reversalPoints : ℤ) (userId : Uuid) (db : Db) :
    Succeeds (reverseForSaleReturn companyId customerId saleId saleReturnId reversalPoints userId)
      db fun _ db' => LoyaltyOnly db db' := by
  refine Succeeds.get_bind ?_
  split
  · exact Succeeds.pure (LoyaltyOnly.refl db)
  · cases hfind : findBySource db companyId "SALE_RETURN" saleReturnId with
    | some existing => exact Succeeds.pure (LoyaltyOnly.refl db)
    | none =>
      cases findBySource db companyId "SALE" saleId with
      | none => exact Succeeds.pure (LoyaltyOnly.refl db)
      | some originalEarn => exact insertOrFindWinning_succeeds hfind

/-! ## What an entry adds to a balance -/

variable {db' : Db}

theorem getAvailableBalance_append
    (h : db'.selling.loyaltyTransactions = db.selling.loyaltyTransactions ++ [t])
    (companyId customerId : Uuid) :
    getAvailableBalance db' companyId customerId = getAvailableBalance db companyId customerId +
      if t.companyId = companyId ∧ t.customerId = customerId then t.pointsDelta else 0 := by
  rw [getAvailableBalance, getAvailableBalance, customerRows, customerRows, h, List.filter_append,
    List.map_append, List.sum_append]
  by_cases hrow : t.companyId = companyId ∧ t.customerId = customerId
  · rw [if_pos hrow, List.filter_cons_of_pos (by simpa using hrow)]
    simp
  · rw [if_neg hrow, List.filter_cons_of_neg (by simpa using hrow)]
    simp

variable {entry : Option LoyaltyPointTransaction}

theorem insertOrFindWinning_spec {pointsDelta : ℤ} {reverses : Option Uuid}
    (h : Commits (insertOrFindWinning companyId customerId type pointsDelta sourceType sourceId reverses userId) db entry db') :
    db' = db ∨ ∃ t, db'.selling.loyaltyTransactions = db.selling.loyaltyTransactions ++ [t] ∧
      t.companyId = companyId ∧ t.sourceType = some sourceType ∧ t.sourceId = some sourceId ∧
      t.pointsDelta = pointsDelta := by
  rw [insertOrFindWinning, commits_tryCatch] at h
  rcases h with h | ⟨error, -, h⟩
  · simp only [insertTransaction, commits_map, commits_bind, commits_get, commits_rejectIf,
      commits_modify, commits_pure] at h
    obtain ⟨_, ⟨_, _, ⟨rfl, rfl⟩, _, _, ⟨-, rfl⟩, id, db₁, hid, _, _, rfl, rfl, rfl⟩, -⟩ := h
    obtain ⟨hseq, -⟩ := randomUUID_spec hid
    rw [SequencesOnly] at hseq
    have hledger : db.selling.loyaltyTransactions = db₁.selling.loyaltyTransactions := by rw [hseq]
    rw [hledger]
    exact .inr ⟨_, rfl, rfl, rfl, rfl, rfl⟩
  · simp only [commits_bind, commits_get] at h
    obtain ⟨_, _, ⟨rfl, rfl⟩, h⟩ := h
    split at h
    · simp only [commits_bind, commits_orReject, commits_pure] at h
      obtain ⟨_, _, ⟨-, rfl⟩, -, rfl⟩ := h
      exact .inl rfl
    · exact absurd h (commits_throw _ _ _ _)

/-- A reversal adds one row that takes its points away, for a return of a sale that
earned some; or nothing is written. -/
theorem reverseForSaleReturn_spec {saleId saleReturnId : Uuid} {reversalPoints : ℤ}
    (h : Commits (reverseForSaleReturn companyId customerId saleId saleReturnId reversalPoints userId) db entry db') :
    db' = db ∨ 0 < reversalPoints ∧
      ∃ t, db'.selling.loyaltyTransactions = db.selling.loyaltyTransactions ++ [t] ∧
        t.companyId = companyId ∧ t.sourceType = some "SALE_RETURN" ∧
        t.sourceId = some saleReturnId ∧ t.pointsDelta = -reversalPoints := by
  simp only [reverseForSaleReturn, commits_bind, commits_get] at h
  obtain ⟨_, _, ⟨rfl, rfl⟩, h⟩ := h
  split at h
  · exact .inl ((commits_pure _ _ _ _).1 h).2.symm
  · rename_i hpoints
    split at h
    · exact .inl ((commits_pure _ _ _ _).1 h).2.symm
    · split at h
      · exact .inl ((commits_pure _ _ _ _).1 h).2.symm
      · exact (insertOrFindWinning_spec h).imp_right fun hrow => ⟨Int.not_le.1 hpoints, hrow⟩

theorem findBySource_append
    (h : db'.selling.loyaltyTransactions = db.selling.loyaltyTransactions ++ [t])
    (hne : ¬ (t.companyId = companyId ∧ t.sourceType = some sourceType ∧ t.sourceId = some sourceId)) :
    findBySource db' companyId sourceType sourceId =
      findBySource db companyId sourceType sourceId := by
  rw [findBySource, findBySource, h, List.find?_append]
  have hnone : [t].find? (fun t => decide (t.companyId = companyId ∧
      t.sourceType = some sourceType ∧ t.sourceId = some sourceId)) = none := by
    rw [List.find?_eq_none]
    rintro _ ht hrow
    obtain rfl := List.mem_singleton.1 ht
    exact hne (of_decide_eq_true hrow)
  rw [hnone, Option.or_none]

theorem findBySource_append_self
    (h : db'.selling.loyaltyTransactions = db.selling.loyaltyTransactions ++ [t])
    (hnone : findBySource db companyId sourceType sourceId = none)
    (hrow : t.companyId = companyId ∧ t.sourceType = some sourceType ∧ t.sourceId = some sourceId) :
    findBySource db' companyId sourceType sourceId = some t := by
  rw [findBySource] at hnone ⊢
  rw [h, List.find?_append, hnone, Option.none_or]
  simp [hrow]

/-- A redemption adds one row that takes its points away, and always succeeds. -/
theorem insertRedemption_succeeds (companyId customerId userId : Uuid) (program : LoyaltyProgram)
    (dto : RedeemLoyaltyPointsDto) (db : Db) :
    Succeeds (insertRedemption companyId customerId userId program dto) db fun t db' =>
      db'.selling.loyaltyTransactions = db.selling.loyaltyTransactions ++ [t] ∧
        t.companyId = companyId ∧ t.customerId = customerId ∧ t.pointsDelta = -(dto.points : ℤ) := by
  refine (randomUUID_succeeds db).bind fun id db₁ hseq => Succeeds.modify_bind (.pure ?_)
  rw [SequencesOnly] at hseq
  refine ⟨?_, rfl, rfl, rfl⟩
  rw [hseq]

end FashionErp.LoyaltyService
