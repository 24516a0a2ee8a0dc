/-
Loyalty points redeemed and earned side by side.

`redeem` reads the program, locks every ledger row of the customer and only then sums
them up; but the sum is a plain read, so it counts the rows of the snapshot that the
read of the program has fixed.
-/
import FashionErp.Sales.Loyalty
import FashionErp.Lib.Concurrent
import Mathlib.Algebra.Order.BigOperators.Group.List
import Mathlib.Algebra.Order.Group.Int

namespace FashionErp.RedeemRace

open Lib Lib.Tx LoyaltyService

/-- The arguments of a `redeem`. -/
structure Redemption where
  companyId : Uuid
  customerId : Uuid
  userId : Uuid
  dto : RedeemLoyaltyPointsDto

/-- The arguments of an `earnForSale`. -/
structure Earning where
  companyId : Uuid
  customerId : Uuid
  saleId : Uuid
  saleGrandTotal : Cents
  userId : Uuid

inductive Request
  | redeem (r : Redemption)
  | earn (e : Earning)

abbrev Lock := Uuid × Uuid

inductive Phase
  | called
  | opened (snapshot : Db) (program : LoyaltyProgram)
  | locked (snapshot : Db) (program : LoyaltyProgram)
  | summed (snapshot : Db) (program : LoyaltyProgram)
  | earning (points : ℤ)
  | returned
  | rejected (error : Failure)
  /-- The connection is lost. -/
  | aborted

inductive Label
  /-- The reads at the beginning, the first of which fixes the snapshot. -/
  | read
  | lock
  | sum
  | insert
  | abort

abbrev Step := Move Db Lock Phase

/-! ## The moves of a redemption -/

def openMove (r : Redemption) (db : Db) : Step :=
  match value (findRedeemableProgram r.companyId r.customerId) db with
  | .ok program => .goto (.opened db program)
  | .error error => .leave (.rejected error)

def lockMove (r : Redemption) (snapshot : Db) (program : LoyaltyProgram) (db : Db) : Step :=
  if (customerRows db r.companyId r.customerId).isEmpty then
    .goto (.locked snapshot program)
  else
    .acquire (r.companyId, r.customerId) (.locked snapshot program)

def sumMove (r : Redemption) (snapshot : Db) (program : LoyaltyProgram) : Step :=
  match value (assertBalance r.companyId r.customerId r.dto.points) snapshot with
  | .ok _ => .goto (.summed snapshot program)
  | .error error => .leave (.rejected error)

def insertMove (r : Redemption) (program : LoyaltyProgram) (db : Db) : Step :=
  match result (insertRedemption r.companyId r.customerId r.userId program r.dto) db with
  | .ok db' => .commit db' .returned
  | .error error => .leave (.rejected error)

/-! ## The moves of an earning -/

def pointsToEarn (db : Db) (e : Earning) : Option ℤ :=
  match findBySource db e.companyId "SALE" e.saleId, getActiveProgramOrNull db e.companyId with
  | none, some program =>
    let points := e.saleGrandTotal * program.pointsPerCurrencyUnit / 1000000
    if e.saleGrandTotal < program.minimumPurchaseForEarning ∨ points ≤ 0 then none else some points
  | _, _ => none

def earnMove (e : Earning) (db : Db) : Step :=
  match pointsToEarn db e with
  | none => .leave .returned
  | some points => .goto (.earning points)

def insertEarningMove (e : Earning) (points : ℤ) (db : Db) : Step :=
  match result (insertOrFindWinning e.companyId e.customerId .Earn points "SALE" e.saleId none
    e.userId) db with
  | .ok db' => .commit db' .returned
  | .error error => .leave (.rejected error)

def protocol (request : ℕ → Request) : Protocol Db Lock Phase Label := fun i l p db =>
  match request i, l, p with
  | .redeem r, .read, .called => some (openMove r db)
  | .redeem r, .lock, .opened snapshot program => some (lockMove r snapshot program db)
  | .redeem r, .sum, .locked snapshot program => some (sumMove r snapshot program)
  | .redeem r, .insert, .summed _ program => some (insertMove r program db)
  | .earn e, .read, .called => some (earnMove e db)
  | .earn e, .insert, .earning points => some (insertEarningMove e points db)
  | _, .abort, .opened _ _ => some (.leave .aborted)
  | _, .abort, .locked _ _ => some (.leave .aborted)
  | _, .abort, .summed _ _ => some (.leave .aborted)
  | _, .abort, .earning _ => some (.leave .aborted)
  | _, _, _ => none

def machine (request : ℕ → Request) : Machine (Shared Db Lock Phase) (ℕ × Label) :=
  concurrent (protocol request)

theorem earnForSale_eq (e : Earning) :
    earnForSale e.companyId e.customerId e.saleId e.saleGrandTotal e.userId = (do
      let db ← get
      match findBySource db e.companyId "SALE" e.saleId, pointsToEarn db e with
      | some existing, _ => return some existing
      | none, none => return none
      | none, some points =>
        insertOrFindWinning e.companyId e.customerId .Earn points "SALE" e.saleId none
          e.userId) := by
  unfold earnForSale
  congr 1
  funext db
  unfold pointsToEarn
  cases findBySource db e.companyId "SALE" e.saleId with
  | some existing => rfl
  | none =>
    cases getActiveProgramOrNull db e.companyId with
    | none => rfl
    | some program =>
      simp only
      by_cases hminimum : e.saleGrandTotal < program.minimumPurchaseForEarning
      · rw [if_pos hminimum, if_pos (.inl hminimum)]
      · rw [if_neg hminimum]
        by_cases hpoints : e.saleGrandTotal * program.pointsPerCurrencyUnit / 1000000 ≤ 0
        · rw [if_pos hpoints, if_pos (.inr hpoints)]
        · rw [if_neg hpoints, if_neg (not_or.2 ⟨hminimum, hpoints⟩)]

/-! ## What is claimed -/

def NotOverspent (db : Db) : Prop :=
  ∀ companyId customerId, 0 ≤ getAvailableBalance db companyId customerId

def StaleRedemptionFits (request : ℕ → Request) (s : Shared Db Lock Phase) : ℕ × Label → Prop
  | (i, .insert) =>
    match request i, s.phase i with
    | .redeem r, .summed snapshot _ =>
      getAvailableBalance s.db r.companyId r.customerId <
          getAvailableBalance snapshot r.companyId r.customerId →
        (r.dto.points : ℤ) ≤ getAvailableBalance s.db r.companyId r.customerId
    | _, _ => True
  | _ => True

instance (request : ℕ → Request) (s : Shared Db Lock Phase) (l : ℕ × Label) :
    Decidable (StaleRedemptionFits request s l) := by
  unfold StaleRedemptionFits
  split
  · split <;> infer_instance
  · infer_instance

/-! ## Steps -/

variable {request : ℕ → Request}

/-- What is known of request `i`: a redemption that has been checked fits the balance of
its snapshot, and what is earned is more than nothing. -/
def PhaseOk (request : ℕ → Request) (i : ℕ) (p : Phase) : Prop :=
  match request i, p with
  | .redeem r, .summed snapshot _ =>
    (r.dto.points : ℤ) ≤ getAvailableBalance snapshot r.companyId r.customerId
  | .earn _, .earning points => 0 < points
  | _, _ => True

inductive MoveCase (request : ℕ → Request) (held : Lock → Prop) (db : Db) (i : ℕ) :
    Label → Phase → Step → Prop
  | quiet {l p m} (hnot : ∀ snapshot program, (l, p) ≠ (.insert, .summed snapshot program))
      (hok : Shared.MoveOk (fun _ => False) (fun _ _ => PhaseOk request) held db i m) :
    MoveCase request held db i l p m
  | redeemed {r snapshot program db'} (hrequest : request i = .redeem r)
      (hfits : (r.dto.points : ℤ) ≤ getAvailableBalance snapshot r.companyId r.customerId)
      (hbalance : ∀ companyId customerId, getAvailableBalance db' companyId customerId =
        getAvailableBalance db companyId customerId -
          if r.companyId = companyId ∧ r.customerId = customerId then (r.dto.points : ℤ) else 0) :
    MoveCase request held db i .insert (.summed snapshot program) (.commit db' .returned)
  | earned {points db'} (hbalance : ∀ companyId customerId,
      getAvailableBalance db companyId customerId ≤ getAvailableBalance db' companyId customerId) :
    MoveCase request held db i .insert (.earning points) (.commit db' .returned)

def Phase.free : Phase → Bool
  | .summed _ _ => false
  | .earning _ => false
  | _ => true

theorem free_ok (i : ℕ) {p : Phase} (h : p.free = true) : PhaseOk request i p := by
  unfold PhaseOk
  split
  · cases h
  · cases h
  · trivial

theorem pointsToEarn_pos {db : Db} {e : Earning} {points : ℤ} (h : pointsToEarn db e = some points) :
    0 < points := by
  unfold pointsToEarn at h
  split at h
  · rename_i program _ _
    simp only at h
    split at h
    · cases h
    · rename_i hearns
      cases h
      exact Int.not_le.1 (not_or.1 hearns).2
  · cases h

theorem assertBalance_spec {companyId customerId : Uuid} {points : ℕ} {db : Db} {u : Unit}
    (h : value (assertBalance companyId customerId points) db = .ok u) :
    (points : ℤ) ≤ getAvailableBalance db companyId customerId := by
  obtain ⟨_, h⟩ := value_eq_ok.1 h
  simp only [assertBalance, commits_bind, commits_get, commits_rejectIf] at h
  obtain ⟨_, _, ⟨rfl, rfl⟩, hfits, -⟩ := h
  exact Int.not_lt.1 hfits

theorem insertMove_spec (r : Redemption) (program : LoyaltyProgram) (db : Db) :
    ∃ db', insertMove r program db = .commit db' .returned ∧
      ∀ companyId customerId, getAvailableBalance db' companyId customerId =
        getAvailableBalance db companyId customerId -
          if r.companyId = companyId ∧ r.customerId = customerId then (r.dto.points : ℤ) else 0 := by
  obtain ⟨t, db', hinsert, hledger, hcompany, hcustomer, hpoints⟩ :=
    insertRedemption_succeeds r.companyId r.customerId r.userId program r.dto db
  have hresult : result (insertRedemption r.companyId r.customerId r.userId program r.dto) db =
      .ok db' := result_eq_ok.2 ⟨t, hinsert⟩
  refine ⟨db', by rw [insertMove, hresult], fun companyId customerId => ?_⟩
  rw [getAvailableBalance_append hledger, hcompany, hcustomer, hpoints]
  split <;> omega

theorem insertEarning_spec {e : Earning} {points : ℤ} {db db' : Db} (hpos : 0 < points)
    (h : result (insertOrFindWinning e.companyId e.customerId .Earn points "SALE" e.saleId none
      e.userId) db = .ok db') (companyId customerId : Uuid) :
    getAvailableBalance db companyId customerId ≤ getAvailableBalance db' companyId customerId := by
  obtain ⟨entry, h⟩ := result_eq_ok.1 h
  rcases insertOrFindWinning_spec h with rfl | ⟨t, hledger, -, -, -, hpoints⟩
  · exact Int.le_refl _
  · rw [getAvailableBalance_append hledger, hpoints]
    split <;> omega

theorem protocol_cases (held : Lock → Prop) {db : Db} {i : ℕ} {l : Label} {p : Phase} {m : Step}
    (h : PhaseOk request i p) (hm : protocol request i l p db = some m) :
    MoveCase request held db i l p m := by
  unfold protocol at hm
  split at hm
  case h_1 r hrequest =>
    cases hm
    refine .quiet (fun _ _ => by simp) ?_
    unfold openMove
    split <;> exact free_ok _ rfl
  case h_2 r snapshot program hrequest =>
    cases hm
    refine .quiet (fun _ _ => by simp) ?_
    unfold lockMove
    split <;> exact free_ok _ rfl
  case h_3 r snapshot program hrequest =>
    cases hm
    refine .quiet (fun _ _ => by simp) ?_
    unfold sumMove
    split
    · rename_i hcheck
      simp only [Shared.MoveOk, PhaseOk, hrequest]
      exact assertBalance_spec hcheck
    · exact free_ok _ rfl
  case h_4 r snapshot program hrequest =>
    cases hm
    obtain ⟨db', hinsert, hbalance⟩ := insertMove_spec r program db
    simp only [PhaseOk, hrequest] at h
    rw [hinsert]
    exact .redeemed hrequest h hbalance
  case h_5 e hrequest =>
    cases hm
    refine .quiet (fun _ _ => by simp) ?_
    unfold earnMove
    split
    · exact free_ok _ rfl
    · rename_i points hpoints
      simp only [Shared.MoveOk, PhaseOk, hrequest]
      exact pointsToEarn_pos hpoints
  case h_6 e points hrequest =>
    cases hm
    simp only [PhaseOk, hrequest] at h
    unfold insertEarningMove
    split
    · rename_i db' hinsert
      exact .earned (insertEarning_spec h hinsert)
    · exact .quiet (fun _ _ => by simp) (free_ok _ rfl)
  case h_11 => cases hm
  all_goals
    cases hm
    exact .quiet (fun _ _ => by simp) (free_ok _ rfl)

theorem notOverspent_iff {s s' : Shared Db Lock Phase} {l : ℕ × Label}
    (h : s.Inv NotOverspent (fun _ _ => PhaseOk request)) (hs : (machine request).step s l = some s') :
    NotOverspent s'.db ↔ StaleRedemptionFits request s l := by
  obtain ⟨i, l⟩ := l
  obtain ⟨m, hm, hmove⟩ := Shared.step_move hs
  have hi := h.phase i
  generalize hp : s.phase i = p at hi hm
  cases protocol_cases (s.Holds i) hi hm with
  | quiet hnot hok =>
    refine iff_of_true (by rw [hok.db_eq hmove]; exact h.db) ?_
    unfold StaleRedemptionFits
    split
    · rename_i heq
      obtain ⟨rfl, rfl⟩ := Prod.mk.inj heq
      split
      · rename_i hphase
        exact absurd (congrArg (Prod.mk _) (hp.symm.trans hphase)) (hnot _ _)
      · trivial
    · trivial
  | @redeemed r snapshot program db' hrequest hfits hbalance =>
    cases hmove
    simp only [StaleRedemptionFits, hp, hrequest]
    constructor
    · intro hall _
      have hleft := hall r.companyId r.customerId
      rw [hbalance, if_pos ⟨rfl, rfl⟩] at hleft
      omega
    · intro hcond companyId customerId
      have hbefore := h.db companyId customerId
      rw [hbalance]
      split
      · rename_i hsame
        obtain ⟨rfl, rfl⟩ := hsame
        by_cases hstale : getAvailableBalance s.db r.companyId r.customerId <
            getAvailableBalance snapshot r.companyId r.customerId
        · have hcovered := hcond hstale
          omega
        · omega
      · omega
  | earned hbalance =>
    cases hmove
    refine iff_of_true (fun companyId customerId =>
      Int.le_trans (h.db companyId customerId) (hbalance companyId customerId)) ?_
    cases hrequest : request i <;> simp only [StaleRedemptionFits, hp, hrequest]

theorem inv_step {s s' : Shared Db Lock Phase} {l : ℕ × Label}
    (h : s.Inv NotOverspent (fun _ _ => PhaseOk request)) (hs : (machine request).step s l = some s')
    (hdb : NotOverspent s'.db) : s'.Inv NotOverspent (fun _ _ => PhaseOk request) := by
  obtain ⟨i, l⟩ := l
  have hi := h.phase i
  generalize hp : s.phase i = p at hi
  refine h.step hs (fun m hm => ?_) fun _ _ _ _ _ _ _ hj => hj
  obtain ⟨m', hm', hmove⟩ := Option.bind_eq_some_iff.1 hs
  obtain rfl := Option.some.inj (hm.symm.trans hm')
  rw [hp] at hm
  cases protocol_cases (s.Holds i) hi hm with
  | quiet _ hok =>
    cases m with
    | commit db' q => exact hok.1.elim
    | _ => exact hok
  | redeemed _ _ _ =>
    cases hmove
    exact ⟨hdb, free_ok _ rfl⟩
  | earned _ =>
    cases hmove
    exact ⟨hdb, free_ok _ rfl⟩

/-! ## Runs -/

/-- Points are not spent twice, and when. Any number of redemptions and earnings may
be under way. No balance is negative in any state of a run exactly when every redemption
that is inserted fits the balance of its customer wherever the balance has become less
than the redemption's snapshot shows. -/
theorem points_not_overspent_iff (request : ℕ → Request) {db : Db} (hdb : NotOverspent db)
    {ls : List (ℕ × Label)} {s : Shared Db Lock Phase}
    (hrun : (machine request).Run (.start db .called) ls s) :
    (∀ ks, ks <+: ls → ∀ s₁, (machine request).Run (.start db .called) ks s₁ →
        NotOverspent s₁.db) ↔
      (machine request).RunWith (StaleRedemptionFits request) (.start db .called) ls s := by
  have hstart : (Shared.start db .called : Shared Db Lock Phase).Inv NotOverspent
      (fun _ _ => PhaseOk request) := Shared.inv_start hdb fun i _ => free_ok i rfl
  refine Machine.prefixes_iff_runWith (fun s l s' h hc hs => ?_) (fun _ h => h.db)
    (fun _ _ _ h hs hall => (notOverspent_iff h hs).1 hall) hstart hrun
  exact inv_step h hs ((notOverspent_iff h hs).2 hc)

/-! A customer with a hundred points who redeems them twice, and a sale that earns more
in between. -/

namespace RedeemDemo

def db : Db where
  master :=
    { customers := .ofRows
        [{ id := 30, companyId := 10, customerCode := "C-1", receivableAccountId := none,
           status := .Active }]
      loyaltyPrograms :=
        [{ companyId := 10, pointsPerCurrencyUnit := 10000, redemptionValuePerPoint := 100,
           minimumPurchaseForEarning := 0, isActive := true }] }
  selling :=
    { loyaltyTransactions :=
        [{ id := 1, companyId := 10, customerId := 30, type := .Earn, pointsDelta := 100,
           sourceType := some "SALE", sourceId := some 70, reversesTransactionId := none,
           createdBy := none }] }

def requests (i : ℕ) : Request :=
  if i = 0 then
    .earn { companyId := 10, customerId := 30, saleId := 71, saleGrandTotal := 10000, userId := 99 }
  else
    .redeem { companyId := 10, customerId := 30, userId := 99,
              dto := { points := 100, notes := none } }

def spend (i : ℕ) : List (ℕ × Label) := [(i, .read), (i, .lock), (i, .sum), (i, .insert)]

theorem notOverspent : NotOverspent db := by
  intro companyId customerId
  rw [getAvailableBalance]
  refine List.sum_nonneg fun points hpoints => ?_
  obtain ⟨t, ht, rfl⟩ := List.mem_map.1 hpoints
  obtain rfl := List.mem_singleton.1 (List.mem_filter.1 ht).1
  decide

end RedeemDemo

open RedeemDemo in
theorem points_not_overspent_iff_earned :
    ∃ s, (machine requests).Run (.start db .called)
        ((0, .read) :: spend 1 ++ [(0, .insert)] ++ spend 2) s ∧
      getAvailableBalance s.db 10 30 = 0 ∧ NotOverspent s.db := by
  obtain ⟨s, hrun, hs⟩ := Machine.exists_runWith (machine requests) (StaleRedemptionFits requests)
    (.start db .called) ((0, .read) :: spend 1 ++ [(0, .insert)] ++ spend 2)
    (fun s => getAvailableBalance s.db 10 30 = 0) (by decide +kernel)
  exact ⟨s, hrun.run, of_decide_eq_true hs,
    (points_not_overspent_iff requests notOverspent hrun.run).2 hrun _ (List.prefix_refl _) s
      hrun.run⟩

open RedeemDemo in
theorem waiting_redemption_overspends :
    ∃ s, (machine requests).Run (.start db .called)
        [(1, .read), (2, .read), (1, .lock), (1, .sum), (1, .insert), (2, .lock), (2, .sum),
          (2, .insert)] s ∧
      getAvailableBalance s.db 10 30 = -100 ∧ ¬ NotOverspent s.db := by
  obtain ⟨s, hrun, hs⟩ := Machine.exists_runWith (machine requests) (fun _ _ => True)
    (.start db .called)
    [(1, .read), (2, .read), (1, .lock), (1, .sum), (1, .insert), (2, .lock), (2, .sum),
      (2, .insert)]
    (fun s => getAvailableBalance s.db 10 30 = -100) (by decide +kernel)
  have hbalance : getAvailableBalance s.db 10 30 = -100 := of_decide_eq_true hs
  refine ⟨s, hrun, hbalance, fun hall => ?_⟩
  have hleft := hall 10 30
  rw [hbalance] at hleft
  omega

end FashionErp.RedeemRace
