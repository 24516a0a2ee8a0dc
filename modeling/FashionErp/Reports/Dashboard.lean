/-
`DashboardService`: one summary of the reports, and the cache in front of it.

The summary takes its figures from the sales, purchase, payment, stock and aging reports
and from the trial balance, each asked for the same scope.
-/
import FashionErp.Reports.ArApAging
import FashionErp.Reports.InventoryReports
import FashionErp.Reports.SalesReports
import Mathlib.Data.Finset.Basic

namespace FashionErp

open Lib

structure DashboardQueryDto where
  companyId : Option Uuid := none
  branchId : Option Uuid := none
  fromDate : Option DateString := none
  toDate : Option DateString := none

/-! ## Purchases and payments -/

structure PurchaseSummary where
  purchaseOrderCount : ℕ
  grandTotal : Cents
  subtotal : Cents
  discountAmount : Cents
  taxAmount : Cents

structure PaymentByDirectionRow where
  direction : PaymentDirection
  paymentCount : ℕ
  totalAmount : Cents

section

variable (rt : Runtime) (db : Db) (scope : ResolvedCompanyBranchScope)
  (fromDate toDate : Option DateString)

def PurchaseReportsService.baseQuery : List PurchaseOrder :=
  db.buying.purchaseOrders.rows.filter fun po =>
    po.companyId = scope.companyId && po.status = .Confirmed &&
      scope.inBranchScope po.branchId && rt.inRange fromDate toDate po.transactionDate

def PurchaseReportsService.summary : PurchaseSummary :=
  let purchaseOrders := baseQuery rt db scope fromDate toDate
  { purchaseOrderCount := purchaseOrders.length
    grandTotal := (purchaseOrders.map PurchaseOrder.grandTotal).sum
    subtotal := (purchaseOrders.map PurchaseOrder.subtotal).sum
    discountAmount := (purchaseOrders.map PurchaseOrder.discountAmount).sum
    taxAmount := (purchaseOrders.map PurchaseOrder.taxAmount).sum }

def PaymentReportsService.baseQuery : List Payment :=
  db.paying.payments.rows.filter fun payment =>
    payment.companyId = scope.companyId && payment.status = .Confirmed &&
      scope.inBranchScope payment.branchId && rt.inRange fromDate toDate payment.paymentDate

def PaymentReportsService.byDirection : List PaymentByDirectionRow :=
  [PaymentDirection.Receipt, .Payment, .Refund].filterMap fun direction =>
    let payments := (baseQuery rt db scope fromDate toDate).filter fun payment =>
      payment.direction = direction
    if payments = [] then none
    else some { direction := direction, paymentCount := payments.length
                totalAmount := (payments.map Payment.amount).sum }

end

/-! ## The summary -/

structure DashboardResponse where
  fromDate : Option String
  toDate : Option String
  companyId : Uuid
  branchId : Option Uuid
  saleCount : ℕ
  salesGrandTotal : Cents
  purchaseOrderCount : ℕ
  purchasesGrandTotal : Cents
  receiptCount : ℕ
  receiptTotal : Cents
  paymentCount : ℕ
  paymentTotal : Cents
  receivablesOutstanding : Cents
  payablesOutstanding : Cents
  totalOnHandQuantity : ℤ
  distinctProductVariantCount : ℕ
  totalDebit : Cents
  totalCredit : Cents
  balanced : Bool
  cached : Bool
  asOfTimestamp : String

namespace DashboardService

variable (rt : Runtime) (db : Db) (scope : ResolvedCompanyBranchScope) (query : DashboardQueryDto)

def computeDashboard : DashboardResponse :=
  let salesSummary := SalesReportsService.summary rt db scope
    { fromDate := query.fromDate, toDate := query.toDate }
  let purchaseSummary := PurchaseReportsService.summary rt db scope query.fromDate query.toDate
  let paymentsByDirection :=
    PaymentReportsService.byDirection rt db scope query.fromDate query.toDate
  let stockSummary := InventoryReportsService.stockSummary rt db scope {}
  let arApAging := ArApAgingService.query rt db scope { asOfDate := query.toDate }
  let trialBalance := TrialBalanceService.query db scope.companyId scope.branchId
    scope.allowedBranchIds (query.toDate.map fun d => rt.literal d.text)
  let receiptRow := paymentsByDirection.find? fun row => row.direction = .Receipt
  let paymentRow := paymentsByDirection.find? fun row => row.direction = .Payment
  { fromDate := query.fromDate.map DateString.text
    toDate := query.toDate.map DateString.text
    companyId := scope.companyId
    branchId := scope.branchId
    saleCount := salesSummary.saleCount
    salesGrandTotal := salesSummary.grandTotal
    purchaseOrderCount := purchaseSummary.purchaseOrderCount
    purchasesGrandTotal := purchaseSummary.grandTotal
    receiptCount := (receiptRow.map PaymentByDirectionRow.paymentCount).getD 0
    receiptTotal := (receiptRow.map PaymentByDirectionRow.totalAmount).getD 0
    paymentCount := (paymentRow.map PaymentByDirectionRow.paymentCount).getD 0
    paymentTotal := (paymentRow.map PaymentByDirectionRow.totalAmount).getD 0
    receivablesOutstanding := arApAging.totalReceivables
    payablesOutstanding := arApAging.totalPayables
    totalOnHandQuantity := (stockSummary.map StockSummaryRow.onHandQuantity).sum
    distinctProductVariantCount :=
      (stockSummary.map StockSummaryRow.productVariantId).eraseDups.length
    totalDebit := trialBalance.totalDebit
    totalCredit := trialBalance.totalCredit
    balanced := trialBalance.totalDebit = trialBalance.totalCredit
    cached := false
    asOfTimestamp := rt.now }

/-! ## The cache -/

structure UuidSpelling where
  text : Uuid → String
  injective : Function.Injective text
  digits : ∀ id, ∀ c ∈ (text id).toList, c ∈ "0123456789abcdef-".toList

def resolveBranchScopeCacheKey (spelling : UuidSpelling) : String :=
  match scope.branchId, scope.allowedBranchIds with
  | some branchId, _ => spelling.text branchId
  | none, some (b :: bs) =>
    "branches:" ++ ",".intercalate (((b :: bs).map spelling.text).insertionSort (· ≤ ·))
  | none, _ => "all"

/-- `CacheKeys.dashboard`, of the query's scope and dates. -/
def cacheKey (spelling : UuidSpelling) : String :=
  "erp:cache:dashboard:" ++ spelling.text scope.companyId ++ ":" ++
    resolveBranchScopeCacheKey scope spelling ++ ":" ++
    dateText query.fromDate ++ ":" ++ dateText query.toDate

abbrev Cache := String → Option DashboardResponse

def getDashboard (spelling : UuidSpelling) (cache : Cache) : DashboardResponse × Cache :=
  let key := cacheKey scope query spelling
  match cache key with
  | some cached => ({ cached with cached := true }, cache)
  | none =>
    let fresh := computeDashboard rt db scope query
    (fresh, Function.update cache key (some fresh))

end DashboardService

/-- The branches a query is restricted to; `none` is no restriction. -/
def ResolvedCompanyBranchScope.branchSet (scope : ResolvedCompanyBranchScope) :
    Option (Finset Uuid) :=
  match scope.branchId, scope.allowedBranchIds with
  | some branchId, _ => some {branchId}
  | none, some (b :: bs) => some (b :: bs).toFinset
  | none, _ => none

namespace DashboardService

/-! ## The key says what is cached

A key is read back field by field: no spelled id has a colon or a comma, the word
`branches` and the word `all` are no ids, and two dates joined by a colon can be told
apart. -/

section Key

variable (spelling : UuidSpelling)

theorem UuidSpelling.not_mem {c : Char} (hc : c ∉ "0123456789abcdef-".toList) (id : Uuid) :
    c ∉ (spelling.text id).toList :=
  fun h => hc (spelling.digits id c h)

theorem UuidSpelling.text_ne {word : String} {c : Char} (hword : c ∈ word.toList)
    (hc : c ∉ "0123456789abcdef-".toList) (id : Uuid) : (spelling.text id).toList ≠ word.toList := by
  intro h
  exact UuidSpelling.not_mem spelling hc id (h ▸ hword)

theorem joined_ids_inj {ids₁ ids₂ : List Uuid} (h₁ : ids₁ ≠ []) (h₂ : ids₂ ≠ [])
    (h : (",".intercalate ((ids₁.map spelling.text).insertionSort (· ≤ ·))).toList =
      (",".intercalate ((ids₂.map spelling.text).insertionSort (· ≤ ·))).toList) :
    ids₁.toFinset = ids₂.toFinset := by
  have hnocomma : ∀ ids : List Uuid, ∀ text ∈ ((ids.map spelling.text).insertionSort
      (· ≤ ·)).map String.toList, ',' ∉ text := by
    intro ids text htext
    obtain ⟨word, hword, rfl⟩ := List.mem_map.1 htext
    obtain ⟨id, -, rfl⟩ := List.mem_map.1 ((List.mem_insertionSort _).1 hword)
    exact UuidSpelling.not_mem spelling (by decide) id
  have hne : ∀ {ids : List Uuid}, ids ≠ [] →
      ((ids.map spelling.text).insertionSort (· ≤ ·)).map String.toList ≠ [] := by
    intro ids hids hnil
    have hlength := congrArg List.length hnil
    rw [List.length_map, List.length_insertionSort, List.length_map] at hlength
    exact hids (List.length_eq_zero_iff.1 hlength)
  -- splitting at the commas gives the sorted spellings back
  rw [String.toList_intercalate, String.toList_intercalate] at h
  have hwords := congrArg (List.splitOn ',') h
  rw [show ",".toList = [','] from rfl, List.splitOn_intercalate ',' (hnocomma ids₁) (hne h₁),
    List.splitOn_intercalate ',' (hnocomma ids₂) (hne h₂)] at hwords
  have hsorted := List.map_injective_iff.2 (fun _ _ => String.toList_inj.1) hwords
  have hperm : (ids₁.map spelling.text).Perm (ids₂.map spelling.text) :=
    (List.perm_insertionSort (· ≤ ·) _).symm.trans
      (hsorted ▸ List.perm_insertionSort (· ≤ ·) _)
  have hids := (List.map_perm_map_iff spelling.injective).1 hperm
  exact List.toFinset_eq_of_perm _ _ hids

inductive BranchKey (scope : ResolvedCompanyBranchScope) (key : List Char) : Prop
  | one (b : Uuid) (hkey : key = (spelling.text b).toList) (hset : scope.branchSet = some {b})
  | several (ids : List Uuid) (hids : ids ≠ [])
      (hkey : key = "branches".toList ++ ':' ::
        (",".intercalate ((ids.map spelling.text).insertionSort (· ≤ ·))).toList)
      (hset : scope.branchSet = some ids.toFinset)
  | all (hkey : key = "all".toList) (hset : scope.branchSet = none)

theorem branchKey (scope : ResolvedCompanyBranchScope) :
    BranchKey spelling scope (resolveBranchScopeCacheKey scope spelling).toList := by
  cases hbranch : scope.branchId with
  | some b =>
    exact .one b (by simp only [resolveBranchScopeCacheKey, hbranch])
      (by simp only [ResolvedCompanyBranchScope.branchSet, hbranch])
  | none =>
    cases hallowed : scope.allowedBranchIds with
    | none =>
      exact .all (by simp only [resolveBranchScopeCacheKey, hbranch, hallowed])
        (by simp only [ResolvedCompanyBranchScope.branchSet, hbranch, hallowed])
    | some ids =>
      cases ids with
      | nil =>
        exact .all (by simp only [resolveBranchScopeCacheKey, hbranch, hallowed])
          (by simp only [ResolvedCompanyBranchScope.branchSet, hbranch, hallowed])
      | cons b bs =>
        refine .several (b :: bs) (List.cons_ne_nil b bs) ?_
          (by simp only [ResolvedCompanyBranchScope.branchSet, hbranch, hallowed])
        simp only [resolveBranchScopeCacheKey, hbranch, hallowed, String.toList_append]
        rfl

theorem no_colon_in_ids (ids : List Uuid) :
    ':' ∉ (",".intercalate ((ids.map spelling.text).insertionSort (· ≤ ·))).toList := by
  rw [String.toList_intercalate]
  intro hmem
  rcases mem_of_mem_intercalate hmem with hcolon | ⟨text, htext, hcolon⟩
  · exact absurd hcolon (by decide)
  · obtain ⟨word, hword, rfl⟩ := List.mem_map.1 htext
    obtain ⟨id, -, rfl⟩ := List.mem_map.1 ((List.mem_insertionSort _).1 hword)
    exact UuidSpelling.not_mem spelling (by decide) id hcolon

variable {scope₁ scope₂ : ResolvedCompanyBranchScope}

theorem branchKey_inj {key₁ key₂ rest₁ rest₂ : List Char}
    (h₁ : BranchKey spelling scope₁ key₁) (h₂ : BranchKey spelling scope₂ key₂)
    (h : key₁ ++ ':' :: rest₁ = key₂ ++ ':' :: rest₂) :
    scope₁.branchSet = scope₂.branchSet ∧ rest₁ = rest₂ := by
  have hid := UuidSpelling.not_mem spelling (show ':' ∉ "0123456789abcdef-".toList by decide)
  have hbranches : ':' ∉ "branches".toList := by decide
  have hall : ':' ∉ "all".toList := by decide
  have hr : 'r' ∉ "0123456789abcdef-".toList := by decide
  have hl : 'l' ∉ "0123456789abcdef-".toList := by decide
  cases h₁ with
  | one b₁ hkey₁ hset₁ =>
    cases h₂ with
    | one b₂ hkey₂ hset₂ =>
      rw [hkey₁, hkey₂, append_separator_inj (hid b₁) (hid b₂)] at h
      have hb : b₁ = b₂ := spelling.injective (String.toList_inj.1 h.1)
      exact ⟨by rw [hset₁, hset₂, hb], h.2⟩
    | several ids₂ hids₂ hkey₂ hset₂ =>
      rw [hkey₁, hkey₂, List.append_assoc, List.cons_append,
        append_separator_inj (hid b₁) hbranches] at h
      exact absurd h.1 (UuidSpelling.text_ne spelling (by decide) hr b₁)
    | all hkey₂ hset₂ =>
      rw [hkey₁, hkey₂, append_separator_inj (hid b₁) hall] at h
      exact absurd h.1 (UuidSpelling.text_ne spelling (by decide) hl b₁)
  | several ids₁ hids₁ hkey₁ hset₁ =>
    rw [hkey₁, List.append_assoc, List.cons_append] at h
    cases h₂ with
    | one b₂ hkey₂ hset₂ =>
      rw [hkey₂, append_separator_inj hbranches (hid b₂)] at h
      exact absurd h.1.symm (UuidSpelling.text_ne spelling (by decide) hr b₂)
    | several ids₂ hids₂ hkey₂ hset₂ =>
      rw [hkey₂, List.append_assoc, List.cons_append,
        append_separator_inj hbranches hbranches,
        append_separator_inj (no_colon_in_ids spelling ids₁)
          (no_colon_in_ids spelling ids₂)] at h
      obtain ⟨-, hjoined, hrest⟩ := h
      exact ⟨by rw [hset₁, hset₂, joined_ids_inj spelling hids₁ hids₂ hjoined], hrest⟩
    | all hkey₂ hset₂ =>
      rw [hkey₂, append_separator_inj hbranches hall] at h
      exact absurd h.1 (by decide)
  | all hkey₁ hset₁ =>
    cases h₂ with
    | one b₂ hkey₂ hset₂ =>
      rw [hkey₁, hkey₂, append_separator_inj hall (hid b₂)] at h
      exact absurd h.1.symm (UuidSpelling.text_ne spelling (by decide) hl b₂)
    | several ids₂ hids₂ hkey₂ hset₂ =>
      rw [hkey₁, hkey₂, List.append_assoc, List.cons_append,
        append_separator_inj hall hbranches] at h
      exact absurd h.1 (by decide)
    | all hkey₂ hset₂ =>
      rw [hkey₁, hkey₂, append_separator_inj hall hall] at h
      exact ⟨by rw [hset₁, hset₂], h.2⟩

theorem toList_fields (start a b c d : String) :
    (start ++ a ++ ":" ++ b ++ ":" ++ c ++ ":" ++ d).toList =
      start.toList ++ (a.toList ++ ':' :: (b.toList ++ ':' :: (c.toList ++ ':' :: d.toList))) := by
  have hcolon : ":".toList = [':'] := rfl
  simp only [String.toList_append, List.append_assoc, hcolon, List.cons_append, List.nil_append]

theorem toList_cacheKey (scope : ResolvedCompanyBranchScope) (query : DashboardQueryDto) :
    (cacheKey scope query spelling).toList = "erp:cache:dashboard:".toList ++
      ((spelling.text scope.companyId).toList ++ ':' ::
        ((resolveBranchScopeCacheKey scope spelling).toList ++ ':' ::
          ((dateText query.fromDate).toList ++ ':' :: (dateText query.toDate).toList))) :=
  toList_fields _ _ _ _ _

theorem cacheKey_inj {query₁ query₂ : DashboardQueryDto}
    (h : cacheKey scope₁ query₁ spelling = cacheKey scope₂ query₂ spelling) :
    scope₁.companyId = scope₂.companyId ∧ scope₁.branchSet = scope₂.branchSet ∧
      query₁.fromDate.map DateString.text = query₂.fromDate.map DateString.text ∧
      query₁.toDate.map DateString.text = query₂.toDate.map DateString.text := by
  have hchars := (toList_cacheKey spelling scope₁ query₁).symm.trans
    ((congrArg String.toList h).trans (toList_cacheKey spelling scope₂ query₂))
  have hid := UuidSpelling.not_mem spelling (show ':' ∉ "0123456789abcdef-".toList by decide)
  obtain ⟨hcompany, hrest⟩ := (append_separator_inj (hid scope₁.companyId)
    (hid scope₂.companyId)).1 (List.append_cancel_left hchars)
  obtain ⟨hset, hdates⟩ := branchKey_inj spelling (branchKey spelling scope₁)
    (branchKey spelling scope₂) hrest
  obtain ⟨hfrom, hto⟩ := dateTexts_inj hdates
  exact ⟨spelling.injective (String.toList_inj.1 hcompany), hset, dateText_inj hfrom,
    dateText_inj hto⟩

end Key

end DashboardService

end FashionErp
