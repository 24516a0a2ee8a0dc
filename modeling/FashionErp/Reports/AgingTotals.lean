/-
What the aging report adds up to.

The loop adds every line to the bucket of its age under its account, and to the total.
-/
import FashionErp.Reports.Isolation

namespace FashionErp

open Lib

namespace ArApAgingService

/-! ## Buckets -/

/-- The fields of `BucketAccumulator`. -/
inductive Bucket
  | current
  | days1To30
  | days31To60
  | days61To90
  | over90
  deriving DecidableEq

def bucketFor : Option ℤ → Bucket
  | none => .over90
  | some days =>
    if days ≤ 0 then .current
    else if days ≤ 30 then .days1To30
    else if days ≤ 60 then .days31To60
    else if days ≤ 90 then .days61To90
    else .over90

def buckets : List Bucket := [.current, .days1To30, .days31To60, .days61To90, .over90]

end ArApAgingService

open ArApAgingService in
def AgingBuckets.get (acc : AgingBuckets) : Bucket → Cents
  | .current => acc.current
  | .days1To30 => acc.days1To30
  | .days31To60 => acc.days31To60
  | .days61To90 => acc.days61To90
  | .over90 => acc.over90

namespace ArApAgingService

theorem get_empty (b : Bucket) : ({} : AgingBuckets).get b = 0 := by
  cases b <;> rfl

theorem get_add (acc : AgingBuckets) (age : Option ℤ) (c : Cents) (b : Bucket) :
    (acc.add age c).get b = acc.get b + if bucketFor age = b then c else 0 := by
  cases age with
  | none => cases b <;> simp [AgingBuckets.add, bucketFor, AgingBuckets.get]
  | some days =>
    simp only [AgingBuckets.add, bucketFor]
    split_ifs
    all_goals cases b <;> simp_all [AgingBuckets.get]

theorem sum_get (acc : AgingBuckets) : (buckets.map acc.get).sum = acc.total := by
  simp only [buckets, List.map_cons, List.map_nil, List.sum_cons, List.sum_nil, AgingBuckets.get,
    AgingBuckets.total]
  abel

theorem buckets_nodup : buckets.Nodup := by decide

theorem mem_buckets (b : Bucket) : b ∈ buckets := by
  cases b <;> decide

/-! ## The loop -/

section Loop

variable (amount : AgedLine → Cents) (asOfTime : Option ℤ)

def cell (line : AgedLine) : Uuid × Bucket :=
  (line.accountId, bucketFor (ageDays line.entryDate asOfTime))

def toCells (lines : List AgedLine) : List ((Uuid × Bucket) × Cents) :=
  lines.map fun line => (cell asOfTime line, amount line)

def toAccounts (lines : List AgedLine) : List (Uuid × Cents) :=
  lines.map fun line => (line.accountId, amount line)

structure Found (lines : List AgedLine) (found : Accumulated) : Prop where
  total : found.totalCents = (lines.map amount).sum
  accounts : ∀ a, a ∈ found.byAccount ↔ ∃ line ∈ lines, line.accountId = a ∧ amount line ≠ 0
  cells : ∀ a b, ((found.byAccount.lookup a).getD {}).get b =
    net (toCells amount asOfTime lines) (a, b)

theorem found_nil : Found amount asOfTime [] {} where
  total := rfl
  accounts a := by
    constructor
    · intro h
      exact absurd h (AList.notMem_empty a)
    · rintro ⟨line, hline, -⟩
      cases hline
  cells a b := by
    show ((AList.lookup a (∅ : JsMap Uuid AgingBuckets)).getD {}).get b = 0
    rw [AList.lookup_empty, Option.getD_none, get_empty]

theorem Found.addLine {amount : AgedLine → Cents} {asOfTime : Option ℤ} {lines : List AgedLine}
    {found : Accumulated} (h : Found amount asOfTime lines found) (line : AgedLine) :
    Found amount asOfTime (lines ++ [line])
      (ArApAgingService.addLine amount asOfTime found line) := by
  have hpost : ∀ a b, net (toCells amount asOfTime (lines ++ [line])) (a, b) =
      net (toCells amount asOfTime lines) (a, b) +
        if cell asOfTime line = (a, b) then amount line else 0 := by
    intro a b
    rw [toCells, List.map_append, net_append, List.map_singleton, net_singleton, toCells]
  have hmem : ∀ a, (∃ l ∈ lines ++ [line], l.accountId = a ∧ amount l ≠ 0) ↔
      (∃ l ∈ lines, l.accountId = a ∧ amount l ≠ 0) ∨ line.accountId = a ∧ amount line ≠ 0 := by
    intro a
    simp only [List.mem_append, List.mem_singleton, or_and_right, exists_or, exists_eq_left]
  unfold ArApAgingService.addLine
  by_cases hzero : amount line = 0
  · rw [if_pos hzero]
    refine ⟨?_, fun a => ?_, fun a b => ?_⟩
    · rw [h.total, List.map_append, List.sum_append, List.map_singleton, List.sum_singleton, hzero,
        add_zero]
    · rw [h.accounts, hmem]
      exact ⟨.inl, fun hor => hor.resolve_right fun hline => hline.2 hzero⟩
    · rw [h.cells, hpost, hzero, ite_self, add_zero]
  · rw [if_neg hzero]
    refine ⟨?_, fun a => ?_, fun a b => ?_⟩
    · rw [h.total, List.map_append, List.sum_append, List.map_singleton, List.sum_singleton]
    · rw [AList.mem_insert, h.accounts, hmem, or_comm, eq_comm]
      simp only [ne_eq, hzero, not_false_eq_true, and_true]
    · rw [hpost]
      by_cases ha : a = line.accountId
      · subst ha
        rw [AList.lookup_insert, Option.getD_some, get_add, h.cells]
        simp only [cell, Prod.mk.injEq, true_and]
      · rw [AList.lookup_insert_ne ha, h.cells, if_neg, add_zero]
        exact fun e => ha (congrArg Prod.fst e).symm

/-- The loop. -/
theorem found_foldl (lines : List AgedLine) :
    Found amount asOfTime lines (lines.foldl (addLine amount asOfTime) {}) := by
  induction lines using List.reverseRecOn with
  | nil => exact found_nil amount asOfTime
  | append_singleton lines line ih =>
    rw [List.foldl_concat]
    exact ih.addLine line

theorem sum_cells (lines : List AgedLine) (a : Uuid) :
    (buckets.map fun b => net (toCells amount asOfTime lines) (a, b)).sum =
      net (toAccounts amount lines) a := by
  induction lines with
  | nil => rfl
  | cons line lines ih =>
    have hsplit : ∀ b, net (toCells amount asOfTime (line :: lines)) (a, b) =
        (if cell asOfTime line = (a, b) then amount line else 0) +
          net (toCells amount asOfTime lines) (a, b) := fun b => net_cons _ _ _
    have hline : (buckets.map fun b =>
        if cell asOfTime line = (a, b) then amount line else 0).sum =
        if line.accountId = a then amount line else 0 := by
      by_cases ha : line.accountId = a
      · rw [if_pos ha]
        simp only [cell, ha, Prod.mk.injEq, true_and]
        exact sum_ite_key buckets_nodup (mem_buckets _) _
      · simp [cell, ha, buckets]
    simp only [hsplit]
    rw [List.sum_map_add, hline, ih]
    exact (net_cons (line.accountId, amount line) _ _).symm

end Loop

/-! ## The rows -/

inductive Side
  | receivables
  | payables

def Side.net : Side → Cents → Cents → Cents
  | .receivables, debit, credit => debit - credit
  | .payables, debit, credit => credit - debit

def Side.parties (db : Db) (scope : ResolvedCompanyBranchScope) : Side → List Party
  | .receivables => customers db scope
  | .payables => suppliers db scope

def Side.rows (result : ArApAgingResult) : Side → List AgingRow
  | .receivables => result.receivables
  | .payables => result.payables

def Side.total (result : ArApAgingResult) : Side → Cents
  | .receivables => result.totalReceivables
  | .payables => result.totalPayables

def Side.amount (side : Side) (line : AgedLine) : Cents := side.net line.debitAmount line.creditAmount

section Rows

variable (parties : List Party) (byAccount : JsMap Uuid AgingBuckets)

def partyRow (party : Party) : Option AgingRow := do
  let accountId ← party.accountId
  let acc ← byAccount.lookup accountId
  return { partyId := party.id, partyCode := party.code, partyName := party.name
           buckets := acc, total := acc.total }

variable {parties byAccount}

theorem partyRow_eq_some {party : Party} {row : AgingRow} :
    partyRow byAccount party = some row ↔ ∃ a acc, party.accountId = some a ∧
      byAccount.lookup a = some acc ∧ row = ⟨party.id, party.code, party.name, acc, acc.total⟩ := by
  unfold partyRow
  constructor
  · intro h
    obtain ⟨a, ha, h⟩ := Option.bind_eq_some_iff.1 h
    obtain ⟨acc, hacc, h⟩ := Option.bind_eq_some_iff.1 h
    exact ⟨a, acc, ha, hacc, (Option.some.inj h).symm⟩
  · rintro ⟨a, acc, ha, hacc, rfl⟩
    simp only [ha, hacc, Option.bind_eq_bind, Option.bind_some, Option.pure_def]

theorem sum_total_rows {amount : AgedLine → Cents} {asOfTime : Option ℤ} {lines : List AgedLine}
    {found : Accumulated} (hfound : Found amount asOfTime lines found) :
    ((parties.filterMap (partyRow found.byAccount)).map (·.total)).sum =
      (parties.map fun party => party.accountId.elim 0 (net (toAccounts amount lines))).sum := by
  induction parties with
  | nil => rfl
  | cons party parties ih =>
    have hparty : (partyRow found.byAccount party).elim 0 (·.total) =
        party.accountId.elim 0 (net (toAccounts amount lines)) := by
      unfold partyRow
      cases party.accountId with
      | none => rfl
      | some a =>
        show _ = net (toAccounts amount lines) a
        rw [← sum_cells amount asOfTime, ← List.map_congr_left fun b _ => hfound.cells a b, sum_get]
        simp only [Option.bind_eq_bind, Option.bind_some]
        cases found.byAccount.lookup a <;> rfl
    rw [List.map_cons, List.sum_cons, ← ih, ← hparty]
    cases hrow : partyRow found.byAccount party with
    | none => rw [List.filterMap_cons_none hrow, Option.elim_none, zero_add]
    | some row => rw [List.filterMap_cons_some hrow, List.map_cons, List.sum_cons, Option.elim_some]

end Rows

/-! ## The claim and the condition -/

section Query

variable (rt : Runtime) (db : Db) (scope : ResolvedCompanyBranchScope) (side : Side)
  (asOfDate : String)

def Side.accountIds : List Uuid := (side.parties db scope).filterMap Party.accountId

def Side.lines : List AgedLine := ArApAgingService.lines rt db scope (side.accountIds db scope) asOfDate

def Side.ledgerBalance (accountId : Uuid) : Cents :=
  (((db.ledger.journalEntries.rows.filter fun e =>
    reported scope.companyId scope.branchId scope.allowedBranchIds e &&
      e.entryDate ≤ rt.literal asOfDate).flatMap fun e =>
        e.lines.filter fun line => line.accountId = accountId).map fun line =>
          side.net line.debitAmount line.creditAmount).sum

def Side.trialBalance : Cents :=
  (((TrialBalanceService.query db scope.companyId scope.branchId scope.allowedBranchIds
    (some (rt.literal asOfDate))).rows.filter fun row =>
      (side.accountIds db scope).contains row.accountId).map fun row =>
        side.net row.totalDebit row.totalCredit).sum

def Counted (line : AgedLine) (row : AgingRow) (b : Bucket) : Prop :=
  (∃ party ∈ side.parties db scope, party.id = row.partyId ∧
    party.accountId = some line.accountId) ∧
      bucketFor (ageDays line.entryDate (rt.getTime asOfDate)) = b

open Classical in
/-- The claim, of one side of the report. A line whose two sides are equal counts nothing. -/
structure AddsUp (result : ArApAgingResult) : Prop where
  rows_total : ((side.rows result).map (·.total)).sum = side.total result
  row_buckets : ∀ row ∈ side.rows result, (buckets.map row.buckets.get).sum = row.total
  row_lines : ∀ row ∈ side.rows result, ∀ b, row.buckets.get b =
    (((side.lines rt db scope asOfDate).filter fun line =>
      Counted rt db scope side asOfDate line row b).map side.amount).sum
  once : ∀ line ∈ side.lines rt db scope asOfDate, side.amount line ≠ 0 →
    ∃ row b, row ∈ side.rows result ∧ Counted rt db scope side asOfDate line row b ∧
      ∀ row' b', row' ∈ side.rows result → Counted rt db scope side asOfDate line row' b' →
        row' = row ∧ b' = b
  one_row : ((side.rows result).map (·.partyId)).Nodup
  ledger : side.total result =
    ((side.accountIds db scope).dedup.map (side.ledgerBalance rt db scope asOfDate)).sum

/-- The condition. No account with a line that counts for something is that of two parties. -/
def OwnAccounts : Prop :=
  ∀ line ∈ side.lines rt db scope asOfDate, side.amount line ≠ 0 →
    ∀ p ∈ side.parties db scope, ∀ q ∈ side.parties db scope,
      p.accountId = some line.accountId → q.accountId = some line.accountId → p.id = q.id

def Side.found : Accumulated :=
  (side.lines rt db scope asOfDate).foldl (addLine side.amount (rt.getTime asOfDate)) {}

theorem Side.found_ok : Found side.amount (rt.getTime asOfDate) (side.lines rt db scope asOfDate)
    (side.found rt db scope asOfDate) :=
  found_foldl _ _ _

theorem queryParties_eq :
    (queryParties rt db scope side.amount (side.parties db scope) asOfDate).1.Perm
        ((side.parties db scope).filterMap
          (partyRow (side.found rt db scope asOfDate).byAccount)) ∧
      (queryParties rt db scope side.amount (side.parties db scope) asOfDate).2 =
        (side.found rt db scope asOfDate).totalCents := by
  unfold queryParties
  dsimp only
  by_cases hnone : (side.parties db scope).filterMap Party.accountId = []
  · rw [if_pos hnone]
    have hlines : side.lines rt db scope asOfDate = [] := by
      unfold Side.lines Side.accountIds ArApAgingService.lines
      rw [hnone]
      simp
    refine ⟨?_, ?_⟩
    · rw [List.filterMap_eq_nil_iff.2 fun party hparty => ?_]
      simp only [partyRow, List.filterMap_eq_nil_iff.1 hnone party hparty, Option.bind_eq_bind,
        Option.bind_none]
    · rw [Side.found, hlines]
      rfl
  · rw [if_neg hnone]
    exact ⟨List.perm_insertionSort _ _, rfl⟩

variable {rt db scope side asOfDate}

theorem Side.parties_nodup : ((side.parties db scope).map (·.id)).Nodup := by
  cases side with
  | receivables =>
    simp only [Side.parties, customers, List.map_map]
    exact db.master.customers.nodup.sublist (List.filter_sublist.map key)
  | payables =>
    simp only [Side.parties, suppliers, List.map_map]
    exact db.master.suppliers.nodup.sublist (List.filter_sublist.map key)

theorem Side.party_eq {p q : Party} (hp : p ∈ side.parties db scope)
    (hq : q ∈ side.parties db scope) (hid : p.id = q.id) : p = q :=
  List.inj_on_of_nodup_map Side.parties_nodup hp hq hid

variable {line : AgedLine}

theorem Side.party_of_line (hline : line ∈ side.lines rt db scope asOfDate) :
    ∃ party ∈ side.parties db scope, party.accountId = some line.accountId := by
  unfold Side.lines ArApAgingService.lines at hline
  obtain ⟨e, -, hline⟩ := List.mem_flatMap.1 hline
  obtain ⟨l, hl, rfl⟩ := List.mem_map.1 hline
  have hid := List.contains_iff_mem.1 (List.mem_filter.1 hl).2
  exact List.mem_filterMap.1 hid

theorem counted_iff {party : Party} {row : AgingRow} {a : Uuid} {b : Bucket}
    (hparty : party ∈ side.parties db scope) (hid : party.id = row.partyId)
    (ha : party.accountId = some a) :
    Counted rt db scope side asOfDate line row b ↔ cell (rt.getTime asOfDate) line = (a, b) := by
  unfold Counted cell
  rw [Prod.mk.injEq]
  refine and_congr_left fun _ => ?_
  constructor
  · rintro ⟨party', hparty', hid', haccount⟩
    obtain rfl := Side.party_eq hparty' hparty (hid'.trans hid.symm)
    rw [ha] at haccount
    exact (Option.some.inj haccount).symm
  · rintro rfl
    exact ⟨party, hparty, hid, ha⟩

theorem Side.sum_lines : ((side.lines rt db scope asOfDate).map side.amount).sum =
    ((side.accountIds db scope).dedup.map (side.ledgerBalance rt db scope asOfDate)).sum := by
  have hmem : ∀ p ∈ toAccounts side.amount (side.lines rt db scope asOfDate),
      p.1 ∈ (side.accountIds db scope).dedup := by
    intro p hp
    obtain ⟨line, hline, rfl⟩ := List.mem_map.1 hp
    obtain ⟨party, hparty, haccount⟩ := Side.party_of_line hline
    exact List.mem_dedup.2 (List.mem_filterMap.2 ⟨party, hparty, haccount⟩)
  have hsum := sum_net (List.nodup_dedup (side.accountIds db scope)) hmem
  rw [toAccounts, List.map_map] at hsum
  refine hsum.symm.trans (congrArg List.sum (List.map_congr_left fun a ha => ?_))
  have hcontains : (side.accountIds db scope).contains a = true :=
    List.contains_iff_mem.2 (List.mem_dedup.1 ha)
  unfold Side.ledgerBalance Lib.net Side.lines ArApAgingService.lines
  rw [List.filter_map, List.map_map, List.filter_flatMap, List.map_flatMap, List.map_flatMap]
  refine congrArg List.sum (List.flatMap_congr fun e _ => ?_)
  rw [List.filter_map, List.map_map, List.filter_filter]
  refine congrArg _ (List.filter_congr fun line _ => ?_)
  simp only [Function.comp_apply]
  by_cases hline : line.accountId = a
  · simp only [hline, hcontains, Bool.and_self, decide_true]
  · simp only [hline, decide_false, Bool.false_and]

/-! ## The trial balance of the same date -/

theorem Side.net_sum {α : Type} (xs : List α) (debit credit : α → Cents) :
    side.net (xs.map debit).sum (xs.map credit).sum =
      (xs.map fun x => side.net (debit x) (credit x)).sum := by
  induction xs with
  | nil => cases side <;> rfl
  | cons x xs ih =>
    rw [List.map_cons, List.map_cons, List.map_cons, List.sum_cons, List.sum_cons, List.sum_cons,
      ← ih]
    cases side with
    | receivables => exact add_sub_add_comm _ _ _ _
    | payables => exact add_sub_add_comm _ _ _ _

theorem Side.sum_accountRows {lines : List JoinedLine} (hknow : KnowAccounts db lines)
    (ids : List Uuid) :
    (((groupByAccount db lines).filter fun row => ids.contains row.accountId).map fun row =>
        side.net row.totalDebit row.totalCredit).sum =
      ((lines.filter fun l => ids.contains l.account.id).map fun l =>
        side.net l.line.debitAmount l.line.creditAmount).sum := by
  have hnodup : (((accountsOf db lines).filter fun a => ids.contains a.id).map (·.id)).Nodup :=
    (accountsOf_nodup db lines).sublist (List.filter_sublist.map _)
  have hmem : ∀ p ∈ (lines.filter fun l => ids.contains l.account.id).map (fun l =>
      (l.account.id, side.net l.line.debitAmount l.line.creditAmount)),
      p.1 ∈ ((accountsOf db lines).filter fun a => ids.contains a.id).map (·.id) := by
    intro p hp
    obtain ⟨l, hl, rfl⟩ := List.mem_map.1 hp
    obtain ⟨hl, hid⟩ := List.mem_filter.1 hl
    have hrow := Table.mem_of_find? (hknow l hl)
    refine List.mem_map_of_mem (List.mem_filter.2 ⟨List.mem_filter.2 ⟨?_, ?_⟩, hid⟩)
    · exact (List.mem_insertionSort _).2 hrow
    · exact List.any_eq_true.2 ⟨l, hl, decide_eq_true rfl⟩
  have hsum := sum_net hnodup hmem
  rw [List.map_map, List.map_map] at hsum
  refine Eq.trans ?_ hsum
  show (((List.map (accountRow lines) (accountsOf db lines)).filter _).map _).sum = _
  rw [List.filter_map, List.map_map]
  refine congrArg List.sum (List.map_congr_left fun a ha => ?_)
  have hid : ids.contains a.id = true := (List.mem_filter.1 ha).2
  show side.net (accountRow lines a).totalDebit (accountRow lines a).totalCredit =
    Lib.net ((lines.filter fun l => ids.contains l.account.id).map fun l =>
      (l.account.id, side.net l.line.debitAmount l.line.creditAmount)) a.id
  unfold accountRow Lib.net
  rw [Side.net_sum, List.filter_map, List.map_map, List.filter_filter]
  have hlines : (lines.filter fun l => decide (l.account.id = a.id) &&
      ids.contains l.account.id) = lines.filter fun l => l.account.id = a.id := by
    refine List.filter_congr fun l _ => ?_
    by_cases hl : l.account.id = a.id
    · simp only [hl, hid, Bool.and_self, decide_true]
    · simp only [hl, decide_false, Bool.false_and]
  exact (congrArg (fun xs => (xs.map fun l : JoinedLine =>
    side.net l.line.debitAmount l.line.creditAmount).sum) hlines).symm

theorem Side.sum_trialBalance (haccounts : LinesHaveAccounts db) :
    side.trialBalance rt db scope asOfDate =
      ((side.lines rt db scope asOfDate).map side.amount).sum := by
  unfold Side.trialBalance TrialBalanceService.query
  dsimp only
  rw [Side.sum_accountRows (knowAccounts_flatMap db _)]
  unfold Side.lines ArApAgingService.lines
  rw [List.filter_flatMap, List.map_flatMap, List.map_flatMap]
  refine congrArg List.sum (List.flatMap_congr fun e he => ?_)
  obtain ⟨hrow, hreported⟩ := List.mem_filter.1 he
  simp only [reported, Bool.and_eq_true, decide_eq_true_eq] at hreported
  have hjoin := map_line_joinLines (haccounts e hrow hreported.1.1.2)
  have hid : ∀ l ∈ joinLines db e, l.account.id = l.line.accountId := by
    intro l hl
    obtain ⟨line, -, hline⟩ := List.mem_filterMap.1 hl
    obtain ⟨a, ha, rfl⟩ := Option.map_eq_some_iff.1 hline
    exact Table.key_of_find? (Option.filter_eq_some_iff.1 ha).1
  rw [List.map_map]
  conv_rhs => rw [← hjoin, List.filter_map, List.map_map]
  have hfilter : ((joinLines db e).filter fun l =>
      (side.accountIds db scope).contains l.account.id) =
      (joinLines db e).filter fun l => (side.accountIds db scope).contains l.line.accountId :=
    List.filter_congr fun l hl => by rw [hid l hl]
  rw [hfilter]
  rfl

/-! ## The report -/

theorem query_side (rt : Runtime) (db : Db) (scope : ResolvedCompanyBranchScope)
    (query : ArApAgingQueryDto) (side : Side) :
    let result := ArApAgingService.query rt db scope query
    (side.rows result).Perm ((side.parties db scope).filterMap
        (partyRow (side.found rt db scope result.asOfDate).byAccount)) ∧
      side.total result = (side.found rt db scope result.asOfDate).totalCents := by
  cases side with
  | receivables => exact queryParties_eq rt db scope .receivables _
  | payables => exact queryParties_eq rt db scope .payables _

section Report

variable {result : ArApAgingResult}
  (hrows : (side.rows result).Perm ((side.parties db scope).filterMap
    (partyRow (side.found rt db scope asOfDate).byAccount)))

include hrows in
theorem mem_rows {row : AgingRow} : row ∈ side.rows result ↔
    ∃ party ∈ side.parties db scope, ∃ a acc, party.accountId = some a ∧
      (side.found rt db scope asOfDate).byAccount.lookup a = some acc ∧
        row = ⟨party.id, party.code, party.name, acc, acc.total⟩ := by
  rw [hrows.mem_iff, List.mem_filterMap]
  simp only [partyRow_eq_some]

include hrows in
theorem partyId_nodup : ((side.rows result).map (·.partyId)).Nodup := by
  have hparties : ((side.parties db scope).map (·.id)).Nodup := Side.parties_nodup
  refine (hrows.map _).nodup_iff.2 (hparties.sublist ?_)
  rw [List.map_filterMap]
  -- the party ids of the rows are among the ids of the parties, in their order
  have hids : ∀ parties : List Party, List.Sublist
      (parties.filterMap fun party =>
        (partyRow (side.found rt db scope asOfDate).byAccount party).map (·.partyId))
      (parties.map (·.id)) := by
    intro parties
    induction parties with
    | nil => exact .slnil
    | cons party parties ih =>
      rw [List.map_cons]
      cases hrow : partyRow (side.found rt db scope asOfDate).byAccount party with
      | none =>
        rw [List.filterMap_cons_none (by rw [hrow]; rfl)]
        exact ih.cons _
      | some row =>
        obtain ⟨a, acc, -, -, rfl⟩ := partyRow_eq_some.1 hrow
        rw [List.filterMap_cons_some (by rw [hrow]; rfl)]
        exact ih.cons_cons _
  exact hids _

include hrows in
theorem exists_row {party : Party} (hparty : party ∈ side.parties db scope)
    (haccount : party.accountId = some line.accountId)
    (hline : line ∈ side.lines rt db scope asOfDate) (hcounts : side.amount line ≠ 0) :
    ∃ row ∈ side.rows result, row.partyId = party.id ∧
      Counted rt db scope side asOfDate line row
        (bucketFor (ageDays line.entryDate (rt.getTime asOfDate))) := by
  have hthere : line.accountId ∈ (side.found rt db scope asOfDate).byAccount :=
    ((side.found_ok rt db scope asOfDate).accounts _).2 ⟨line, hline, rfl, hcounts⟩
  obtain ⟨acc, hacc⟩ := Option.isSome_iff_exists.1 (AList.lookup_isSome.2 hthere)
  refine ⟨_, (mem_rows hrows).2 ⟨party, hparty, line.accountId, acc, haccount, hacc, rfl⟩, rfl, ?_⟩
  exact ⟨⟨party, hparty, rfl, haccount⟩, rfl⟩

include hrows in
theorem ownAccounts_of_addsUp (h : AddsUp rt db scope side asOfDate result) :
    OwnAccounts rt db scope side asOfDate := by
  intro line hline hcounts p hp q hq hpa hqa
  obtain ⟨row, b, -, -, honly⟩ := h.once line hline hcounts
  obtain ⟨rowp, hrowp, hidp, hcp⟩ := exists_row hrows hp hpa hline hcounts
  obtain ⟨rowq, hrowq, hidq, hcq⟩ := exists_row hrows hq hqa hline hcounts
  have hsame : rowp = rowq := (honly _ _ hrowp hcp).1.trans (honly _ _ hrowq hcq).1.symm
  rw [← hidp, hsame, hidq]

include hrows in
theorem addsUp_of_ownAccounts
    (htotal : side.total result = (side.found rt db scope asOfDate).totalCents)
    (hown : OwnAccounts rt db scope side asOfDate) : AddsUp rt db scope side asOfDate result := by
  have hfound := side.found_ok rt db scope asOfDate
  refine ⟨?_, ?_, ?_, ?_, partyId_nodup hrows, ?_⟩
  · rw [(hrows.map _).sum_eq, sum_total_rows hfound, htotal, hfound.total]
    have howner : ∀ p ∈ toAccounts side.amount (side.lines rt db scope asOfDate), p.2 ≠ 0 →
        ∃ x ∈ side.parties db scope, ∀ y ∈ side.parties db scope,
          y.accountId = some p.1 ↔ x = y := by
      intro p hp hcounts
      obtain ⟨line, hline, rfl⟩ := List.mem_map.1 hp
      obtain ⟨x, hx, hxa⟩ := Side.party_of_line hline
      refine ⟨x, hx, fun y hy => ⟨fun hya => ?_, fun hxy => hxy ▸ hxa⟩⟩
      exact Side.party_eq hx hy (hown line hline hcounts x hx y hy hxa hya)
    rw [sum_net_items Party.accountId (List.Nodup.of_map _ Side.parties_nodup) howner, toAccounts,
      List.map_map]
    rfl
  · intro row hrow
    obtain ⟨party, -, a, acc, -, -, rfl⟩ := (mem_rows hrows).1 hrow
    exact sum_get acc
  · intro row hrow b
    obtain ⟨party, hparty, a, acc, ha, hacc, rfl⟩ := (mem_rows hrows).1 hrow
    have hcell := hfound.cells a b
    rw [hacc, Option.getD_some] at hcell
    show acc.get b = _
    rw [hcell, toCells, Lib.net, List.filter_map, List.map_map]
    refine congrArg (fun xs => (xs.map side.amount).sum) (List.filter_congr fun line _ => ?_)
    exact decide_eq_decide.2 (counted_iff hparty rfl ha).symm
  · intro line hline hcounts
    obtain ⟨party, hparty, haccount⟩ := Side.party_of_line hline
    obtain ⟨row, hrow, hid, hcounted⟩ := exists_row hrows hparty haccount hline hcounts
    refine ⟨row, _, hrow, hcounted, fun row' b' hrow' hcounted' => ⟨?_, hcounted'.2.symm⟩⟩
    obtain ⟨party', hparty', hid', haccount'⟩ := hcounted'.1
    have hsame := hown line hline hcounts party' hparty' party hparty haccount' haccount
    exact List.inj_on_of_nodup_map (partyId_nodup hrows) hrow' hrow
      (hid'.symm.trans (hsame.trans hid.symm))
  · rw [htotal, hfound.total]
    exact Side.sum_lines

end Report

/-- The aging report adds up exactly when no account with a line that counts for something is
that of two customers, or of two suppliers. The totals are those of the trial balance in any
case. -/
theorem aging_iff (rt : Runtime) (db : Db) (scope : ResolvedCompanyBranchScope)
    (query : ArApAgingQueryDto) (side : Side) :
    let result := ArApAgingService.query rt db scope query
    (AddsUp rt db scope side result.asOfDate result ↔
      OwnAccounts rt db scope side result.asOfDate) ∧
    side.total result =
      ((side.accountIds db scope).dedup.map
        (side.ledgerBalance rt db scope result.asOfDate)).sum ∧
    (LinesHaveAccounts db →
      side.total result = side.trialBalance rt db scope result.asOfDate) := by
  intro result
  obtain ⟨hrows, htotal⟩ := query_side rt db scope query side
  refine ⟨⟨ownAccounts_of_addsUp hrows, addsUp_of_ownAccounts hrows htotal⟩, ?_, fun haccounts => ?_⟩
  · rw [htotal, (side.found_ok rt db scope result.asOfDate).total]
    exact Side.sum_lines
  · rw [htotal, (side.found_ok rt db scope result.asOfDate).total,
      Side.sum_trialBalance haccounts]

end Query

end ArApAgingService

namespace AgingDemo

open ReportsDemo

def account : Account :=
  { id := 500, companyId := 10, code := "1200", name := "Receivables", accountType := .Asset
    isActive := true }

def books (customers : List Customer) : Db :=
  let db := shop [1] customers
  { db with master := { db.master with accounts := .ofRows [account] } }

def company : ResolvedCompanyBranchScope :=
  { companyId := 10, branchId := none, allowedBranchIds := none }

end AgingDemo

open ReportsDemo AgingDemo ArApAgingService in
theorem aging_iff_one_customer :
    let db := books [customer 300 1 "A"]
    let result := ArApAgingService.query runtime db company {}
    AddsUp runtime db company .receivables result.asOfDate result ∧
      result.totalReceivables = 1000 ∧
      Side.receivables.trialBalance runtime db company result.asOfDate = 1000 := by
  intro db result
  have haging := aging_iff runtime db company {} .receivables
  have htotal : result.totalReceivables = 1000 := by decide +kernel
  refine ⟨haging.1.2 ?_, htotal, (haging.2.2 ?_).symm.trans htotal⟩
  · intro line _ _ p hp q hq _ _
    have hone : Side.receivables.parties db company = [⟨300, "A", "", some 500⟩] := rfl
    rw [hone, List.mem_singleton] at hp hq
    rw [hp, hq]
  · intro e he _ line hline
    have hrows : db.ledger.journalEntries.rows = [entry] := rfl
    rw [hrows, List.mem_singleton] at he
    subst he
    obtain rfl := List.mem_singleton.1 hline
    exact ⟨account, rfl, rfl⟩

open ReportsDemo AgingDemo ArApAgingService in
theorem aging_counts_shared_account_twice :
    let db := books [customer 300 1 "A", customer 301 1 "B"]
    let result := ArApAgingService.query runtime db company {}
    (result.receivables.map (·.total)).sum = 2000 ∧ result.totalReceivables = 1000 ∧
      ¬ AddsUp runtime db company .receivables result.asOfDate result := by
  intro db result
  have hrows : (result.receivables.map (·.total)).sum = 2000 := by decide +kernel
  have htotal : result.totalReceivables = 1000 := by decide +kernel
  refine ⟨hrows, htotal, fun h => ?_⟩
  have hadds := h.rows_total
  change (result.receivables.map (·.total)).sum = result.totalReceivables at hadds
  rw [hrows, htotal] at hadds
  revert hadds
  decide

end FashionErp
