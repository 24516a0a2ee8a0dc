/-
When the balance sheet balances: the `balanced` flag of
`reports/services/balance-sheet.service.ts`.

The report adds up the accounts of three of the five types and compares assets with
liabilities and equity.
-/
import FashionErp.Reports.LedgerReports

namespace FashionErp

open Lib

namespace BalanceSheetService

/-! ## Lines on the sheet and off it -/

def onSheet (db : Db) (line : JournalEntryLine) : Bool :=
  (db.master.accounts.find? line.accountId).any fun a => !a.deleted && types.contains a.accountType

def reportedLines (db : Db) (companyId : Uuid) (branchId : Option Uuid)
    (allowedBranchIds : Option (List Uuid)) (date : Instant) : List JournalEntryLine :=
  (db.ledger.journalEntries.rows.filter fun e =>
    reported companyId branchId allowedBranchIds e && e.entryDate ≤ date).flatMap (·.lines)

def openResult (db : Db) (companyId : Uuid) (branchId : Option Uuid)
    (allowedBranchIds : Option (List Uuid)) (date : Instant) : Cents :=
  (((reportedLines db companyId branchId allowedBranchIds date).filter fun line =>
    !onSheet db line).map fun line => line.creditAmount - line.debitAmount).sum

theorem map_line_filter_joinLines (db : Db) (e : JournalEntry) :
    ((joinLines db e).filter fun l => types.contains l.account.accountType).map (·.line) =
      e.lines.filter (onSheet db) := by
  unfold joinLines
  generalize e.lines = lines
  induction lines with
  | nil => rfl
  | cons line lines ih =>
    rw [List.filterMap_cons, List.filter_cons]
    cases hfind : db.master.accounts.find? line.accountId with
    | none =>
      have hoff : onSheet db line = false := by
        unfold onSheet
        rw [hfind, Option.any_none]
      rw [hoff]
      exact ih
    | some a =>
      have hon : onSheet db line = (!a.deleted && types.contains a.accountType) := by
        unfold onSheet
        rw [hfind, Option.any_some]
      rw [hon]
      cases hdeleted : a.deleted with
      | true =>
        rw [Option.filter_some, hdeleted]
        exact ih
      | false =>
        rw [Option.filter_some, hdeleted]
        simp only [Bool.not_false, if_true, Option.map_some, List.filter_cons, Bool.true_and]
        cases types.contains a.accountType with
        | true => exact congrArg (line :: ·) ih
        | false => exact ih

theorem map_line_sheetLines (db : Db) (entries : List JournalEntry) :
    ((entries.flatMap (joinLines db)).filter fun l => types.contains l.account.accountType).map
      (·.line) = (entries.flatMap (·.lines)).filter (onSheet db) := by
  induction entries with
  | nil => rfl
  | cons e es ih =>
    rw [List.flatMap_cons, List.flatMap_cons, List.filter_append, List.filter_append,
      List.map_append, map_line_filter_joinLines, ih]

/-! ## What the report adds up -/

theorem ofType_eq_nil {rows : List RawRow} (h : ∀ r ∈ rows, r.accountType ∈ types)
    {type : AccountType} (htype : type ∉ types) : ofType rows type = [] := by
  unfold ofType
  rw [List.filter_eq_nil_iff]
  intro r hr hof
  exact htype (of_decide_eq_true hof ▸ h r hr)

theorem sum_sides (lines : List JoinedLine) :
    (lines.map fun l => l.line.debitAmount).sum - (lines.map fun l => l.line.creditAmount).sum =
      ((lines.map (·.line)).map fun line => line.debitAmount - line.creditAmount).sum := by
  induction lines with
  | nil => rfl
  | cons l lines ih =>
    simp only [List.map_cons, List.sum_cons]
    lia

theorem difference_eq_net (db : Db) (companyId : Uuid) (branchId : Option Uuid)
    (allowedBranchIds : Option (List Uuid)) (asOfDate : Option Instant) (today : Instant) :
    let sheet := query db companyId branchId allowedBranchIds asOfDate today
    sheet.assets.total - sheet.liabilities.total - sheet.equity.total =
      (((reportedLines db companyId branchId allowedBranchIds (asOfDate.getD today)).filter
        (onSheet db)).map fun line => line.debitAmount - line.creditAmount).sum := by
  intro sheet
  let all := linesUpTo db companyId branchId allowedBranchIds (asOfDate.getD today)
  let lines := all.filter fun l => types.contains l.account.accountType
  have hall : KnowAccounts db all := knowAccounts_flatMap db _
  have hknow : KnowAccounts db lines := fun l hl => hall l (List.mem_of_mem_filter hl)
  have htypes : ∀ r ∈ groupByAccount db lines, r.accountType ∈ types := restricted_rows hall types
  have hsheet : (groupByAccount db lines).foldl addRow {} =
      ⟨sheet.assets, sheet.liabilities, sheet.equity⟩ := rfl
  rw [foldl_addRow _ htypes, Sections.mk.injEq] at hsheet
  obtain ⟨hassets, hliabilities, hequity⟩ := hsheet
  -- The rows of the two other types are none, and the rows add up to the lines.
  have hsum := sum_by_type (groupByAccount db lines)
  rw [hassets, hliabilities, hequity, ofType_eq_nil htypes (by decide : AccountType.Revenue ∉ types),
    ofType_eq_nil htypes (by decide : AccountType.Expense ∉ types)] at hsum
  have hdebit : ((groupByAccount db lines).map (·.totalDebit)).sum =
      (lines.map fun l => l.line.debitAmount).sum := by
    rw [← sum_rows hknow JournalEntryLine.debitAmount, groupByAccount, List.map_map]
    rfl
  have hcredit : ((groupByAccount db lines).map (·.totalCredit)).sum =
      (lines.map fun l => l.line.creditAmount).sum := by
    rw [← sum_rows hknow JournalEntryLine.creditAmount, groupByAccount, List.map_map]
    rfl
  have hlines : lines.map (·.line) = (reportedLines db companyId branchId allowedBranchIds
      (asOfDate.getD today)).filter (onSheet db) := map_line_sheetLines db _
  have hnone : (sectionOf (fun r => r.totalCredit - r.totalDebit) []).total -
      (sectionOf (fun r => r.totalDebit - r.totalCredit) []).total = 0 := rfl
  rw [hnone, sub_zero, hdebit, hcredit] at hsum
  rw [hsum, ← hlines]
  exact sum_sides lines

/-! ## Balance -/

theorem net_eq_openResult {db : Db} {companyId : Uuid} {branchId : Option Uuid}
    {allowedBranchIds : Option (List Uuid)} {date : Instant}
    (hbalanced : ∀ e ∈ db.ledger.journalEntries.rows, e.status = .Posted →
      debitTotal e.lines = creditTotal e.lines) :
    (((reportedLines db companyId branchId allowedBranchIds date).filter (onSheet db)).map
        fun line => line.debitAmount - line.creditAmount).sum =
      openResult db companyId branchId allowedBranchIds date := by
  unfold openResult reportedLines
  have hposted : ∀ e ∈ db.ledger.journalEntries.rows.filter (fun e =>
      reported companyId branchId allowedBranchIds e && e.entryDate ≤ date),
      debitTotal e.lines = creditTotal e.lines := by
    intro e he
    obtain ⟨he, hcond⟩ := List.mem_filter.1 he
    simp only [reported, Bool.and_eq_true, decide_eq_true_eq] at hcond
    exact hbalanced e he hcond.1.1.2
  generalize db.ledger.journalEntries.rows.filter (fun e =>
    reported companyId branchId allowedBranchIds e && e.entryDate ≤ date) = entries at hposted
  induction entries with
  | nil => rfl
  | cons e es ih =>
    have hrest := ih fun e he => hposted e (List.mem_cons_of_mem _ he)
    have hentry := hposted e List.mem_cons_self
    have hsplit : ∀ lines : List JournalEntryLine, debitTotal lines - creditTotal lines =
        ((lines.filter (onSheet db)).map fun line => line.debitAmount - line.creditAmount).sum -
        ((lines.filter fun line => !onSheet db line).map fun line =>
          line.creditAmount - line.debitAmount).sum := by
      intro lines
      induction lines with
      | nil => rfl
      | cons line lines ih =>
        simp only [debitTotal, creditTotal, List.map_cons, List.sum_cons] at ih ⊢
        cases hon : onSheet db line
        · simp only [List.filter_cons, hon, Bool.not_false, Bool.false_eq_true, if_false, if_true,
            List.map_cons, List.sum_cons]
          lia
        · simp only [List.filter_cons, hon, Bool.not_true, Bool.false_eq_true, if_false, if_true,
            List.map_cons, List.sum_cons]
          lia
    have he := hsplit e.lines
    simp only [List.flatMap_cons, List.filter_append, List.map_append, List.sum_append]
    lia

/-- The sheet balances exactly when the result is closed: over posted entries that
balance, when the revenue and expense lines up to the date cancel. -/
theorem balanced_iff_result_closed {db : Db}
    (hbalanced : ∀ e ∈ db.ledger.journalEntries.rows, e.status = .Posted →
      debitTotal e.lines = creditTotal e.lines)
    (companyId : Uuid) (branchId : Option Uuid) (allowedBranchIds : Option (List Uuid))
    (asOfDate : Option Instant) (today : Instant) :
    (query db companyId branchId allowedBranchIds asOfDate today).balanced = true ↔
      openResult db companyId branchId allowedBranchIds (asOfDate.getD today) = 0 := by
  have hnet := difference_eq_net db companyId branchId allowedBranchIds asOfDate today
  rw [net_eq_openResult hbalanced] at hnet
  have hflag : (query db companyId branchId allowedBranchIds asOfDate today).balanced =
      decide ((query db companyId branchId allowedBranchIds asOfDate today).assets.total =
        (query db companyId branchId allowedBranchIds asOfDate today).liabilities.total +
          (query db companyId branchId allowedBranchIds asOfDate today).equity.total) := rfl
  rw [hflag, decide_eq_true_iff]
  constructor
  · intro hsheet
    lia
  · intro hclosed
    lia

/-! A sale of 50.00 for cash, and the rent. -/

namespace BalanceSheetDemo

open LedgerReportsDemo (account line entry date)

def db (rent : Cents) : Db where
  master :=
    { accounts := .ofRows [account 1 "1000" .Asset, account 2 "4000" .Revenue,
        account 3 "5000" .Expense] }
  ledger :=
    { journalEntries := .ofRows [entry 7 [line 1 5000 0, line 2 0 5000],
        entry 8 [line 3 rent 0, line 1 0 rent]] }

end BalanceSheetDemo

open BalanceSheetDemo in
theorem balanced_iff_result_closed_rent :
    (query (db 5000) 10 none none none LedgerReportsDemo.date).balanced = true :=
  (balanced_iff_result_closed (by decide +kernel) 10 none none none
    LedgerReportsDemo.date).2 (by decide +kernel)

open BalanceSheetDemo in
theorem earnings_unbalance_sheet :
    (∀ e ∈ (db 2000).ledger.journalEntries.rows, debitTotal e.lines = creditTotal e.lines) ∧
      (query (db 2000) 10 none none none LedgerReportsDemo.date).balanced = false := by
  constructor
  · decide +kernel
  · decide +kernel

end BalanceSheetService

end FashionErp
