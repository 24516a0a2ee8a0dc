/-
The three reports on the general ledger: `accounting/services/trial-balance.service.ts`,
`reports/services/balance-sheet.service.ts` and `reports/services/profit-loss.service.ts`.

Each joins the lines of posted entries with their accounts, filters them and adds them up
per account.
-/
import FashionErp.Accounting.DoubleEntry
import FashionErp.Lib.Ledger
import Mathlib.Data.List.Induction
import Mathlib.Data.List.Sort

namespace FashionErp

open Lib

/-! ## The common query -/

structure JoinedLine where
  journalEntry : JournalEntry
  line : JournalEntryLine
  account : Account

/-- `innerJoin('line.journalEntry').innerJoin('line.account')`. A join leaves out
soft-deleted rows; no service deletes an entry. -/
def joinLines (db : Db) (e : JournalEntry) : List JoinedLine :=
  e.lines.filterMap fun line =>
    ((db.master.accounts.find? line.accountId).filter fun a => !a.deleted).map fun account =>
      ⟨e, line, account⟩

def inBranches (branchId : Option Uuid) (allowedBranchIds : Option (List Uuid))
    (e : JournalEntry) : Bool :=
  match branchId, allowedBranchIds with
  | some branchId, _ => e.branchId = some branchId
  | none, some (b :: bs) => e.branchId.any fun id => (b :: bs).contains id
  | none, _ => true

def reported (companyId : Uuid) (branchId : Option Uuid) (allowedBranchIds : Option (List Uuid))
    (e : JournalEntry) : Bool :=
  e.companyId = companyId && e.status = .Posted && inBranches branchId allowedBranchIds e

structure RawRow where
  accountId : Uuid
  accountCode : String
  accountName : String
  accountType : AccountType
  totalDebit : Cents
  totalCredit : Cents

/-- `COALESCE(SUM(..), 0)` of the lines of one account. -/
def accountRow (lines : List JoinedLine) (a : Account) : RawRow where
  accountId := a.id
  accountCode := a.code
  accountName := a.name
  accountType := a.accountType
  totalDebit := ((lines.filter fun l => l.account.id = a.id).map (·.line.debitAmount)).sum
  totalCredit := ((lines.filter fun l => l.account.id = a.id).map (·.line.creditAmount)).sum

/-- `groupBy('account.id')` and `orderBy('account.code', 'ASC')`: one row for each
account with a line. -/
def groupByAccount (db : Db) (lines : List JoinedLine) : List RawRow :=
  ((db.master.accounts.rows.insertionSort fun a b => a.code ≤ b.code).filter fun a =>
    lines.any fun l => l.account.id = a.id).map (accountRow lines)

/-! ## `TrialBalanceService` -/

structure TrialBalanceResult where
  rows : List RawRow
  totalDebit : Cents
  totalCredit : Cents

def TrialBalanceService.query (db : Db) (companyId : Uuid) (branchId : Option Uuid)
    (allowedBranchIds : Option (List Uuid)) (asOfDate : Option Instant) : TrialBalanceResult :=
  let lines := (db.ledger.journalEntries.rows.filter fun e =>
    reported companyId branchId allowedBranchIds e &&
      asOfDate.all (fun d => e.entryDate ≤ d)).flatMap (joinLines db)
  let rawRows := groupByAccount db lines
  { rows := rawRows
    totalDebit := (rawRows.map (·.totalDebit)).sum
    totalCredit := (rawRows.map (·.totalCredit)).sum }

/-! ## `BalanceSheetService` -/

structure AccountAmountRow where
  accountId : Uuid
  accountCode : String
  accountName : String
  amount : Cents

structure ReportSection where
  rows : List AccountAmountRow := []
  total : Cents := 0

def ReportSection.push (s : ReportSection) (row : RawRow) (amount : Cents) : ReportSection where
  rows := s.rows ++ [⟨row.accountId, row.accountCode, row.accountName, amount⟩]
  total := s.total + amount

namespace BalanceSheetService

structure BalanceSheetResult where
  asOfDate : Instant
  assets : ReportSection
  liabilities : ReportSection
  equity : ReportSection
  totalLiabilitiesAndEquity : Cents
  balanced : Bool

/-- `account.accountType IN (ASSET, LIABILITY, EQUITY)`. -/
def types : List AccountType := [.Asset, .Liability, .Equity]

structure Sections where
  assets : ReportSection := {}
  liabilities : ReportSection := {}
  equity : ReportSection := {}

/-- `balanceCents`. -/
def balance (row : RawRow) : Cents :=
  if row.accountType = .Asset then row.totalDebit - row.totalCredit
  else row.totalCredit - row.totalDebit

/-- One iteration of the loop of `query`. -/
def addRow (s : Sections) (row : RawRow) : Sections :=
  if row.accountType = .Asset then
    { s with assets := s.assets.push row (balance row) }
  else if row.accountType = .Liability then
    { s with liabilities := s.liabilities.push row (balance row) }
  else
    { s with equity := s.equity.push row (balance row) }

/-- `query`; `today` is what a missing date stands for. -/
def query (db : Db) (companyId : Uuid) (branchId : Option Uuid)
    (allowedBranchIds : Option (List Uuid)) (asOfDate : Option Instant) (today : Instant) :
    BalanceSheetResult :=
  let asOfDate := asOfDate.getD today
  let lines := ((db.ledger.journalEntries.rows.filter fun e =>
    reported companyId branchId allowedBranchIds e && e.entryDate ≤ asOfDate).flatMap
      (joinLines db)).filter fun l => types.contains l.account.accountType
  let sections := (groupByAccount db lines).foldl addRow {}
  { asOfDate := asOfDate
    assets := sections.assets
    liabilities := sections.liabilities
    equity := sections.equity
    totalLiabilitiesAndEquity := sections.liabilities.total + sections.equity.total
    balanced := sections.assets.total = sections.liabilities.total + sections.equity.total }

end BalanceSheetService

/-! ## `ProfitLossService` -/

namespace ProfitLossService

structure ProfitLossResult where
  fromDate : Option Instant
  toDate : Option Instant
  revenue : ReportSection
  expense : ReportSection
  netIncome : Cents

/-- `account.accountType IN (REVENUE, EXPENSE)`. -/
def types : List AccountType := [.Revenue, .Expense]

structure Sections where
  revenue : ReportSection := {}
  expense : ReportSection := {}

/-- `amountCents`. -/
def amount (row : RawRow) : Cents :=
  if row.accountType = .Revenue then row.totalCredit - row.totalDebit
  else row.totalDebit - row.totalCredit

/-- One iteration of the loop of `query`. -/
def addRow (s : Sections) (row : RawRow) : Sections :=
  if row.accountType = .Revenue then
    { s with revenue := s.revenue.push row (amount row) }
  else
    { s with expense := s.expense.push row (amount row) }

def query (db : Db) (companyId : Uuid) (branchId : Option Uuid)
    (allowedBranchIds : Option (List Uuid)) (fromDate toDate : Option Instant) :
    ProfitLossResult :=
  let lines := ((db.ledger.journalEntries.rows.filter fun e =>
    reported companyId branchId allowedBranchIds e &&
      fromDate.all (fun d => d ≤ e.entryDate) &&
      toDate.all (fun d => e.entryDate ≤ d)).flatMap (joinLines db)).filter fun l =>
        types.contains l.account.accountType
  let sections := (groupByAccount db lines).foldl addRow {}
  { fromDate := fromDate
    toDate := toDate
    revenue := sections.revenue
    expense := sections.expense
    netIncome := sections.revenue.total - sections.expense.total }

end ProfitLossService

/-! ## Lines along entries -/

def LinesHaveAccounts (db : Db) : Prop :=
  ∀ e ∈ db.ledger.journalEntries.rows, e.status = .Posted → ∀ line ∈ e.lines,
    ∃ a, db.master.accounts.find? line.accountId = some a ∧ a.deleted = false

theorem map_line_joinLines {db : Db} {e : JournalEntry}
    (h : ∀ line ∈ e.lines, ∃ a, db.master.accounts.find? line.accountId = some a ∧
      a.deleted = false) : (joinLines db e).map (·.line) = e.lines := by
  rw [joinLines]
  generalize e.lines = lines at h ⊢
  induction lines with
  | nil => rfl
  | cons line lines ih =>
    obtain ⟨a, ha, hdeleted⟩ := h line List.mem_cons_self
    have hjoin : ((db.master.accounts.find? line.accountId).filter fun a => !a.deleted) =
        some a := by
      rw [ha, Option.filter_some, hdeleted]
      rfl
    rw [List.filterMap_cons, hjoin, Option.map_some, List.map_cons,
      ih fun l hl => h l (List.mem_cons_of_mem line hl)]

theorem account_of_mem_joinLines {db : Db} {e : JournalEntry} {l : JoinedLine}
    (hl : l ∈ joinLines db e) : db.master.accounts.find? l.account.id = some l.account := by
  obtain ⟨line, -, hline⟩ := List.mem_filterMap.1 hl
  obtain ⟨a, ha, rfl⟩ := Option.map_eq_some_iff.1 hline
  have hfind := (Option.filter_eq_some_iff.1 ha).1
  have hid : a.id = line.accountId := Table.key_of_find? hfind
  show db.master.accounts.find? a.id = some a
  rw [hid]
  exact hfind

theorem sum_debit_eq_sum_credit {db : Db} {entries : List JournalEntry}
    (haccounts : ∀ e ∈ entries, ∀ line ∈ e.lines,
      ∃ a, db.master.accounts.find? line.accountId = some a ∧ a.deleted = false)
    (hbalanced : ∀ e ∈ entries, debitTotal e.lines = creditTotal e.lines) :
    ((entries.flatMap (joinLines db)).map (·.line.debitAmount)).sum =
      ((entries.flatMap (joinLines db)).map (·.line.creditAmount)).sum := by
  induction entries with
  | nil => rfl
  | cons e es ih =>
    have hjoin := map_line_joinLines (haccounts e List.mem_cons_self)
    have hdebit : ((joinLines db e).map (·.line.debitAmount)).sum = debitTotal e.lines := by
      rw [debitTotal, ← hjoin, List.map_map]
      rfl
    have hcredit : ((joinLines db e).map (·.line.creditAmount)).sum = creditTotal e.lines := by
      rw [creditTotal, ← hjoin, List.map_map]
      rfl
    rw [List.flatMap_cons, List.map_append, List.map_append, List.sum_append, List.sum_append,
      hdebit, hcredit, hbalanced e List.mem_cons_self,
      ih (fun e' he' => haccounts e' (List.mem_cons_of_mem e he'))
        fun e' he' => hbalanced e' (List.mem_cons_of_mem e he')]

/-! ## Rows along accounts -/

def KnowAccounts (db : Db) (lines : List JoinedLine) : Prop :=
  ∀ l ∈ lines, db.master.accounts.find? l.account.id = some l.account

theorem knowAccounts_flatMap (db : Db) (entries : List JournalEntry) :
    KnowAccounts db (entries.flatMap (joinLines db)) := by
  intro l hl
  obtain ⟨e, -, hl⟩ := List.mem_flatMap.1 hl
  exact account_of_mem_joinLines hl

variable {lines : List JoinedLine}

theorem KnowAccounts.eq {db : Db} (h : KnowAccounts db lines) {l : JoinedLine} (hl : l ∈ lines)
    {a : Account} (ha : a ∈ db.master.accounts.rows) (hid : l.account.id = a.id) :
    l.account = a := by
  have hfind := h l hl
  rw [hid] at hfind
  exact Option.some.inj (hfind.symm.trans ((Table.mem_rows_iff _ _).1 ha))

def accountsOf (db : Db) (lines : List JoinedLine) : List Account :=
  (db.master.accounts.rows.insertionSort fun a b => a.code ≤ b.code).filter fun a =>
    lines.any fun l => l.account.id = a.id

theorem accountsOf_nodup (db : Db) (lines : List JoinedLine) :
    ((accountsOf db lines).map (·.id)).Nodup := by
  have hsorted := ((List.perm_insertionSort (fun a b : Account => a.code ≤ b.code)
    db.master.accounts.rows).map key).nodup_iff.2 db.master.accounts.nodup
  exact (List.filter_sublist.map _).nodup hsorted

theorem groupByAccount_filter {db : Db} (h : KnowAccounts db lines) (types : List AccountType) :
    groupByAccount db (lines.filter fun l => types.contains l.account.accountType) =
      (groupByAccount db lines).filter fun r => types.contains r.accountType := by
  unfold groupByAccount
  rw [List.filter_map, List.filter_filter]
  have hany : ∀ a ∈ db.master.accounts.rows,
      ((lines.filter fun l => types.contains l.account.accountType).any
        fun l => l.account.id = a.id) =
      (((fun r : RawRow => types.contains r.accountType) ∘ accountRow lines) a &&
        lines.any fun l => l.account.id = a.id) := by
    intro a ha
    rw [Bool.eq_iff_iff]
    simp only [List.any_filter, Bool.and_eq_true, List.any_eq_true, decide_eq_true_eq,
      Function.comp_apply, accountRow]
    constructor
    · rintro ⟨l, hl, htype, hid⟩
      rw [h.eq hl ha hid] at htype
      exact ⟨htype, l, hl, hid⟩
    · rintro ⟨htype, l, hl, hid⟩
      exact ⟨l, hl, by rw [h.eq hl ha hid]; exact htype, hid⟩
  rw [List.filter_congr fun a ha => hany a ((List.mem_insertionSort _).1 ha)]
  refine List.map_congr_left fun a ha => ?_
  obtain ⟨hrow, hkeep⟩ := List.mem_filter.1 ha
  rw [Bool.and_eq_true] at hkeep
  -- Of the lines of this account, the filter keeps all.
  have hlines : (lines.filter fun l => types.contains l.account.accountType).filter
      (fun l => l.account.id = a.id) = lines.filter fun l => l.account.id = a.id := by
    rw [List.filter_filter]
    refine List.filter_congr fun l hl => ?_
    by_cases hid : l.account.id = a.id
    · have htype : types.contains a.accountType = true := hkeep.1
      rw [h.eq hl ((List.mem_insertionSort _).1 hrow) hid, htype, Bool.and_true]
    · simp [hid]
  rw [accountRow, hlines, accountRow]

theorem sum_rows {db : Db} (h : KnowAccounts db lines) (side : JournalEntryLine → Cents) :
    ((accountsOf db lines).map fun a =>
      ((lines.filter fun l => l.account.id = a.id).map fun l => side l.line).sum).sum =
      (lines.map fun l => side l.line).sum := by
  have hmem : ∀ p ∈ lines.map fun l => (l.account.id, side l.line),
      p.1 ∈ (accountsOf db lines).map (·.id) := by
    intro p hp
    obtain ⟨l, hl, rfl⟩ := List.mem_map.1 hp
    have hrow := Table.mem_of_find? (h l hl)
    refine List.mem_map_of_mem (List.mem_filter.2 ⟨(List.mem_insertionSort _).2 hrow, ?_⟩)
    exact List.any_eq_true.2 ⟨l, hl, decide_eq_true rfl⟩
  have hsum := sum_net (accountsOf_nodup db lines) hmem
  rw [List.map_map, List.map_map] at hsum
  refine Eq.trans (congrArg List.sum (List.map_congr_left fun a _ => ?_)) hsum
  rw [Function.comp_apply, net, List.filter_map, List.map_map]
  rfl

/-! ## The parts of a report -/

def sectionOf (amount : RawRow → Cents) (rows : List RawRow) : ReportSection where
  rows := rows.map fun r => ⟨r.accountId, r.accountCode, r.accountName, amount r⟩
  total := (rows.map amount).sum

theorem sectionOf_concat (amount : RawRow → Cents) (rows : List RawRow) (row : RawRow) :
    sectionOf amount (rows ++ [row]) = (sectionOf amount rows).push row (amount row) := by
  simp only [sectionOf, ReportSection.push, List.map_append, List.map_singleton, List.sum_append,
    List.sum_singleton]

def ofType (rows : List RawRow) (type : AccountType) : List RawRow :=
  rows.filter fun r => r.accountType = type

theorem ofType_concat (rows : List RawRow) (row : RawRow) (type : AccountType) :
    ofType (rows ++ [row]) type =
      if row.accountType = type then ofType rows type ++ [row] else ofType rows type := by
  rw [ofType, List.filter_append]
  split
  · rename_i h
    rw [List.filter_cons_of_pos (by simpa using h), List.filter_nil]
    rfl
  · rename_i h
    rw [List.filter_cons_of_neg (by simpa using h), List.filter_nil, List.append_nil]
    rfl

theorem BalanceSheetService.foldl_addRow (rows : List RawRow)
    (htypes : ∀ r ∈ rows, r.accountType ∈ BalanceSheetService.types) :
    rows.foldl BalanceSheetService.addRow {} =
      { assets := sectionOf (fun r => r.totalDebit - r.totalCredit) (ofType rows .Asset)
        liabilities := sectionOf (fun r => r.totalCredit - r.totalDebit) (ofType rows .Liability)
        equity := sectionOf (fun r => r.totalCredit - r.totalDebit) (ofType rows .Equity) } := by
  induction rows using List.reverseRecOn with
  | nil => rfl
  | append_singleton rows row ih =>
    rw [List.foldl_concat, ih fun r hr => htypes r (List.mem_append_left _ hr), addRow]
    have hrow := htypes row (List.mem_append_right _ List.mem_cons_self)
    simp only [ofType_concat]
    cases htype : row.accountType with
    | Asset => simp [sectionOf_concat, balance, htype]
    | Liability => simp [sectionOf_concat, balance, htype]
    | Equity => simp [sectionOf_concat, balance, htype]
    | Revenue => rw [htype] at hrow; exact absurd hrow (by decide)
    | Expense => rw [htype] at hrow; exact absurd hrow (by decide)

theorem ProfitLossService.foldl_addRow (rows : List RawRow)
    (htypes : ∀ r ∈ rows, r.accountType ∈ ProfitLossService.types) :
    rows.foldl ProfitLossService.addRow {} =
      { revenue := sectionOf (fun r => r.totalCredit - r.totalDebit) (ofType rows .Revenue)
        expense := sectionOf (fun r => r.totalDebit - r.totalCredit) (ofType rows .Expense) } := by
  induction rows using List.reverseRecOn with
  | nil => rfl
  | append_singleton rows row ih =>
    rw [List.foldl_concat, ih fun r hr => htypes r (List.mem_append_left _ hr), addRow]
    have hrow := htypes row (List.mem_append_right _ List.mem_cons_self)
    simp only [ofType_concat]
    cases htype : row.accountType with
    | Revenue => simp [sectionOf_concat, amount, htype]
    | Expense => simp [sectionOf_concat, amount, htype]
    | Asset => rw [htype] at hrow; exact absurd hrow (by decide)
    | Liability => rw [htype] at hrow; exact absurd hrow (by decide)
    | Equity => rw [htype] at hrow; exact absurd hrow (by decide)

/-- The five types divide the rows up, each with the sign its report gives it. -/
theorem sum_by_type (rows : List RawRow) :
    (sectionOf (fun r => r.totalDebit - r.totalCredit) (ofType rows .Asset)).total -
      (sectionOf (fun r => r.totalCredit - r.totalDebit) (ofType rows .Liability)).total -
      (sectionOf (fun r => r.totalCredit - r.totalDebit) (ofType rows .Equity)).total -
      ((sectionOf (fun r => r.totalCredit - r.totalDebit) (ofType rows .Revenue)).total -
        (sectionOf (fun r => r.totalDebit - r.totalCredit) (ofType rows .Expense)).total) =
      (rows.map (·.totalDebit)).sum - (rows.map (·.totalCredit)).sum := by
  induction rows with
  | nil => rfl
  | cons row rows ih =>
    simp only [sectionOf, ofType] at ih ⊢
    cases htype : row.accountType <;>
      simp only [List.filter_cons, htype, decide_true, decide_false, reduceCtorEq, if_true,
        Bool.false_eq_true, if_false, List.map_cons, List.sum_cons] at ih ⊢ <;>
      lia

/-! ## Agreement -/

def linesUpTo (db : Db) (companyId : Uuid) (branchId : Option Uuid)
    (allowedBranchIds : Option (List Uuid)) (date : Instant) : List JoinedLine :=
  (db.ledger.journalEntries.rows.filter fun e =>
    reported companyId branchId allowedBranchIds e && e.entryDate ≤ date).flatMap (joinLines db)

theorem restricted_rows {db : Db} (h : KnowAccounts db lines) (types : List AccountType) :
    ∀ r ∈ groupByAccount db (lines.filter fun l => types.contains l.account.accountType),
      r.accountType ∈ types := by
  intro r hr
  rw [groupByAccount_filter h] at hr
  exact List.contains_iff_mem.1 (List.mem_filter.1 hr).2

theorem ofType_restricted (rows : List RawRow) {types : List AccountType} {type : AccountType}
    (htype : type ∈ types) :
    ofType (rows.filter fun r => types.contains r.accountType) type = ofType rows type := by
  rw [ofType, List.filter_filter]
  refine List.filter_congr fun r _ => ?_
  by_cases h : r.accountType = type
  · rw [h, List.contains_iff_mem.2 htype, Bool.and_true]
  · simp [h]

/-- The ledger reports agree. If every posted entry balances, then for a company,
a date and a branch the trial balance has one total on both sides; each part of the
balance sheet and of the profit and loss is the trial balance's rows of its type, at
their difference; and assets less liabilities and equity are the net income. -/
theorem ledger_reports_agree {db : Db}
    (hbalanced : ∀ e ∈ db.ledger.journalEntries.rows, e.status = .Posted →
      debitTotal e.lines = creditTotal e.lines)
    (haccounts : LinesHaveAccounts db) (companyId : Uuid) (branchId : Option Uuid)
    (allowedBranchIds : Option (List Uuid)) (date today : Instant) :
    let trialBalance := TrialBalanceService.query db companyId branchId allowedBranchIds (some date)
    let sheet := BalanceSheetService.query db companyId branchId allowedBranchIds (some date) today
    let profitLoss :=
      ProfitLossService.query db companyId branchId allowedBranchIds none (some date)
    trialBalance.totalDebit = trialBalance.totalCredit ∧
      (trialBalance.rows.map (·.accountId)).Nodup ∧
      sheet.assets =
        sectionOf (fun r => r.totalDebit - r.totalCredit) (ofType trialBalance.rows .Asset) ∧
      sheet.liabilities =
        sectionOf (fun r => r.totalCredit - r.totalDebit) (ofType trialBalance.rows .Liability) ∧
      sheet.equity =
        sectionOf (fun r => r.totalCredit - r.totalDebit) (ofType trialBalance.rows .Equity) ∧
      profitLoss.revenue =
        sectionOf (fun r => r.totalCredit - r.totalDebit) (ofType trialBalance.rows .Revenue) ∧
      profitLoss.expense =
        sectionOf (fun r => r.totalDebit - r.totalCredit) (ofType trialBalance.rows .Expense) ∧
      sheet.assets.total - sheet.liabilities.total - sheet.equity.total =
        profitLoss.netIncome := by
  intro trialBalance sheet profitLoss
  let lines := linesUpTo db companyId branchId allowedBranchIds date
  have hknow : KnowAccounts db lines := knowAccounts_flatMap db _
  -- All three queries start from the same lines.
  have htrial : trialBalance.rows = groupByAccount db lines := rfl
  have hsheet : (groupByAccount db (lines.filter fun l =>
      BalanceSheetService.types.contains l.account.accountType)).foldl
        BalanceSheetService.addRow {} = ⟨sheet.assets, sheet.liabilities, sheet.equity⟩ := rfl
  have hprofit : (groupByAccount db (lines.filter fun l =>
      ProfitLossService.types.contains l.account.accountType)).foldl
        ProfitLossService.addRow {} = ⟨profitLoss.revenue, profitLoss.expense⟩ := by
    simp only [profitLoss, ProfitLossService.query, Option.all_none, Option.all_some,
      Bool.and_true]
    rfl
  rw [BalanceSheetService.foldl_addRow _ (restricted_rows hknow _), groupByAccount_filter hknow,
    ofType_restricted _ (by decide), ofType_restricted _ (by decide),
    ofType_restricted _ (by decide), BalanceSheetService.Sections.mk.injEq] at hsheet
  rw [ProfitLossService.foldl_addRow _ (restricted_rows hknow _), groupByAccount_filter hknow,
    ofType_restricted _ (by decide), ofType_restricted _ (by decide),
    ProfitLossService.Sections.mk.injEq] at hprofit
  obtain ⟨hassets, hliabilities, hequity⟩ := hsheet
  obtain ⟨hrevenue, hexpense⟩ := hprofit
  -- The trial balance adds its rows up; along entries the two sides are equal.
  have hsides : trialBalance.totalDebit = trialBalance.totalCredit := by
    have hdebit : trialBalance.totalDebit = (lines.map fun l => l.line.debitAmount).sum := by
      rw [← sum_rows hknow JournalEntryLine.debitAmount]
      change ((groupByAccount db lines).map (·.totalDebit)).sum = _
      rw [groupByAccount, List.map_map]
      rfl
    have hcredit : trialBalance.totalCredit = (lines.map fun l => l.line.creditAmount).sum := by
      rw [← sum_rows hknow JournalEntryLine.creditAmount]
      change ((groupByAccount db lines).map (·.totalCredit)).sum = _
      rw [groupByAccount, List.map_map]
      rfl
    have hposted : ∀ e ∈ db.ledger.journalEntries.rows.filter (fun e =>
        reported companyId branchId allowedBranchIds e && e.entryDate ≤ date),
        e ∈ db.ledger.journalEntries.rows ∧ e.status = .Posted := by
      intro e he
      obtain ⟨he, hcond⟩ := List.mem_filter.1 he
      simp only [reported, Bool.and_eq_true, decide_eq_true_eq] at hcond
      exact ⟨he, hcond.1.1.2⟩
    rw [hdebit, hcredit]
    exact sum_debit_eq_sum_credit (fun e he => haccounts e (hposted e he).1 (hposted e he).2)
      fun e he => hbalanced e (hposted e he).1 (hposted e he).2
  refine ⟨hsides, ?_, hassets.symm, hliabilities.symm, hequity.symm, hrevenue.symm, hexpense.symm,
    ?_⟩
  · rw [htrial, groupByAccount, List.map_map]
    exact accountsOf_nodup db lines
  · have hnet : profitLoss.netIncome = profitLoss.revenue.total - profitLoss.expense.total := rfl
    have htypes := sum_by_type (groupByAccount db lines)
    rw [hassets, hliabilities, hequity, hrevenue, hexpense, ← hnet] at htypes
    have hzero : ((groupByAccount db lines).map (·.totalDebit)).sum =
        ((groupByAccount db lines).map (·.totalCredit)).sum := hsides
    rw [hzero, sub_self] at htypes
    exact sub_eq_zero.1 htypes

/-! A sale of 50.00 for cash and 20.00 of rent: three accounts, two entries. -/

namespace LedgerReportsDemo

def account (id : Uuid) (code : String) (type : AccountType) : Account :=
  { id := id, companyId := 10, code := code, name := code, accountType := type, isActive := true }

def line (accountId : Uuid) (debit credit : Cents) : JournalEntryLine :=
  { accountId := accountId, debitAmount := debit, creditAmount := credit, referenceType := none,
    referenceId := none, description := none }

def entry (id : Uuid) (lines : List JournalEntryLine) : JournalEntry :=
  { id := id, journalNumber := "JE", companyId := 10, branchId := none, accountingPeriodId := 1,
    entryDate := { date := ⟨2026, 3, 1⟩, millis := 0 }, status := .Posted,
    sourceType := some .Manual, sourceId := none, description := "", totalDebit := 0,
    totalCredit := 0, createdBy := 99, postedBy := none, postedAt := none, lines := lines }

def db : Db where
  master :=
    { accounts := .ofRows [account 1 "1000" .Asset, account 2 "4000" .Revenue,
        account 3 "5000" .Expense] }
  ledger :=
    { journalEntries := .ofRows [entry 7 [line 1 5000 0, line 2 0 5000],
        entry 8 [line 3 2000 0, line 1 0 2000]] }

def date : Instant := { date := ⟨2026, 3, 31⟩, millis := 0 }

end LedgerReportsDemo

theorem ledger_reports_agree_shop :
    (BalanceSheetService.query LedgerReportsDemo.db 10 none none (some LedgerReportsDemo.date)
        LedgerReportsDemo.date).assets.total = 3000 ∧
      (TrialBalanceService.query LedgerReportsDemo.db 10 none none
        (some LedgerReportsDemo.date)).totalDebit =
      (TrialBalanceService.query LedgerReportsDemo.db 10 none none
        (some LedgerReportsDemo.date)).totalCredit := by
  have hrows : ∀ e ∈ LedgerReportsDemo.db.ledger.journalEntries.rows,
      debitTotal e.lines = creditTotal e.lines ∧ ∀ line ∈ e.lines,
        ∃ a ∈ LedgerReportsDemo.db.master.accounts.find? line.accountId, a.deleted = false := by
    decide +kernel
  exact ⟨by decide +kernel, (ledger_reports_agree (fun e he _ => (hrows e he).1)
    (fun e he _ => (hrows e he).2) 10 none none LedgerReportsDemo.date LedgerReportsDemo.date).1⟩

end FashionErp
