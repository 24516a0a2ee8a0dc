/-
`accounting/services/journal-entries.service.ts` and
`accounting-period-resolver.service.ts`: making, posting and cancelling journal
entries.

A manual entry is created as a draft, which need not balance, and posted later;
`createInternal` makes an entry that is posted from the start, inside the transaction
of its caller.
-/
import FashionErp.Accounting.DoubleEntry
import FashionErp.Core.MasterData

namespace FashionErp

open Lib Lib.Tx

/-! ## `AccountingPeriodResolverService` -/

namespace AccountingPeriodResolverService

/-- The first period of the company that satisfies `p`, with its fiscal year. -/
def findPeriod (db : Db) (companyId : Uuid) (p : AccountingPeriod → Bool) :
    Option (AccountingPeriod × FiscalYear) :=
  db.ledger.accountingPeriods.rows.findSome? fun period =>
    if p period then
      ((db.ledger.fiscalYears.find? period.fiscalYearId).filter fun y =>
        y.companyId = companyId).map fun y => (period, y)
    else
      none

def assertPostable (period : AccountingPeriod) (fiscalYear : FiscalYear) : DbTx Unit := do
  rejectIf (fiscalYear.status = .Closed)
    (appException .Conflict "Cannot post into a period whose fiscal year is CLOSED")
  rejectIf (period.status = .Locked)
    (appException .Conflict "Cannot post into a LOCKED accounting period")

def createCalendarYear (companyId : Uuid) (year : ℕ) (yearStart yearEnd : DateOnly) :
    DbTx AccountingPeriod := do
  let fiscalYearId ← randomUUID
  let fiscalYear : FiscalYear :=
    { id := fiscalYearId, companyId := companyId, name := s!"FY{year}", startDate := yearStart,
      endDate := yearEnd, status := .Open }
  let periodId ← randomUUID
  let period : AccountingPeriod :=
    { id := periodId, fiscalYearId := fiscalYearId, name := s!"FY{year}", startDate := yearStart,
      endDate := yearEnd, status := .Open }
  modify fun db =>
    { db with ledger := { db.ledger with
        fiscalYears := db.ledger.fiscalYears.save fiscalYear
        accountingPeriods := db.ledger.accountingPeriods.save period } }
  return period

def resolveOpenPeriod (companyId : Uuid) (entryDate : Instant) : DbTx AccountingPeriod := do
  let db ← get
  let dateOnly := entryDate.date
  match findPeriod db companyId fun p => p.startDate ≤ dateOnly ∧ dateOnly ≤ p.endDate with
  | some (existing, fiscalYear) =>
    assertPostable existing fiscalYear
    return existing
  | none =>
    let year := entryDate.getUTCFullYear
    let yearStart : DateOnly := { year := year, month := 1, day := 1 }
    let yearEnd : DateOnly := { year := year, month := 12, day := 31 }
    match findPeriod db companyId fun p => p.startDate = yearStart ∧ p.endDate = yearEnd with
    | some (raceCheck, _) => return raceCheck
    | none => createCalendarYear companyId year yearStart yearEnd

end AccountingPeriodResolverService

/-! ## `JournalEntriesService` -/

namespace JournalEntriesService

structure CreateJournalEntryDto where
  branchId : Option Uuid
  entryDate : Option Instant
  description : String
  lines : List JournalEntryLine

/-- The parameters of `createInternal`. -/
structure CreateInternalParams where
  companyId : Uuid
  branchId : Option Uuid
  entryDate : Instant
  description : String
  sourceType : JournalSourceType
  sourceId : Uuid
  userId : Uuid
  lines : List JournalEntryLine

def findByIdInCompany (id companyId : Uuid) : DbTx JournalEntry := do
  let db ← get
  orReject ((db.ledger.journalEntries.find? id).filter fun e => e.companyId = companyId)
    (appException .NotFound "Journal entry not found")

def findBySource (db : Db) (companyId : Uuid) (sourceType : JournalSourceType) (sourceId : Uuid) :
    Option JournalEntry :=
  db.ledger.journalEntries.rows.find? fun e =>
    e.companyId = companyId ∧ e.sourceType = some sourceType ∧ e.sourceId = some sourceId

def saveEntry (entry : JournalEntry) : DbTx Unit :=
  modify fun db =>
    { db with ledger := { db.ledger with
        journalEntries := db.ledger.journalEntries.save entry } }

def insertEntry (entry : JournalEntry) : DbTx Unit := do
  let db ← get
  rejectIf (db.ledger.journalEntries.find? entry.id).isSome (.duplicateEntry "PRIMARY")
  rejectIf (db.ledger.journalEntries.rows.any fun e =>
      e.companyId = entry.companyId ∧ e.sourceType = entry.sourceType ∧
        e.sourceId = entry.sourceId ∧ e.sourceType.isSome ∧ e.sourceId.isSome)
    (.duplicateEntry "IDX_je_company_source")
  saveEntry entry

def generateJournalNumber (companyId : Uuid) (year : ℕ) : DbTx String :=
  nextDocumentNumber .Journal "JE" companyId year

/-- One iteration of `assertLinesReferenceValidAccounts`. -/
def assertLineAccount (companyId : Uuid) (line : JournalEntryLine) : DbTx Unit := do
  let db ← get
  let id := line.accountId
  let account ← orReject
    ((db.master.accounts.find? id).filter fun a => a.companyId = companyId && !a.deleted)
    (appException .ValidationError s!"accountId {id} does not reference an account in this company")
  rejectIf (account.isActive = false)
    (appException .ValidationError s!"accountId {id} references an inactive account")

/-- The row `create` inserts. -/
def draftEntry (id : Uuid) (journalNumber : String) (companyId periodId userId : Uuid)
    (entryDate : Instant) (dto : CreateJournalEntryDto) : JournalEntry where
  id := id
  journalNumber := journalNumber
  companyId := companyId
  branchId := dto.branchId
  accountingPeriodId := periodId
  entryDate := entryDate
  status := .Draft
  sourceType := some .Manual
  sourceId := none
  description := dto.description
  totalDebit := debitTotal dto.lines
  totalCredit := creditTotal dto.lines
  createdBy := userId
  postedBy := none
  postedAt := none
  lines := dto.lines

/-- The transaction of `create`. -/
def createTransaction (companyId userId : Uuid) (entryDate : Instant)
    (dto : CreateJournalEntryDto) : DbTx JournalEntry := do
  dto.lines.forM (assertLineAccount companyId)
  let period ← AccountingPeriodResolverService.resolveOpenPeriod companyId entryDate
  let journalNumber ← generateJournalNumber companyId entryDate.getUTCFullYear
  let id ← randomUUID
  let entry := draftEntry id journalNumber companyId period.id userId entryDate dto
  insertEntry entry
  return entry

def create (companyId userId : Uuid) (now : Instant) (dto : CreateJournalEntryDto) :
    DbTx JournalEntry := do
  assertCompanyAndBranch companyId dto.branchId
  createTransaction companyId userId (dto.entryDate.getD now) dto

/-- The status check of `post`. -/
def postGuard (entry : JournalEntry) : DbTx Unit :=
  let current := entry.status.value
  rejectIf (entry.status ≠ .Draft)
    (appException .Conflict s!"Cannot post a journal entry with status {current} (only DRAFT can be posted)")

/-- What `post` writes into the row. -/
def markPosted (userId : Uuid) (now : Instant) (totals : Cents × Cents) (entry : JournalEntry) :
    JournalEntry :=
  { entry with
    status := .Posted, totalDebit := totals.1, totalCredit := totals.2, postedBy := some userId,
    postedAt := some now }

/-- The checks of `post` on the locked row; the result is the row it leaves. -/
def postChecks (userId : Uuid) (now : Instant) (entry : JournalEntry) : DbTx JournalEntry := do
  postGuard entry
  let totals ← assertBalanced entry.lines
  let db ← get
  let period ← orReject (db.ledger.accountingPeriods.find? entry.accountingPeriodId)
    .entityNotFound
  let fiscalYear ← orReject (db.ledger.fiscalYears.find? period.fiscalYearId) .entityNotFound
  AccountingPeriodResolverService.assertPostable period fiscalYear
  return markPosted userId now totals entry

def post (id companyId userId : Uuid) (now : Instant) : DbTx JournalEntry := do
  let entry ← findByIdInCompany id companyId
  let posted ← postChecks userId now entry
  saveEntry posted
  return posted

/-- The status check of `cancel`. -/
def cancelGuard (entry : JournalEntry) : DbTx Unit :=
  let current := entry.status.value
  rejectIf (entry.status ≠ .Draft)
    (appException .Conflict s!"Cannot cancel a journal entry with status {current} (only DRAFT can be cancelled)")

/-- What `cancel` writes into the entity. -/
def markCancelled (entry : JournalEntry) : JournalEntry := { entry with status := .Cancelled }

def cancel (id companyId : Uuid) : DbTx JournalEntry := do
  let entry ← findByIdInCompany id companyId
  cancelGuard entry
  saveEntry (markCancelled entry)
  return markCancelled entry

/-- The row `createInternal` inserts. -/
def internalEntry (id : Uuid) (journalNumber : String) (periodId : Uuid) (now : Instant)
    (totals : Cents × Cents) (params : CreateInternalParams) : JournalEntry where
  id := id
  journalNumber := journalNumber
  companyId := params.companyId
  branchId := params.branchId
  accountingPeriodId := periodId
  entryDate := params.entryDate
  status := .Posted
  sourceType := some params.sourceType
  sourceId := some params.sourceId
  description := params.description
  totalDebit := totals.1
  totalCredit := totals.2
  createdBy := params.userId
  postedBy := some params.userId
  postedAt := some now
  lines := params.lines

def createInternal (now : Instant) (params : CreateInternalParams) : DbTx JournalEntry := do
  let totals ← assertBalanced params.lines
  let period ← AccountingPeriodResolverService.resolveOpenPeriod params.companyId params.entryDate
  let journalNumber ← generateJournalNumber params.companyId params.entryDate.getUTCFullYear
  let id ← randomUUID
  let entry := internalEntry id journalNumber period.id now totals params
  insertEntry entry
  return entry

end JournalEntriesService

/-! ## What a posting touches -/

/-- `db'` is `db` up to the periods of the ledger and the sequences. -/
def PeriodsOnly (db db' : Db) : Prop :=
  db' = { db with
    ledger := { db'.ledger with journalEntries := db.ledger.journalEntries }
    sequences := db'.sequences }

theorem PeriodsOnly.refl (db : Db) : PeriodsOnly db db := rfl

variable {db db' : Db}

theorem PeriodsOnly.trans {db₁ db₂ : Db} (h₁ : PeriodsOnly db db₁) (h₂ : PeriodsOnly db₁ db₂) :
    PeriodsOnly db db₂ := by
  unfold PeriodsOnly at h₁ h₂ ⊢
  rw [h₁] at h₂
  exact h₂

theorem PeriodsOnly.of_sequences (h : SequencesOnly db db') : PeriodsOnly db db' := by
  unfold PeriodsOnly
  rw [h]

theorem resolveOpenPeriod_touches {companyId : Uuid} {entryDate : Instant}
    {period : AccountingPeriod}
    (h : Commits (AccountingPeriodResolverService.resolveOpenPeriod companyId entryDate) db period
      db') : PeriodsOnly db db' := by
  simp only [AccountingPeriodResolverService.resolveOpenPeriod, commits_bind, commits_get] at h
  obtain ⟨_, _, ⟨rfl, rfl⟩, h⟩ := h
  split at h
  · simp only [AccountingPeriodResolverService.assertPostable, commits_bind, commits_rejectIf,
      commits_pure] at h
    obtain ⟨_, _, ⟨_, _, ⟨-, rfl⟩, -, rfl⟩, -, rfl⟩ := h
    exact PeriodsOnly.refl db
  · split at h
    · obtain ⟨-, rfl⟩ := (commits_pure _ _ _ _).1 h
      exact PeriodsOnly.refl db
    · simp only [AccountingPeriodResolverService.createCalendarYear, commits_bind, commits_modify,
        commits_pure] at h
      obtain ⟨fiscalYearId, db₁, h₁, periodId, db₂, h₂, _, _, rfl, -, rfl⟩ := h
      have hids : PeriodsOnly db db₂ :=
        (PeriodsOnly.of_sequences (randomUUID_spec h₁).1).trans
          (PeriodsOnly.of_sequences (randomUUID_spec h₂).1)
      exact hids.trans rfl

namespace JournalEntriesService

theorem commits_insertEntry (entry : JournalEntry) (db : Db) (u : Unit) (db' : Db) :
    Commits (insertEntry entry) db u db' ↔
      (db.ledger.journalEntries.find? entry.id = none ∧
        (∀ e ∈ db.ledger.journalEntries.rows, ¬ (e.companyId = entry.companyId ∧
          e.sourceType = entry.sourceType ∧ e.sourceId = entry.sourceId ∧
          e.sourceType.isSome ∧ e.sourceId.isSome))) ∧
      db' = { db with ledger := { db.ledger with
        journalEntries := db.ledger.journalEntries.save entry } } := by
  simp only [insertEntry, saveEntry, commits_bind, commits_get, commits_rejectIf, commits_modify,
    Bool.not_eq_true, Option.isSome_eq_false_iff, Option.isNone_iff_eq_none, List.any_eq_false,
    decide_eq_true_eq]
  constructor
  · rintro ⟨_, _, ⟨rfl, rfl⟩, _, _, ⟨hid, rfl⟩, _, _, ⟨hsource, rfl⟩, rfl⟩
    exact ⟨⟨hid, hsource⟩, rfl⟩
  · rintro ⟨⟨hid, hsource⟩, rfl⟩
    exact ⟨db, db, ⟨rfl, rfl⟩, ⟨⟩, db, ⟨hid, rfl⟩, ⟨⟩, db, ⟨hsource, rfl⟩, rfl⟩

theorem commits_findByIdInCompany (id companyId : Uuid) (db : Db) (entry : JournalEntry)
    (db' : Db) :
    Commits (findByIdInCompany id companyId) db entry db' ↔
      (db.ledger.journalEntries.find? id = some entry ∧ entry.companyId = companyId) ∧
        db = db' := by
  simp only [findByIdInCompany, commits_lookup, Option.filter_eq_some_iff, decide_eq_true_eq]

theorem commits_assertPostable (period : AccountingPeriod) (fiscalYear : FiscalYear) (db : Db)
    (u : Unit) (db' : Db) :
    Commits (AccountingPeriodResolverService.assertPostable period fiscalYear) db u db' ↔
      (fiscalYear.status ≠ .Closed ∧ period.status ≠ .Locked) ∧ db = db' := by
  simp [AccountingPeriodResolverService.assertPostable, and_assoc]

/-- What passing the checks of `post` says: the row is a balanced draft of an
open period, and what is written is `markPosted` of it. -/
theorem commits_postChecks (userId : Uuid) (now : Instant) (entry : JournalEntry) (db : Db)
    (posted : JournalEntry) (db' : Db) :
    Commits (postChecks userId now entry) db posted db' ↔
      (entry.status = .Draft ∧ Balanced entry.lines ∧
        (∃ period fiscalYear,
          db.ledger.accountingPeriods.find? entry.accountingPeriodId = some period ∧
          db.ledger.fiscalYears.find? period.fiscalYearId = some fiscalYear ∧
          fiscalYear.status ≠ .Closed ∧ period.status ≠ .Locked) ∧
        posted = markPosted userId now (debitTotal entry.lines, creditTotal entry.lines) entry) ∧
      db = db' := by
  simp only [postChecks, postGuard, commits_bind, commits_rejectIf, commits_assertBalanced,
    commits_get, commits_orReject, commits_assertPostable, commits_pure, not_not]
  constructor
  · rintro ⟨_, _, ⟨hdraft, rfl⟩, _, _, ⟨hbal, rfl, rfl⟩, _, _, ⟨rfl, rfl⟩, period, _,
      ⟨hperiod, rfl⟩, fiscalYear, _, ⟨hyear, rfl⟩, _, _, ⟨hpostable, rfl⟩, rfl, rfl⟩
    exact ⟨⟨hdraft, hbal, ⟨period, fiscalYear, hperiod, hyear, hpostable⟩, rfl⟩, rfl⟩
  · rintro ⟨⟨hdraft, hbal, ⟨period, fiscalYear, hperiod, hyear, hpostable⟩, rfl⟩, rfl⟩
    exact ⟨⟨⟩, db, ⟨hdraft, rfl⟩, _, db, ⟨hbal, rfl, rfl⟩, db, db, ⟨rfl, rfl⟩, period, db,
      ⟨hperiod, rfl⟩, fiscalYear, db, ⟨hyear, rfl⟩, ⟨⟩, db, ⟨hpostable, rfl⟩, rfl, rfl⟩

/-- What `create` does. It adds one manual draft with the given lines and
touches nothing but the ledger. -/
theorem createTransaction_spec {companyId userId : Uuid} {entryDate : Instant}
    {dto : CreateJournalEntryDto} {entry : JournalEntry}
    (h : Commits (createTransaction companyId userId entryDate dto) db entry db') :
    entry.status = .Draft ∧ entry.sourceType = some .Manual ∧ entry.companyId = companyId ∧
      entry.lines = dto.lines ∧ db.ledger.journalEntries.find? entry.id = none ∧
      ∃ db₁, PeriodsOnly db db₁ ∧ db' = { db₁ with ledger := { db₁.ledger with
        journalEntries := db.ledger.journalEntries.save entry } } := by
  have hone : ∀ line ∈ dto.lines, ∀ (u : PUnit) (s' : Db),
      Commits (assertLineAccount companyId line) db u s' ↔
        (∃ account, (db.master.accounts.find? line.accountId).filter (fun a =>
          a.companyId = companyId && !a.deleted) = some account ∧ account.isActive ≠ false) ∧
          db = s' := by
    intro line _ u s'
    simp only [assertLineAccount, commits_bind, commits_get, commits_orReject, commits_rejectIf]
    constructor
    · rintro ⟨_, _, ⟨rfl, rfl⟩, account, _, ⟨haccount, rfl⟩, hactive, rfl⟩
      exact ⟨⟨account, haccount, hactive⟩, rfl⟩
    · rintro ⟨⟨account, haccount, hactive⟩, rfl⟩
      exact ⟨db, db, ⟨rfl, rfl⟩, account, db, ⟨haccount, rfl⟩, hactive, rfl⟩
  simp only [createTransaction, generateJournalNumber, commits_bind, commits_insertEntry,
    commits_pure] at h
  obtain ⟨_, _, hlines, period, db₁, hperiod, number, db₂, hnumber, id, db₃, hid, _, _,
    ⟨⟨hfresh, -⟩, rfl⟩, rfl, rfl⟩ := h
  obtain ⟨-, rfl⟩ := (commits_forM_check hone _ _).1 hlines
  have htouch : PeriodsOnly db db₃ :=
    ((resolveOpenPeriod_touches hperiod).trans
      (PeriodsOnly.of_sequences (nextDocumentNumber_spec hnumber))).trans
        (PeriodsOnly.of_sequences (randomUUID_spec hid).1)
  have hentries : db₃.ledger.journalEntries = db.ledger.journalEntries := by rw [htouch]
  rw [hentries] at hfresh
  exact ⟨rfl, rfl, rfl, rfl, hfresh, db₃, htouch, by rw [hentries]⟩

theorem createInternal_spec {now : Instant} {params : CreateInternalParams}
    {entry : JournalEntry} (h : Commits (createInternal now params) db entry db') :
    Balanced params.lines ∧ entry.status = .Posted ∧ entry.companyId = params.companyId ∧
      entry.sourceType = some params.sourceType ∧ entry.sourceId = some params.sourceId ∧
      entry.lines = params.lines ∧ db.ledger.journalEntries.find? entry.id = none ∧
      (∀ e ∈ db.ledger.journalEntries.rows, ¬ (e.companyId = params.companyId ∧
        e.sourceType = some params.sourceType ∧ e.sourceId = some params.sourceId)) ∧
      ∃ db₁, PeriodsOnly db db₁ ∧ db' = { db₁ with ledger := { db₁.ledger with
        journalEntries := db.ledger.journalEntries.save entry } } := by
  simp only [createInternal, generateJournalNumber, commits_bind, commits_assertBalanced,
    commits_insertEntry, commits_pure] at h
  obtain ⟨_, _, ⟨hbal, rfl, rfl⟩, period, db₁, hperiod, number, db₂, hnumber, id, db₃, hid, _, _,
    ⟨⟨hfresh, hsource⟩, rfl⟩, rfl, rfl⟩ := h
  have htouch : PeriodsOnly db db₃ :=
    ((resolveOpenPeriod_touches hperiod).trans
      (PeriodsOnly.of_sequences (nextDocumentNumber_spec hnumber))).trans
        (PeriodsOnly.of_sequences (randomUUID_spec hid).1)
  have hentries : db₃.ledger.journalEntries = db.ledger.journalEntries := by rw [htouch]
  rw [hentries] at hfresh hsource
  refine ⟨hbal, rfl, rfl, rfl, rfl, rfl, hfresh, ?_, db₃, htouch, by rw [hentries]⟩
  rintro e he ⟨hcompany, htype, hsrc⟩
  exact hsource e he ⟨hcompany, htype, hsrc, by rw [htype]; rfl, by rw [hsrc]; rfl⟩

end JournalEntriesService

end FashionErp
