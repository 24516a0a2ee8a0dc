/-
`accounting/services/accounting-posting.service.ts`: payments in the general
ledger.

`postPayment` books a payment as two lines of its amount, cash or bank on one side
and the party's control account on the other; `reversePayment` books the lines of
that journal again with the two sides exchanged.
-/
import FashionErp.Accounting.JournalEntries
import FashionErp.Lib.Ledger

namespace FashionErp.AccountingPostingService

open Lib Lib.Tx JournalEntriesService

/-- The account `id` of the company, if it is active. -/
def findActiveAccount (db : Db) (id companyId : Uuid) : Option Account :=
  (db.master.accounts.find? id).filter fun a => a.companyId = companyId && a.isActive && !a.deleted

def resolveAccount (companyId : Uuid) (accountId : Option Uuid) (missing unresolved : String) :
    DbTx Account := do
  let id ← orReject accountId (appException .ValidationError missing)
  let db ← get
  orReject (findActiveAccount db id companyId) (appException .ValidationError unresolved)

def resolveCashBankAccount (paymentMethod : PaymentMethod) (companyId : Uuid) : DbTx Account :=
  let code := paymentMethod.code
  resolveAccount companyId paymentMethod.glAccountId
    s!"Payment method {code} has no configured GL account (glAccountId) — cannot post this payment to the General Ledger"
    s!"Payment method {code}'s configured GL account does not resolve to an active account in this company"

def resolveReceivableAccount (customer : Customer) (companyId : Uuid) : DbTx Account :=
  let code := customer.customerCode
  resolveAccount companyId customer.receivableAccountId
    s!"Customer {code} has no configured receivable account (receivableAccountId) — cannot post this payment to the General Ledger"
    s!"Customer {code}'s configured receivable account does not resolve to an active account in this company"

def resolvePayableAccount (supplier : Supplier) (companyId : Uuid) : DbTx Account :=
  let code := supplier.supplierCode
  resolveAccount companyId supplier.payableAccountId
    s!"Supplier {code} has no configured payable account (payableAccountId) — cannot post this payment to the General Ledger"
    s!"Supplier {code}'s configured payable account does not resolve to an active account in this company"

def resolveSides (payment : Payment) (cashBankAccount : Account) (customer : Option Customer)
    (supplier : Option Supplier) : DbTx (Uuid × Uuid) :=
  match payment.direction with
  | .Receipt => do
    let customer ← orReject customer
      (appException .ValidationError
        "RECEIPT payment has no resolved customer — cannot post to the General Ledger")
    let receivableAccount ← resolveReceivableAccount customer payment.companyId
    return (cashBankAccount.id, receivableAccount.id)
  | .Payment => do
    let supplier ← orReject supplier
      (appException .ValidationError
        "PAYMENT payment has no resolved supplier — cannot post to the General Ledger")
    let payableAccount ← resolvePayableAccount supplier payment.companyId
    return (payableAccount.id, cashBankAccount.id)
  | .Refund =>
    throw (appException .UnprocessableEntity "REFUND payments cannot be posted to the General Ledger: no sales-return/contra-revenue account mapping exists in this codebase (see AccountingPostingService.postPayment() REFUND branch). The refund itself is still recorded (Payment + SaleReturn.refundedAmount); accounting posting is BLOCKED until a dedicated account-mapping field is added in a future phase.")

def paymentLine (payment : Payment) (accountId : Uuid) (debitAmount creditAmount : Cents) :
    JournalEntryLine where
  accountId := accountId
  debitAmount := debitAmount
  creditAmount := creditAmount
  referenceType := some .Payment
  referenceId := some payment.id
  description := some s!"Payment {payment.paymentNumber}"

/-- The parameters `postPayment` hands to `createInternal`. -/
def postingParams (payment : Payment) (userId debitAccountId creditAccountId : Uuid) :
    CreateInternalParams where
  companyId := payment.companyId
  branchId := payment.branchId
  entryDate := payment.paymentDate
  description := s!"Payment {payment.paymentNumber} ({payment.direction.value})"
  sourceType := .Payment
  sourceId := payment.id
  userId := userId
  lines := [paymentLine payment debitAccountId payment.amount 0,
    paymentLine payment creditAccountId 0 payment.amount]

/-- `isDuplicateSourceError`: the error names an index with `source` in it. -/
def isDuplicateSourceError : Failure → Bool
  | .duplicateEntry index => decide ("source".toList <:+: index.toList)
  | _ => false

/-- `postPayment`. The `catch` is never reached from `create`: the source was just
looked up inside the same transaction. -/
def postPayment (now : Instant) (payment : Payment) (paymentMethod : PaymentMethod)
    (customer : Option Customer) (supplier : Option Supplier) (userId : Uuid) :
    DbTx JournalEntry := do
  let db ← get
  match findBySource db payment.companyId .Payment payment.id with
  | some existing => return existing
  | none =>
    let cashBankAccount ← resolveCashBankAccount paymentMethod payment.companyId
    let sides ← resolveSides payment cashBankAccount customer supplier
    tryCatch (createInternal now (postingParams payment userId sides.1 sides.2)) fun error => do
      let db ← get
      if isDuplicateSourceError error then
        orReject (findBySource db payment.companyId .Payment payment.id) error
      else
        throw error

/-- A line with its two sides exchanged, as `reversePayment` books it. -/
def reversedLine (payment : Payment) (line : JournalEntryLine) : JournalEntryLine where
  accountId := line.accountId
  debitAmount := line.creditAmount
  creditAmount := line.debitAmount
  referenceType := some .Payment
  referenceId := some payment.id
  description := some s!"Reversal of payment {payment.paymentNumber}"

def reversalDescription (payment : Payment) (reason : Option String) : String :=
  match reason.filter (· ≠ "") with
  | some reason => s!"Reverse payment {payment.paymentNumber}: {reason}"
  | none => s!"Reverse payment {payment.paymentNumber}"

/-- The parameters `reversePayment` hands to `createInternal`. -/
def reversalParams (now : Instant) (payment : Payment) (userId sourceId : Uuid)
    (reason : Option String) (lines : List JournalEntryLine) : CreateInternalParams where
  companyId := payment.companyId
  branchId := payment.branchId
  entryDate := now
  description := reversalDescription payment reason
  sourceType := .Manual
  sourceId := sourceId
  userId := userId
  lines := lines.map (reversedLine payment)

def reversePayment (now : Instant) (payment : Payment) (userId : Uuid) (reason : Option String) :
    DbTx (Option JournalEntry) := do
  if payment.direction = .Refund then
    return none
  else
    let db ← get
    match findBySource db payment.companyId .Payment payment.id with
    | none => return none
    | some original =>
      if original.lines.length = 0 then
        return none
      else
        let sourceId ← randomUUID
        some <$> createInternal now (reversalParams now payment userId sourceId reason original.lines)

/-! ## What a posting adds to the ledger -/

def linePostings (lines : List JournalEntryLine) : List (Uuid × Cents) :=
  lines.map fun line => (line.accountId, line.debitAmount - line.creditAmount)

theorem journal_reversal_nets_to_zero (payment : Payment) (lines : List JournalEntryLine)
    (accountId : Uuid) :
    net (linePostings (lines ++ lines.map (reversedLine payment))) accountId = 0 := by
  have hreversed : linePostings (lines.map (reversedLine payment)) =
      lines.map fun line => (line.accountId, -(line.debitAmount - line.creditAmount)) := by
    rw [linePostings, List.map_map]
    refine List.map_congr_left fun line _ => ?_
    simp only [Function.comp_apply, reversedLine, neg_sub]
  rw [linePostings, List.map_append, net_append]
  change net (linePostings lines) accountId +
    net (linePostings (lines.map (reversedLine payment))) accountId = 0
  rw [hreversed, net_map_neg, linePostings, add_neg_cancel]

variable {db db' : Db} {payment : Payment} {customer : Option Customer} {supplier : Option Supplier}
  {entry : JournalEntry}

theorem commits_resolveAccount {companyId : Uuid} {accountId : Option Uuid}
    {missing unresolved : String} {account : Account}
    (h : Commits (resolveAccount companyId accountId missing unresolved) db account db') :
    db = db' := by
  simp only [resolveAccount, commits_bind, commits_orReject, commits_get] at h
  obtain ⟨_, _, ⟨-, rfl⟩, _, _, ⟨rfl, rfl⟩, -, rfl⟩ := h
  rfl

theorem resolveSides_reads {cash : Account} {sides : Uuid × Uuid}
    (h : Commits (resolveSides payment cash customer supplier) db sides db') : db = db' := by
  unfold resolveSides at h
  split at h
  · simp only [commits_bind, commits_orReject, commits_pure] at h
    obtain ⟨_, _, ⟨-, rfl⟩, _, _, haccount, -, rfl⟩ := h
    exact commits_resolveAccount haccount
  · simp only [commits_bind, commits_orReject, commits_pure] at h
    obtain ⟨_, _, ⟨-, rfl⟩, _, _, haccount, -, rfl⟩ := h
    exact commits_resolveAccount haccount
  · exact absurd h (commits_throw _ _ _ _)

def EntryAdded (db : Db) (entry : JournalEntry) (db' : Db) : Prop :=
  db.ledger.journalEntries.find? entry.id = none ∧
    ∃ db₁, PeriodsOnly db db₁ ∧ db' = { db₁ with ledger := { db₁.ledger with
      journalEntries := db.ledger.journalEntries.save entry } }

variable {userId : Uuid} {now : Instant} {paymentMethod : PaymentMethod}

theorem postPayment_spec (hnone : findBySource db payment.companyId .Payment payment.id = none)
    (h : Commits (postPayment now payment paymentMethod customer supplier userId) db entry db') :
    ∃ debitAccountId creditAccountId,
      entry.lines = [paymentLine payment debitAccountId payment.amount 0,
        paymentLine payment creditAccountId 0 payment.amount] ∧
      entry.status = .Posted ∧ entry.companyId = payment.companyId ∧
      entry.sourceType = some .Payment ∧ entry.sourceId = some payment.id ∧
      EntryAdded db entry db' := by
  simp only [postPayment, commits_bind, commits_get] at h
  obtain ⟨_, _, ⟨rfl, rfl⟩, h⟩ := h
  rw [hnone] at h
  simp only [commits_bind] at h
  obtain ⟨cash, _, hcash, sides, _, hsides, h⟩ := h
  obtain rfl := commits_resolveAccount hcash
  obtain rfl := resolveSides_reads hsides
  have hcreate : Commits (createInternal now (postingParams payment userId sides.1 sides.2)) db
      entry db' := by
    rcases (commits_tryCatch _ _ _ _ _).1 h with h | ⟨error, -, h⟩
    · exact h
    · -- The handler looks the source up again in the rolled-back state: still none.
      simp only [commits_bind, commits_get] at h
      obtain ⟨_, _, ⟨rfl, rfl⟩, h⟩ := h
      split at h
      · rw [hnone] at h
        exact absurd h (commits_throw _ _ _ _)
      · exact absurd h (commits_throw _ _ _ _)
  obtain ⟨-, hposted, hcompany, htype, hsource, hlines, hfresh, -, hadded⟩ :=
    createInternal_spec hcreate
  exact ⟨sides.1, sides.2, hlines, hposted, hcompany, htype, hsource, hfresh, hadded⟩

variable {result : Option JournalEntry}

/-- Reversing a payment touches only the ledger and the sequences; if the
payment has a journal with lines, it adds a posted manual entry with those lines
reversed. -/
theorem reversePayment_spec {reason : Option String}
    (h : Commits (reversePayment now payment userId reason) db result db') :
    (result = none ∧ db = db' ∧ (payment.direction ≠ .Refund →
        ∀ original, findBySource db payment.companyId .Payment payment.id = some original →
          original.lines = [])) ∨
      ∃ original entry db₁, findBySource db payment.companyId .Payment payment.id = some original ∧
        result = some entry ∧ entry.lines = original.lines.map (reversedLine payment) ∧
        entry.status = .Posted ∧ entry.companyId = payment.companyId ∧
        entry.sourceType = some .Manual ∧ SequencesOnly db db₁ ∧ EntryAdded db₁ entry db' := by
  unfold reversePayment at h
  split at h
  · rename_i hrefund
    obtain ⟨rfl, rfl⟩ := (commits_pure _ _ _ _).1 h
    exact .inl ⟨rfl, rfl, fun hne => absurd hrefund hne⟩
  · simp only [commits_bind, commits_get] at h
    obtain ⟨_, _, ⟨rfl, rfl⟩, h⟩ := h
    split at h
    · rename_i hnone
      obtain ⟨rfl, rfl⟩ := (commits_pure _ _ _ _).1 h
      refine .inl ⟨rfl, rfl, fun _ original horiginal => ?_⟩
      rw [hnone] at horiginal
      cases horiginal
    · rename_i original horiginal
      split at h
      · rename_i hempty
        obtain ⟨rfl, rfl⟩ := (commits_pure _ _ _ _).1 h
        refine .inl ⟨rfl, rfl, fun _ original' horiginal' => ?_⟩
        obtain rfl := Option.some.inj (horiginal.symm.trans horiginal')
        exact List.length_eq_zero_iff.1 hempty
      · simp only [commits_bind, commits_map] at h
        obtain ⟨sourceId, db₁, hid, entry, hcreate, rfl⟩ := h
        obtain ⟨-, hposted, hcompany, htype, -, hlines, hfresh, -, hadded⟩ :=
          createInternal_spec hcreate
        exact .inr ⟨original, entry, db₁, horiginal, rfl, hlines, hposted, hcompany, htype,
          (randomUUID_spec hid).1, hfresh, hadded⟩

/-! ## What a posting leaves alone -/

/-- `db'` is `db` up to the ledger and the sequences. -/
def LedgerOnly (db db' : Db) : Prop :=
  db' = { db with ledger := db'.ledger, sequences := db'.sequences }

theorem LedgerOnly.refl (db : Db) : LedgerOnly db db := rfl

theorem LedgerOnly.trans {db₁ db₂ : Db} (h₁ : LedgerOnly db db₁) (h₂ : LedgerOnly db₁ db₂) :
    LedgerOnly db db₂ := by
  unfold LedgerOnly at h₁ h₂ ⊢
  rw [h₁] at h₂
  exact h₂

theorem LedgerOnly.of_sequences (h : SequencesOnly db db') : LedgerOnly db db' := by
  unfold LedgerOnly
  rw [h]

theorem LedgerOnly.of_periods (h : PeriodsOnly db db') : LedgerOnly db db' := by
  unfold LedgerOnly
  rw [h]

theorem EntryAdded.ledgerOnly (h : EntryAdded db entry db') : LedgerOnly db db' := by
  obtain ⟨-, db₁, hperiods, rfl⟩ := h
  exact (LedgerOnly.of_periods hperiods).trans rfl

theorem EntryAdded.entries {e : JournalEntry} (h : EntryAdded db entry db')
    (he : e ∈ db'.ledger.journalEntries.rows) : e = entry ∨ e ∈ db.ledger.journalEntries.rows := by
  obtain ⟨-, db₁, -, rfl⟩ := h
  exact ((Table.mem_save _ _ _).1 he).imp_right And.left

theorem mem_of_findBySource {companyId sourceId : Uuid} {sourceType : JournalSourceType}
    {e : JournalEntry} (h : findBySource db companyId sourceType sourceId = some e) :
    e ∈ db.ledger.journalEntries.rows ∧ e.companyId = companyId ∧
      e.sourceType = some sourceType ∧ e.sourceId = some sourceId := by
  have hp := List.find?_some h
  simp only [decide_eq_true_eq] at hp
  exact ⟨List.mem_of_find?_eq_some h, hp⟩

theorem postPayment_touches
    (h : Commits (postPayment now payment paymentMethod customer supplier userId) db entry db') :
    LedgerOnly db db' ∧ ∀ e ∈ db'.ledger.journalEntries.rows,
      e ∈ db.ledger.journalEntries.rows ∨
        (e.sourceType = some .Payment ∧ e.sourceId = some payment.id) := by
  cases hfind : findBySource db payment.companyId .Payment payment.id with
  | some existing =>
    simp only [postPayment, commits_bind, commits_get] at h
    obtain ⟨_, _, ⟨rfl, rfl⟩, h⟩ := h
    rw [hfind] at h
    obtain ⟨-, rfl⟩ := (commits_pure _ _ _ _).1 h
    exact ⟨LedgerOnly.refl db, fun e he => .inl he⟩
  | none =>
    obtain ⟨_, _, -, -, -, htype, hsource, hadded⟩ := postPayment_spec hfind h
    refine ⟨hadded.ledgerOnly, fun e he => ?_⟩
    rcases hadded.entries he with rfl | he
    · exact .inr ⟨htype, hsource⟩
    · exact .inl he

theorem reversePayment_touches {reason : Option String}
    (h : Commits (reversePayment now payment userId reason) db result db') :
    LedgerOnly db db' ∧ ∀ e ∈ db'.ledger.journalEntries.rows,
      e ∈ db.ledger.journalEntries.rows ∨ e.sourceType = some .Manual := by
  rcases reversePayment_spec h with ⟨-, rfl, -⟩ |
    ⟨_, entry, db₁, -, -, -, -, -, htype, hids, hadded⟩
  · exact ⟨LedgerOnly.refl db, fun e he => .inl he⟩
  · refine ⟨(LedgerOnly.of_sequences hids).trans hadded.ledgerOnly, fun e he => ?_⟩
    rcases hadded.entries he with rfl | he
    · exact .inr htype
    · rw [show db₁.ledger = db.ledger by rw [hids]] at he
      exact .inl he

end FashionErp.AccountingPostingService
