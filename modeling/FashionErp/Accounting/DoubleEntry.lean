/-
`accounting/utils/double-entry.ts`: what a journal must satisfy to be posted.

Every line is one-sided, and debits and credits add up to the same number of cents.
-/
import FashionErp.Core.Db
import Mathlib.Algebra.Order.BigOperators.Group.List

namespace FashionErp

open Lib Lib.Tx

/-- `assertOneSidedLine`. Amounts are cents already, so `toCents` is the identity. -/
def assertOneSidedLine (line : JournalEntryLine) : DbTx Unit := do
  rejectIf (line.debitAmount < 0 ∨ line.creditAmount < 0)
    (appException .ValidationError "debitAmount and creditAmount must not be negative")
  rejectIf (0 < line.debitAmount ↔ 0 < line.creditAmount)
    (appException .ValidationError "Each journal entry line must have exactly one of debitAmount/creditAmount greater than zero (never both, never neither)")

/-- One iteration of the loop of `assertBalanced`. -/
def addLine (totals : Cents × Cents) (line : JournalEntryLine) : DbTx (Cents × Cents) := do
  assertOneSidedLine line
  return (totals.1 + line.debitAmount, totals.2 + line.creditAmount)

/-- `assertBalanced`; the result is `totalDebit` and `totalCredit`. -/
def assertBalanced (lines : List JournalEntryLine) : DbTx (Cents × Cents) := do
  rejectIf (lines.length = 0)
    (appException .ValidationError "A journal entry must have at least one line")
  let totals ← lines.foldlM addLine (0, 0)
  let debit := toFixed2 totals.1
  let credit := toFixed2 totals.2
  rejectIf (totals.1 ≠ totals.2)
    (appException .ValidationError s!"Journal entry is not balanced: total debit ({debit}) does not equal total credit ({credit})")
  return totals

/-! ## What the checks say -/

def JournalEntryLine.OneSided (line : JournalEntryLine) : Prop :=
  (0 < line.debitAmount ∧ line.creditAmount = 0) ∨ (line.debitAmount = 0 ∧ 0 < line.creditAmount)

def debitTotal (lines : List JournalEntryLine) : Cents := (lines.map (·.debitAmount)).sum

def creditTotal (lines : List JournalEntryLine) : Cents := (lines.map (·.creditAmount)).sum

/-- The double-entry invariant of the lines of a posted journal. -/
structure Balanced (lines : List JournalEntryLine) : Prop where
  nonempty : lines ≠ []
  oneSided : ∀ line ∈ lines, line.OneSided
  equal : debitTotal lines = creditTotal lines

theorem commits_assertOneSidedLine (line : JournalEntryLine) (db : Db) (u : Unit) (db' : Db) :
    Commits (assertOneSidedLine line) db u db' ↔ line.OneSided ∧ db = db' := by
  simp only [assertOneSidedLine, commits_bind, commits_rejectIf]
  have hiff : (¬ (line.debitAmount < 0 ∨ line.creditAmount < 0) ∧
      ¬ (0 < line.debitAmount ↔ 0 < line.creditAmount)) ↔ line.OneSided := by
    unfold JournalEntryLine.OneSided
    lia
  constructor
  · rintro ⟨_, _, ⟨hsign, rfl⟩, hside, rfl⟩
    exact ⟨hiff.1 ⟨hsign, hside⟩, rfl⟩
  · rintro ⟨hone, rfl⟩
    exact ⟨⟨⟩, db, ⟨(hiff.2 hone).1, rfl⟩, (hiff.2 hone).2, rfl⟩

theorem commits_addLines (lines : List JournalEntryLine) (totals : Cents × Cents) (db : Db)
    (result : Cents × Cents) (db' : Db) :
    Commits (lines.foldlM addLine totals) db result db' ↔
      (∀ line ∈ lines, line.OneSided) ∧
        result = (totals.1 + debitTotal lines, totals.2 + creditTotal lines) ∧ db = db' := by
  induction lines generalizing totals db with
  | nil => simp [debitTotal, creditTotal]
  | cons line lines ih =>
    have hdebit : debitTotal (line :: lines) = line.debitAmount + debitTotal lines := rfl
    have hcredit : creditTotal (line :: lines) = line.creditAmount + creditTotal lines := rfl
    rw [commits_foldlM_cons, List.forall_mem_cons, hdebit, hcredit, ← add_assoc, ← add_assoc]
    simp only [ih, addLine, commits_bind, commits_assertOneSidedLine, commits_pure]
    constructor
    · rintro ⟨_, _, ⟨_, _, ⟨hone, rfl⟩, rfl, rfl⟩, hrest, rfl, rfl⟩
      exact ⟨⟨hone, hrest⟩, rfl, rfl⟩
    · rintro ⟨⟨hone, hrest⟩, rfl, rfl⟩
      exact ⟨_, db, ⟨⟨⟩, db, ⟨hone, rfl⟩, rfl, rfl⟩, hrest, rfl, rfl⟩

/-- `assertBalanced` passes exactly the balanced lists, and returns their totals. -/
@[simp] theorem commits_assertBalanced (lines : List JournalEntryLine) (db : Db)
    (totals : Cents × Cents) (db' : Db) :
    Commits (assertBalanced lines) db totals db' ↔
      Balanced lines ∧ totals = (debitTotal lines, creditTotal lines) ∧ db = db' := by
  simp only [assertBalanced, commits_bind, commits_rejectIf, commits_addLines, commits_pure,
    List.length_eq_zero_iff, zero_add, not_not]
  constructor
  · rintro ⟨_, _, ⟨hne, rfl⟩, _, _, ⟨hone, rfl, rfl⟩, _, _, ⟨heq, rfl⟩, rfl, rfl⟩
    exact ⟨⟨hne, hone, heq⟩, rfl, rfl⟩
  · rintro ⟨⟨hne, hone, heq⟩, rfl, rfl⟩
    exact ⟨⟨⟩, db, ⟨hne, rfl⟩, _, db, ⟨hone, rfl, rfl⟩, ⟨⟩, db, ⟨heq, rfl⟩, rfl, rfl⟩

theorem Balanced.two_le_length {lines : List JournalEntryLine} (h : Balanced lines) :
    2 ≤ lines.length := by
  obtain ⟨hne, hone, heq⟩ := h
  match lines, hne with
  | [line], _ =>
    have hline := hone line List.mem_cons_self
    simp only [debitTotal, creditTotal, List.map_cons, List.map_nil, List.sum_cons,
      List.sum_nil] at heq
    unfold JournalEntryLine.OneSided at hline
    lia
  | _ :: _ :: _, _ =>
    simp only [List.length_cons]
    omega

end FashionErp
