/-
The order of days and of instants as a linear one.

`DateOnly` and `Instant` are compared field by field, as the texts of two dates are.
-/
import FashionErp.Core.Basic

namespace FashionErp

variable {a b : DateOnly}

theorem DateOnly.le_def : a ≤ b ↔ a.year < b.year ∨ (a.year = b.year ∧
      (a.month < b.month ∨ (a.month = b.month ∧ a.day ≤ b.day))) := Iff.rfl

theorem DateOnly.le_antisymm (hab : a ≤ b) (hba : b ≤ a) : a = b := by
  rw [le_def] at hab hba
  have hyear : a.year = b.year := by omega
  have hmonth : a.month = b.month := by omega
  have hday : a.day = b.day := by omega
  cases a
  cases b
  simp_all

theorem DateOnly.le_trans {c : DateOnly} (hab : a ≤ b) (hbc : b ≤ c) : a ≤ c := by
  rw [le_def] at *
  omega

theorem DateOnly.le_total (a b : DateOnly) : a ≤ b ∨ b ≤ a := by
  rw [le_def, le_def]
  omega

namespace Chronological

scoped instance : LinearOrder DateOnly where
  le_refl a := (DateOnly.le_total a a).elim id id
  le_trans _ _ _ := DateOnly.le_trans
  le_antisymm _ _ := DateOnly.le_antisymm
  le_total := DateOnly.le_total
  toDecidableLE := inferInstance
  toDecidableEq := inferInstance

end Chronological

open Chronological in
theorem Instant.le_def {a b : Instant} :
    a ≤ b ↔ a.date < b.date ∨ (a.date = b.date ∧ a.millis ≤ b.millis) := by
  rw [lt_iff_le_and_ne]
  exact Iff.rfl

namespace Chronological

scoped instance : LinearOrder Instant where
  le_refl a := Instant.le_def.2 (.inr ⟨rfl, Nat.le_refl _⟩)
  le_trans a b c hab hbc := by
    rw [Instant.le_def] at *
    rcases hab with hab | ⟨hab, hmillis⟩
    · rcases hbc with hbc | ⟨hbc, -⟩
      · exact .inl (hab.trans hbc)
      · exact .inl (hbc ▸ hab)
    · rcases hbc with hbc | ⟨hbc, hmillis'⟩
      · exact .inl (hab ▸ hbc)
      · exact .inr ⟨hab.trans hbc, hmillis.trans hmillis'⟩
  le_antisymm a b hab hba := by
    rw [Instant.le_def] at *
    rcases hab with hab | ⟨hab, hmillis⟩
    · rcases hba with hba | ⟨hba, -⟩
      · exact absurd (hab.trans hba) (lt_irrefl _)
      · exact absurd (hba ▸ hab) (lt_irrefl _)
    · rcases hba with hba | ⟨-, hmillis'⟩
      · exact absurd (hab ▸ hba) (lt_irrefl _)
      · have hsame := Nat.le_antisymm hmillis hmillis'
        cases a
        cases b
        simp_all
  le_total a b := by
    rw [Instant.le_def, Instant.le_def]
    rcases lt_trichotomy a.date b.date with h | h | h
    · exact .inl (.inl h)
    · rcases Nat.le_total a.millis b.millis with h' | h'
      · exact .inl (.inr ⟨h, h'⟩)
      · exact .inr (.inr ⟨h.symm, h'⟩)
    · exact .inr (.inl h)
  toDecidableLE := inferInstance
  toDecidableEq := inferInstance

end Chronological

end FashionErp
