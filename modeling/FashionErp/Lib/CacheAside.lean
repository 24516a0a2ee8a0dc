/-
Rows and a cache of them that writers clear after they have written.

Each row counts its versions, so that "a later value" is a larger number.
-/
import Mathlib.Data.Nat.Notation
import Mathlib.Logic.Function.Basic

namespace Lib

structure Versioned (α : Type) where
  value : α
  version : ℕ

structure CacheAside (κ α : Type) where
  rows : κ → Option (Versioned α)
  cache : κ → Option (Versioned α)

namespace CacheAside

variable {κ α : Type} [DecidableEq κ]

def version (c : CacheAside κ α) (k : κ) : ℕ := (c.rows k).elim 0 Versioned.version

def put (c : CacheAside κ α) (k : κ) (value : α) : CacheAside κ α :=
  { c with rows := Function.update c.rows k (some ⟨value, c.version k + 1⟩) }

def fill (c : CacheAside κ α) (k : κ) (entry : Versioned α) : CacheAside κ α :=
  { c with cache := Function.update c.cache k (some entry) }

def drop (c : CacheAside κ α) (k : κ) : CacheAside κ α :=
  { c with cache := Function.update c.cache k none }

/-! ## Versions -/

variable {c : CacheAside κ α} {k j : κ} {value : α} {entry : Versioned α}

omit [DecidableEq κ] in
theorem version_of_rows (h : c.rows k = some entry) : c.version k = entry.version := by
  rw [version, h]
  rfl

theorem version_put_self : (c.put k value).version k = c.version k + 1 := by
  simp [version, put]

theorem version_put_ne (h : j ≠ k) : (c.put k value).version j = c.version j := by
  simp [version, put, Function.update_of_ne h]

/-- Rows only move on. -/
theorem version_le_put : c.version j ≤ (c.put k value).version j := by
  by_cases h : j = k
  · subst h
    rw [version_put_self]
    exact Nat.le_succ _
  · exact Nat.le_of_eq (version_put_ne h).symm

/-! ## Entries behind their rows -/

def Covered (c : CacheAside κ α) (pending : κ → ℕ → Prop) : Prop :=
  ∀ k e, c.cache k = some e → e.version = c.version k ∨ pending k (e.version + 1)

variable {pending pending' : κ → ℕ → Prop}

theorem Covered.put (h : c.Covered pending) (hmono : ∀ j w, pending j w → pending' j w)
    (hnew : pending' k (c.version k + 1)) : (c.put k value).Covered pending' := by
  intro j e he
  rcases h j e he with hrow | hpending
  · by_cases hj : j = k
    · subst hj
      rw [hrow]
      exact .inr hnew
    · rw [version_put_ne hj]
      exact .inl hrow
  · exact .inr (hmono _ _ hpending)

theorem Covered.fill (h : c.Covered pending)
    (hentry : entry.version = c.version k ∨ pending k (entry.version + 1)) :
    (c.fill k entry).Covered pending := by
  intro j e he
  by_cases hj : j = k
  · subst hj
    have heq : (c.fill j entry).cache j = some entry := Function.update_self ..
    obtain rfl := Option.some.inj (heq.symm.trans he)
    exact hentry
  · have heq : (c.fill k entry).cache j = c.cache j := Function.update_of_ne hj ..
    exact h j e (heq.symm.trans he)

theorem Covered.drop (h : c.Covered pending)
    (hothers : ∀ j w, j ≠ k → pending j w → pending' j w) : (c.drop k).Covered pending' := by
  intro j e he
  by_cases hj : j = k
  · subst hj
    have heq : (c.drop j).cache j = none := Function.update_self ..
    rw [heq] at he
    cases he
  · have heq : (c.drop k).cache j = c.cache j := Function.update_of_ne hj ..
    rcases h j e (heq.symm.trans he) with hrow | hpending
    · exact .inl hrow
    · exact .inr (hothers j _ hj hpending)

omit [DecidableEq κ] in
theorem Covered.mono (h : c.Covered pending) (hmono : ∀ j w, pending j w → pending' j w) :
    c.Covered pending' :=
  fun k e he => (h k e he).imp_right (hmono k _)

omit [DecidableEq κ] in
/-- A hit is not older than `floor`, which the row had reached, if every pending writer
comes after it. -/
theorem Covered.hit (h : c.Covered pending) (hentry : c.cache k = some entry) {floor : ℕ}
    (hfloor : floor ≤ c.version k) (hlater : ∀ w, pending k w → floor < w) :
    floor ≤ entry.version := by
  rcases h k entry hentry with hrow | hpending
  · omega
  · have hlt := hlater _ hpending
    omega

end CacheAside

end Lib
