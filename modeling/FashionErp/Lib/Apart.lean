/-
Rows that take up room, no two of them the same.

`occ r` is the set of points a row takes up: none at all when the row is not in force, a
window of time on one key otherwise.
-/
import FashionErp.Lib.Table
import Mathlib.Data.Set.Disjoint

namespace Lib

/-! ## Windows -/

section

variable {τ : Type} [LinearOrder τ]

/-- The points from `a` on and before the end, if there is one. -/
def upTo (a : τ) (b : Option τ) : Set τ := {t | a ≤ t ∧ ∀ e ∈ b, t < e}

/-- The points from `a` on and not after the end, if there is one. -/
def through (a : τ) (b : Option τ) : Set τ := {t | a ≤ t ∧ ∀ e ∈ b, t ≤ e}

instance (a t : τ) (b : Option τ) : Decidable (t ∈ upTo a b) :=
  inferInstanceAs (Decidable (_ ∧ ∀ e ∈ b, t < e))

instance (a t : τ) (b : Option τ) : Decidable (t ∈ through a b) :=
  inferInstanceAs (Decidable (_ ∧ ∀ e ∈ b, t ≤ e))

variable {b : Option τ}

theorem mem_upTo_of_le {a s t : τ} (ht : t ∈ upTo a b) (has : a ≤ s) (hst : s ≤ t) :
    s ∈ upTo a b := ⟨has, fun e he => lt_of_le_of_lt hst (ht.2 e he)⟩

theorem mem_through_of_le {a s t : τ} (ht : t ∈ through a b) (has : a ≤ s)
    (hst : s ≤ t) : s ∈ through a b := ⟨has, fun e he => le_trans hst (ht.2 e he)⟩

/-- Where two windows meet. -/
theorem exists_mem_upTo_iff {a c : τ} {d : Option τ} :
    (∃ t, t ∈ upTo a b ∧ t ∈ upTo c d) ↔ max a c ∈ upTo a b ∧ max a c ∈ upTo c d := by
  constructor
  · rintro ⟨t, hab, hcd⟩
    have hle : max a c ≤ t := max_le hab.1 hcd.1
    exact ⟨mem_upTo_of_le hab (le_max_left a c) hle, mem_upTo_of_le hcd (le_max_right a c) hle⟩
  · intro h
    exact ⟨max a c, h⟩

theorem exists_mem_through_iff {a c : τ} {d : Option τ} : (∃ t, t ∈ through a b ∧ t ∈ through c d) ↔
      max a c ∈ through a b ∧ max a c ∈ through c d := by
  constructor
  · rintro ⟨t, hab, hcd⟩
    have hle : max a c ≤ t := max_le hab.1 hcd.1
    exact ⟨mem_through_of_le hab (le_max_left a c) hle, mem_through_of_le hcd (le_max_right a c) hle⟩
  · intro h
    exact ⟨max a c, h⟩

end

/-! ## Tables whose rows are apart -/

section

variable {ρ κ α : Type} [Keyed ρ κ] [DecidableEq κ]

def Table.Apart (occ : ρ → Set α) (t : Table ρ) : Prop :=
  ∀ r ∈ t.rows, ∀ r' ∈ t.rows, key r ≠ key r' → ∀ x, ¬ (x ∈ occ r ∧ x ∈ occ r')

namespace Table

variable {occ : ρ → Set α} {t : Table ρ}

omit [DecidableEq κ] in
theorem apart_empty (occ : ρ → Set α) : (empty : Table ρ).Apart occ :=
  fun _ h => (List.not_mem_nil h).elim

/-- At most one row is at a point. -/
theorem Apart.unique (h : t.Apart occ) {r r' : ρ} {x : α} (hr : r ∈ t.rows) (hr' : r' ∈ t.rows)
    (hx : x ∈ occ r) (hx' : x ∈ occ r') : r = r' := by
  by_cases hkey : key r = key r'
  · exact eq_of_key hr hr' hkey
  · exact absurd ⟨hx, hx'⟩ (h r hr r' hr' hkey x)

theorem Apart.countP_le_one (h : t.Apart occ) {x : α} [∀ r, Decidable (x ∈ occ r)] :
    t.rows.countP (fun r => x ∈ occ r) ≤ 1 := by
  rw [List.countP_eq_length_filter]
  have hnodup : (t.rows.filter fun r => x ∈ occ r).Nodup := (List.Nodup.of_map _ t.nodup).filter _
  have hone : ∀ r ∈ t.rows.filter fun r => x ∈ occ r,
      ∀ r' ∈ t.rows.filter fun r => x ∈ occ r, r = r' := by
    intro r hr r' hr'
    rw [List.mem_filter, decide_eq_true_eq] at hr hr'
    exact h.unique hr.1 hr'.1 hr.2 hr'.2
  generalize (t.rows.filter fun r => x ∈ occ r) = rows at hnodup hone
  match rows with
  | [] => exact Nat.zero_le 1
  | [_] => exact Nat.le_refl 1
  | a :: b :: rest =>
    -- Two entries would be the same row twice.
    have hsame := hone a List.mem_cons_self b (List.mem_cons_of_mem _ List.mem_cons_self)
    exact absurd (hsame ▸ List.mem_cons_self) (List.nodup_cons.1 hnodup).1

theorem Apart.save_shrink (h : t.Apart occ) {r r₀ : ρ} (hr₀ : t.find? (key r) = some r₀)
    (hsub : ∀ x ∈ occ r, x ∈ occ r₀) : (t.save r).Apart occ := by
  have hkey := key_of_find? hr₀
  intro a ha b hb hne x hx
  rcases (mem_save t r a).1 ha with rfl | ⟨hold, -⟩
  · rcases (mem_save t _ b).1 hb with rfl | ⟨hb, -⟩
    · exact hne rfl
    · exact h r₀ (mem_of_find? hr₀) b hb (hkey ▸ hne) x ⟨hsub x hx.1, hx.2⟩
  · rcases (mem_save t _ b).1 hb with rfl | ⟨hb, -⟩
    · exact h a hold r₀ (mem_of_find? hr₀) (hkey ▸ hne) x ⟨hx.1, hsub x hx.2⟩
    · exact h a hold b hb hne x hx

/-- Saving a row keeps the rows apart exactly when it meets none of the others. -/
theorem apart_save_iff (h : t.Apart occ) {r : ρ} :
    (t.save r).Apart occ ↔ ∀ o ∈ t.rows, key o ≠ key r → ∀ x, ¬ (x ∈ occ o ∧ x ∈ occ r) := by
  constructor
  · intro hsave o ho hne
    exact hsave o ((mem_save t r o).2 (.inr ⟨ho, hne⟩)) r ((mem_save t r r).2 (.inl rfl)) hne
  · intro hothers a ha b hb hne x hx
    rcases (mem_save t r a).1 ha with rfl | ⟨hold, hka⟩
    · rcases (mem_save t _ b).1 hb with rfl | ⟨hb, hkb⟩
      · exact hne rfl
      · exact hothers b hb hkb x hx.symm
    · rcases (mem_save t _ b).1 hb with rfl | ⟨hb, hkb⟩
      · exact hothers a hold hka x hx
      · exact h a hold b hb hne x hx

end Table

end

/-- A search that at most one entry answers does not depend on the order. -/
theorem find?_eq_of_perm {α : Type} {p : α → Bool} {xs ys : List α} (hperm : xs.Perm ys)
    (hone : ∀ x ∈ xs, ∀ y ∈ xs, p x = true → p y = true → x = y) : xs.find? p = ys.find? p := by
  cases hx : xs.find? p with
  | none =>
    refine (List.find?_eq_none.2 fun y hy => ?_).symm
    exact List.find?_eq_none.1 hx y (hperm.mem_iff.2 hy)
  | some x =>
    have hsome : (ys.find? p).isSome := by
      rw [List.find?_isSome]
      exact ⟨x, hperm.mem_iff.1 (List.mem_of_find?_eq_some hx), List.find?_some hx⟩
    obtain ⟨y, hy⟩ := Option.isSome_iff_exists.1 hsome
    rw [hy, hone x (List.mem_of_find?_eq_some hx) y (hperm.mem_iff.2 (List.mem_of_find?_eq_some hy))
      (List.find?_some hx) (List.find?_some hy)]

end Lib
