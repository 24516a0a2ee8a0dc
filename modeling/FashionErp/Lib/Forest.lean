/-
Forests given by a parent function, and their upkeep by changing one parent at a time.

`Climbs parent x y` says that following `parent` from `x` comes to `y`.
-/
import Mathlib.Data.Finset.Card

namespace Lib

variable {κ : Type} {parent : κ → Option κ}

/-- Following `parent` from `x` comes to `y`. -/
def Climbs (parent : κ → Option κ) : κ → κ → Prop :=
  Relation.ReflTransGen fun x y => parent x = some y

/-- Following `parent` from `x` ends, at a node without a parent. -/
def Rooted (parent : κ → Option κ) (x : κ) : Prop := ∃ r, Climbs parent x r ∧ parent r = none

variable {x y : κ}

theorem climbs_of_parent {z : κ} (h : parent x = some y) (hxz : Climbs parent x z) :
    z = x ∨ Climbs parent y z := by
  rcases Relation.ReflTransGen.cases_head hxz with heq | ⟨y', hy', hrest⟩
  · exact .inl heq.symm
  · obtain rfl := Option.some.inj (h.symm.trans hy')
    exact .inr hrest

theorem climbs_of_parent_none {z : κ} (h : parent x = none) (hxz : Climbs parent x z) : z = x := by
  rcases Relation.ReflTransGen.cases_head hxz with heq | ⟨y, hy, -⟩
  · exact heq.symm
  · rw [h] at hy
    cases hy

theorem Rooted.of_parent (h : parent x = some y) (hy : Rooted parent y) : Rooted parent x := by
  obtain ⟨r, hr, hnone⟩ := hy
  exact ⟨r, .head h hr, hnone⟩

theorem Rooted.climb (h : Rooted parent x) (hxy : Climbs parent x y) : Rooted parent y := by
  induction hxy using Relation.ReflTransGen.head_induction_on with
  | refl => exact h
  | @head x z hxz _ ih =>
    refine ih ?_
    obtain ⟨r, hr, hnone⟩ := h
    rcases climbs_of_parent hxz hr with rfl | hzr
    · rw [hxz] at hnone
      cases hnone
    · exact ⟨r, hzr, hnone⟩

/-- A node that climbs back to itself is not rooted. -/
theorem not_rooted_of_cycle (hxy : parent x = some y) (hyx : Climbs parent y x) :
    ¬ Rooted parent x := by
  rintro ⟨r, hr, hnone⟩
  -- Whatever `x` comes to comes to `x`.
  have hback : Climbs parent r x := by
    clear hnone
    induction hr with
    | refl => exact .refl
    | @tail b c _ hbc ih =>
      rcases climbs_of_parent hbc ih with rfl | h
      · obtain rfl := Option.some.inj (hxy.symm.trans hbc)
        exact hyx
      · exact h
  obtain rfl := climbs_of_parent_none hnone hback
  rw [hxy] at hnone
  cases hnone

/-- Following `parent` from `x` comes back to it. -/
def OnCycle (parent : κ → Option κ) (x : κ) : Prop := ∃ y, parent x = some y ∧ Climbs parent y x

theorem Rooted.not_onCycle (h : Rooted parent x) : ¬ OnCycle parent x := by
  rintro ⟨y, hxy, hyx⟩
  exact not_rooted_of_cycle hxy hyx h

theorem rooted_of_not_onCycle [DecidableEq κ] (inner : Finset κ)
    (hinner : ∀ y z, Climbs parent x y → parent y = some z → y ∈ inner)
    (hno : ∀ y, Climbs parent x y → ¬ OnCycle parent y) : Rooted parent x := by
  induction hcard : inner.card using Nat.strongRecOn generalizing x inner with
  | ind n ih =>
    cases hx : parent x with
    | none => exact ⟨x, .refl, hx⟩
    | some y =>
      have hlt := Finset.card_erase_lt_of_mem (hinner x y .refl hx)
      refine .of_parent hx (ih _ (hcard ▸ hlt) (inner.erase x) ?_ (fun z hz => hno z (.head hx hz)) rfl)
      intro z w hz hw
      refine Finset.mem_erase.2 ⟨?_, hinner z w (.head hx hz) hw⟩
      rintro rfl
      exact hno z .refl ⟨y, hx, hz⟩

theorem Rooted.not_climbs_parent (h : Rooted parent x) (hxy : parent x = some y) :
    ¬ Climbs parent y x := fun hyx => not_rooted_of_cycle hxy hyx h

/-! ## Changing a parent -/

section

variable [DecidableEq κ] {a : κ} {o : Option κ}

theorem climbs_update_of_not (hx : ¬ Climbs parent x a) (hxy : Climbs parent x y) :
    Climbs (Function.update parent a o) x y := by
  induction hxy using Relation.ReflTransGen.head_induction_on with
  | refl => exact .refl
  | @head x z hxz _ ih =>
    have hne : x ≠ a := by
      rintro rfl
      exact hx .refl
    refine .head ?_ (ih fun hz => hx (.head hxz hz))
    rw [Function.update_of_ne hne]
    exact hxz

theorem climbs_update_to (hx : Climbs parent x a) : Climbs (Function.update parent a o) x a := by
  induction hx using Relation.ReflTransGen.head_induction_on with
  | refl => exact .refl
  | @head x z hxz _ ih =>
    by_cases hne : x = a
    · rw [hne]
      exact .refl
    · refine .head ?_ ih
      rw [Function.update_of_ne hne]
      exact hxz

theorem rooted_update_of_not (h : Rooted parent x) (hx : ¬ Climbs parent x a) :
    Rooted (Function.update parent a o) x := by
  obtain ⟨r, hr, hnone⟩ := h
  refine ⟨r, climbs_update_of_not hx hr, ?_⟩
  have hne : r ≠ a := by
    rintro rfl
    exact hx hr
  rw [Function.update_of_ne hne]
  exact hnone

omit [DecidableEq κ] in
theorem rooted_of_climbs (hxy : Climbs parent x y) (hy : Rooted parent y) : Rooted parent x := by
  obtain ⟨r, hr, hnone⟩ := hy
  exact ⟨r, Relation.ReflTransGen.trans hxy hr, hnone⟩

theorem rooted_update_none (h : ∀ x, Rooted parent x) (x : κ) :
    Rooted (Function.update parent a none) x := by
  by_cases hx : Climbs parent x a
  · exact rooted_of_climbs (climbs_update_to hx) ⟨a, .refl, Function.update_self ..⟩
  · exact rooted_update_of_not (h x) hx

/-- Giving a node a parent keeps a forest exactly when the parent does not climb to it. -/
theorem rooted_update_iff (h : ∀ x, Rooted parent x) {p : κ} :
    (∀ x, Rooted (Function.update parent a (some p)) x) ↔ ¬ Climbs parent p a := by
  have ha : Function.update parent a (some p) a = some p := Function.update_self ..
  constructor
  · intro hall hp
    exact not_rooted_of_cycle ha (climbs_update_to hp) (hall a)
  · intro hp x
    have hrooted : Rooted (Function.update parent a (some p)) a :=
      .of_parent ha (rooted_update_of_not (h p) hp)
    by_cases hx : Climbs parent x a
    · exact rooted_of_climbs (climbs_update_to hx) hrooted
    · exact rooted_update_of_not (h x) hx

omit [DecidableEq κ] in
theorem not_climbs_of_childless {p : κ} (hchild : ∀ x, parent x ≠ some a) (hp : p ≠ a) :
    ¬ Climbs parent p a := by
  intro h
  rcases Relation.ReflTransGen.cases_tail h with heq | ⟨x, -, hx⟩
  · exact hp heq.symm
  · exact hchild x hx

end

/-! ## Looking -/

section

variable [DecidableEq κ]

/-- Look for `a` from `x` upwards, at `budget` nodes at most; `true` is that there is an end
without `a`. -/
def walk (parent : κ → Option κ) (a : κ) : ℕ → κ → Bool
  | 0, _ => false
  | budget + 1, x =>
    if x = a then false
    else
      match parent x with
      | none => true
      | some y => walk parent a budget y

variable {budget : ℕ}

theorem not_climbs_of_walk {a : κ} (h : walk parent a budget x = true) : ¬ Climbs parent x a := by
  induction budget generalizing x with
  | zero => cases h
  | succ budget ih =>
    unfold walk at h
    split at h
    · cases h
    · rename_i hne
      intro hclimb
      split at h
      · rename_i hnone
        exact hne (climbs_of_parent_none hnone hclimb).symm
      · rename_i y hy
        rcases climbs_of_parent hy hclimb with heq | hclimb
        · exact hne heq.symm
        · exact ih h hclimb

theorem rooted_of_walk {a : κ} (h : walk parent a budget x = true) : Rooted parent x := by
  induction budget generalizing x with
  | zero => cases h
  | succ budget ih =>
    unfold walk at h
    split at h
    · cases h
    · split at h
      · rename_i hnone
        exact ⟨x, .refl, hnone⟩
      · rename_i y hy
        exact .of_parent hy (ih h)

theorem walk_of_not_climbs {a : κ} (hrooted : Rooted parent x)
    (hnot : ¬ Climbs parent x a) (inner : Finset κ)
    (hinner : ∀ y z, Climbs parent x y → parent y = some z → y ∈ inner)
    (hbudget : inner.card < budget) : walk parent a budget x = true := by
  induction budget generalizing x inner with
  | zero => omega
  | succ budget ih =>
    have hne : x ≠ a := by
      rintro rfl
      exact hnot .refl
    unfold walk
    rw [if_neg hne]
    split
    · rfl
    · rename_i y hy
      have hx : x ∈ inner := hinner x y .refl hy
      refine ih (hrooted.climb (.single hy)) (fun h => hnot (.head hy h)) (inner.erase x) ?_ ?_
      · intro z w hz hw
        refine Finset.mem_erase.2 ⟨?_, hinner z w (.head hy hz) hw⟩
        rintro rfl
        exact hrooted.not_climbs_parent hy hz
      · have hcard := Finset.card_erase_lt_of_mem hx
        omega

/-- A walk with budget enough passes exactly when `a` is not there. -/
theorem walk_iff {a : κ} (hrooted : Rooted parent x) (inner : Finset κ)
    (hinner : ¬ Climbs parent x a → ∀ y z, Climbs parent x y → parent y = some z → y ∈ inner)
    (hbudget : inner.card < budget) : walk parent a budget x = true ↔ ¬ Climbs parent x a :=
  ⟨not_climbs_of_walk, fun hnot => walk_of_not_climbs hrooted hnot inner (hinner hnot) hbudget⟩

end

end Lib
