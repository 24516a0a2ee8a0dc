/-
A list that is read a page at a time, where each page says where to go on.

`Follows` is a reader that goes on until no page follows.
-/
import Mathlib.Data.List.Basic

namespace Lib.Cursor

variable {σ ρ α β : Type}

/-- What a reader gets from `s` on; `page` is what is answered to it, and where to go on. -/
inductive Follows (page : σ → Option (ρ × Option σ)) : σ → List ρ → Prop
  | last {s : σ} {r : ρ} (h : page s = some (r, none)) : Follows page s [r]
  | more {s s' : σ} {r : ρ} {rs : List ρ} (h : page s = some (r, some s')) (hrest : Follows page s' rs) :
      Follows page s (r :: rs)

variable {page : σ → Option (ρ × Option σ)}

theorem not_follows_of_none {s : σ} {rs : List ρ} (h : page s = none) : ¬ Follows page s rs := by
  intro hfollows
  cases hfollows with
  | last hpage => cases h.symm.trans hpage
  | more hpage _ => cases h.symm.trans hpage

/-- The page at `s` is the piece of `rows` from `position s` on, and the next one starts where it
ends, further on. -/
structure Reads (rows : List α) (position : σ → ℕ) (considered : ρ → List α) (s : σ) (r : ρ)
    (next : Option σ) : Prop where
  piece : ∃ n, considered r = (rows.drop (position s)).take n ∧
    (∀ s' ∈ next, position s' = position s + n ∧ 0 < n ∧ position s + n ≤ rows.length) ∧
    (next = none → rows.length ≤ position s + n)

variable {considered : ρ → List α}

/-- The pages are the list, and there are only so many. -/
theorem exists_follows {rows : List α} {position : σ → ℕ} {I : σ → Prop}
    (hpage : ∀ s, I s → ∃ r next, page s = some (r, next) ∧
      Reads rows position considered s r next ∧ ∀ s' ∈ next, I s')
    {s : σ} (hs : I s) :
    ∃ rs, Follows page s rs ∧ rs.flatMap considered = rows.drop (position s) := by
  -- Every page gets nearer to the end.
  induction hleft : rows.length - position s using Nat.strongRecOn generalizing s with
  | ind left ih =>
    obtain ⟨r, next, hr, ⟨n, hpiece, hmore, hlast⟩, hnext⟩ := hpage s hs
    cases next with
    | none =>
      refine ⟨[r], .last hr, ?_⟩
      rw [List.flatMap_singleton, hpiece]
      refine List.take_of_length_le ?_
      rw [List.length_drop]
      have hend := hlast rfl
      omega
    | some s' =>
      obtain ⟨hposition, hn, hle⟩ := hmore s' rfl
      obtain ⟨rs, hrs, hrest⟩ := ih (rows.length - position s') (by omega) (hnext s' rfl) rfl
      refine ⟨r :: rs, .more hr hrs, ?_⟩
      rw [List.flatMap_cons, hpiece, hrest, hposition, ← List.drop_drop, List.take_append_drop]

theorem Follows.shown {shown : ρ → List β} {card : α → Option β}
    {I : σ → Prop} (hpage : ∀ s r next, I s → page s = some (r, next) →
      shown r = (considered r).filterMap card ∧ ∀ s' ∈ next, I s')
    {s : σ} {rs : List ρ} (h : Follows page s rs) (hs : I s) :
    rs.flatMap shown = (rs.flatMap considered).filterMap card := by
  induction h with
  | last hr =>
    rw [List.flatMap_singleton, List.flatMap_singleton]
    exact (hpage _ _ _ hs hr).1
  | more hr _ ih =>
    obtain ⟨hshown, hnext⟩ := hpage _ _ _ hs hr
    rw [List.flatMap_cons, List.flatMap_cons, List.filterMap_append, hshown, ih (hnext _ rfl)]

end Lib.Cursor
