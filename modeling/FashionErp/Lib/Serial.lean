/-
Requests served one after the other.

Each request is a transaction body; a rejected one is rolled back and leaves the
database as it was, and the next request is served from there.
-/
import FashionErp.Lib.Machine
import FashionErp.Lib.Tx

namespace Lib

variable {σ ε ℓ : Type}

def serial (call : ℓ → Tx σ ε Unit) : Machine σ ℓ where
  step s l := some (Tx.run (call l) s).2

variable {call : ℓ → Tx σ ε Unit}

theorem serial_cases {s s' : σ} {l : ℓ} (h : (serial call).step s l = some s') :
    (s' = s ∧ ∀ u s₁, ¬ Commits (call l) s u s₁) ∨ ∃ u, Commits (call l) s u s' := by
  cases h
  rcases run_cases (call l) s with ⟨u, s₁, hcommits, hrun⟩ | ⟨e, hrejects, hrun⟩
  · rw [hrun]
    exact .inr ⟨u, hcommits⟩
  · rw [hrun]
    refine .inl ⟨rfl, fun u s₁ hcommits => ?_⟩
    rw [Commits, show call l s = .error e from hrejects] at hcommits
    cases hcommits

theorem serial_commits {s s' s₁ : σ} {l : ℓ} {u : Unit}
    (h : (serial call).step s l = some s') (hcommits : Commits (call l) s u s₁) : s' = s₁ := by
  rcases serial_cases h with ⟨-, hnone⟩ | ⟨u', hcommits'⟩
  · exact absurd hcommits (hnone u s₁)
  · exact (hcommits'.unique hcommits).2

end Lib
