/-
Machines that take labelled steps, and what holds along their runs.

A `Machine` says what one step does: from a state, a label either leads to a next
state or is not enabled.
-/
import Mathlib.Logic.Relation

namespace Lib

/-- What a labelled step does; `none` is a step that is not enabled. -/
structure Machine (σ ℓ : Type) where
  step : σ → ℓ → Option σ

namespace Machine

variable {σ ℓ : Type} (m : Machine σ ℓ)

/-- Run a list of labels; `none` as soon as one is not enabled or breaks `C`. -/
def execWith (C : σ → ℓ → Prop) [∀ s l, Decidable (C s l)] : σ → List ℓ → Option σ
  | s, [] => some s
  | s, l :: ls => if C s l then (m.step s l).bind fun s' => execWith C s' ls else none

/-- `s'` is reached from `s` by the steps `ls`, and every step taken meets `C`. -/
inductive RunWith (C : σ → ℓ → Prop) : σ → List ℓ → σ → Prop
  | done (s : σ) : RunWith C s [] s
  | step {s s' s'' : σ} {l : ℓ} {ls : List ℓ} (hc : C s l) (hs : m.step s l = some s')
      (hrest : RunWith C s' ls s'') : RunWith C s (l :: ls) s''

/-- `s'` is reached from `s` by the steps `ls`. -/
abbrev Run : σ → List ℓ → σ → Prop := m.RunWith fun _ _ => True

/-- `s'` is reached from `s` by some steps. -/
def Reaches (s s' : σ) : Prop := ∃ ls, m.Run s ls s'

variable {m} {C : σ → ℓ → Prop}

variable {s s' : σ} {ls : List ℓ} {D : σ → ℓ → Prop} {I : σ → Prop}

theorem runWith_iff_execWith [∀ s l, Decidable (C s l)] :
    m.RunWith C s ls s' ↔ m.execWith C s ls = some s' := by
  constructor
  · intro h
    induction h with
    | done => rfl
    | step hc hs hrest ih => rw [execWith, if_pos hc, hs, Option.bind_some, ih]
  · induction ls generalizing s with
    | nil => intro h; cases h; exact .done _
    | cons l ls ih =>
      intro h
      rw [execWith] at h
      split at h
      · rename_i hc
        rw [Option.bind_eq_some_iff] at h
        obtain ⟨s₁, hs, hrest⟩ := h
        exact .step hc hs (ih hrest)
      · cases h

theorem exists_runWith (m : Machine σ ℓ) (C : σ → ℓ → Prop) [∀ s l, Decidable (C s l)] (s : σ)
    (ls : List ℓ) (p : σ → Bool) (h : (m.execWith C s ls).any p = true) :
    ∃ s', m.RunWith C s ls s' ∧ p s' = true := by
  rw [Option.any_eq_true_iff_get] at h
  obtain ⟨hsome, hp⟩ := h
  exact ⟨_, runWith_iff_execWith.2 (Option.some_get hsome).symm, hp⟩

theorem RunWith.weaken (h : m.RunWith C s ls s') (hCD : ∀ s l, C s l → D s l) :
    m.RunWith D s ls s' := by
  induction h with
  | done s => exact .done s
  | step hc hs _ ih => exact .step (hCD _ _ hc) hs ih

theorem RunWith.run (h : m.RunWith C s ls s') : m.Run s ls s' :=
  h.weaken fun _ _ _ => trivial

theorem RunWith.append {s'' : σ} {ks : List ℓ} (h : m.RunWith C s ls s')
    (h' : m.RunWith C s' ks s'') : m.RunWith C s (ls ++ ks) s'' := by
  induction h with
  | done s => exact h'
  | step hc hs _ ih => exact .step hc hs (ih h')

theorem RunWith.split {s'' : σ} {ks : List ℓ} (h : m.RunWith C s (ls ++ ks) s'') :
    ∃ s', m.RunWith C s ls s' ∧ m.RunWith C s' ks s'' := by
  induction ls generalizing s with
  | nil => exact ⟨s, .done s, h⟩
  | cons l ls ih =>
    cases h with
    | step hc hs hrest =>
      obtain ⟨s', hls, hks⟩ := ih hrest
      exact ⟨s', .step hc hs hls, hks⟩

theorem RunWith.unique {s₁ s₂ : σ} (h₁ : m.RunWith C s ls s₁) (h₂ : m.RunWith D s ls s₂) :
    s₁ = s₂ := by
  induction h₁ with
  | done s =>
    cases h₂
    rfl
  | step _ hs _ ih =>
    cases h₂ with
    | step _ hs' hrest =>
      obtain rfl := Option.some.inj (hs.symm.trans hs')
      exact ih hrest

theorem runWith_congr (hstep : ∀ s l s', I s → m.step s l = some s' → I s')
    (hCD : ∀ s l, I s → (C s l ↔ D s l)) (h₀ : I s) :
    m.RunWith C s ls s' ↔ m.RunWith D s ls s' := by
  constructor
  · intro h
    induction h with
    | done s => exact .done s
    | step hc hs _ ih => exact .step ((hCD _ _ h₀).1 hc) hs (ih (hstep _ _ _ h₀ hs))
  · intro h
    induction h with
    | done s => exact .done s
    | step hd hs _ ih => exact .step ((hCD _ _ h₀).2 hd) hs (ih (hstep _ _ _ h₀ hs))

theorem RunWith.invariant (h : m.RunWith C s ls s') (h₀ : I s)
    (hstep : ∀ s l s', I s → C s l → m.step s l = some s' → I s') : I s' := by
  induction h with
  | done s => exact h₀
  | step hc hs _ ih => exact ih (hstep _ _ _ h₀ hc hs)

theorem Reaches.invariant (h : m.Reaches s s') (h₀ : I s)
    (hstep : ∀ s l s', I s → m.step s l = some s' → I s') : I s' := by
  obtain ⟨ls, hrun⟩ := h
  exact hrun.invariant h₀ fun s l s' hI _ hs => hstep s l s' hI hs

/-- Guarded invariant rule, both ways. Let every step that meets `C` keep `I`,
let `I` imply `P`, and let every step out of `I` that ends in `P` meet `C`. Then
`P` holds after every prefix of a run exactly when all of its steps meet `C`. -/
theorem prefixes_iff_runWith {P : σ → Prop}
    (hstep : ∀ s l s', I s → C s l → m.step s l = some s' → I s') (hIP : ∀ s, I s → P s)
    (hexact : ∀ s l s', I s → m.step s l = some s' → P s' → C s l) (h₀ : I s) (hrun : m.Run s ls s') :
    (∀ ks, ks <+: ls → ∀ s₁, m.Run s ks s₁ → P s₁) ↔ m.RunWith C s ls s' := by
  induction hrun with
  | done s =>
    refine ⟨fun _ => .done s, fun _ ks hks s₁ hrun => ?_⟩
    obtain rfl := List.prefix_nil.1 hks
    cases hrun
    exact hIP s h₀
  | @step s s₁ s' l ls _ hs _ ih =>
    constructor
    · intro hall
      have hP : P s₁ := hall [l] ⟨ls, rfl⟩ s₁ (.step trivial hs (.done s₁))
      have hc : C s l := hexact s l s₁ h₀ hs hP
      refine .step hc hs ((ih (hstep s l s₁ h₀ hc hs)).1 fun ks hks s₂ hrun => ?_)
      exact hall (l :: ks) (List.cons_prefix_cons.2 ⟨rfl, hks⟩) s₂ (.step trivial hs hrun)
    · rintro (_ | ⟨hc, hs', hrest⟩) ks hks s₂ hrun
      obtain rfl := Option.some.inj (hs.symm.trans hs')
      cases ks with
      | nil =>
        cases hrun
        exact hIP s h₀
      | cons k ks =>
        -- The first step of the prefix is the first step of the run.
        obtain ⟨rfl, hrest'⟩ := List.cons_prefix_cons.1 hks
        cases hrun with
        | step _ hk hrun =>
          obtain rfl := Option.some.inj (hs.symm.trans hk)
          exact (ih (hstep s k s₁ h₀ hc hs)).2 hrest ks hrest' s₂ hrun

/-- The step `l` out of `s` relates its two ends by `Q`, if it is taken at all. -/
def Steps (m : Machine σ ℓ) (Q : σ → σ → Prop) (s : σ) (l : ℓ) : Prop :=
  ∀ s', m.step s l = some s' → Q s s'

/-- Guarded step rule, both ways. Let every step that meets `C` keep `I` and
relate its ends by `Q`, and let every step out of `I` that relates its ends by `Q`
meet `C`. Then all steps of a run relate their ends by `Q` exactly when all of them
meet `C`. -/
theorem steps_iff_runWith {Q : σ → σ → Prop}
    (hstep : ∀ s l s', I s → C s l → m.step s l = some s' → I s' ∧ Q s s')
    (hexact : ∀ s l s', I s → m.step s l = some s' → Q s s' → C s l) (h₀ : I s)
    (hrun : m.Run s ls s') : m.RunWith (m.Steps Q) s ls s' ↔ m.RunWith C s ls s' := by
  induction hrun with
  | done s => exact ⟨fun _ => .done s, fun _ => .done s⟩
  | @step s s₁ s' l ls _ hs _ ih =>
    constructor
    · rintro (_ | ⟨hQ, hs', hrest⟩)
      obtain rfl := Option.some.inj (hs.symm.trans hs')
      have hc : C s l := hexact s l s₁ h₀ hs (hQ s₁ hs)
      exact .step hc hs ((ih (hstep s l s₁ h₀ hc hs).1).1 hrest)
    · rintro (_ | ⟨hc, hs', hrest⟩)
      obtain rfl := Option.some.inj (hs.symm.trans hs')
      obtain ⟨hI, hQ⟩ := hstep s l s₁ h₀ hc hs
      refine .step (fun s₂ hs₂ => ?_) hs ((ih hI).2 hrest)
      obtain rfl := Option.some.inj (hs.symm.trans hs₂)
      exact hQ

theorem relates_iff_steps {Q : σ → σ → Prop} (hrefl : ∀ s, Q s s)
    (htrans : ∀ s₁ s₂ s₃, Q s₁ s₂ → Q s₂ s₃ → Q s₁ s₃) (hrun : m.Run s ls s') :
    (∀ ks ks', ks ++ ks' <+: ls → ∀ s₁ s₂, m.Run s ks s₁ → m.Run s₁ ks' s₂ → Q s₁ s₂) ↔
      m.RunWith (m.Steps Q) s ls s' := by
  induction hrun with
  | done s =>
    refine ⟨fun _ => .done s, fun _ ks ks' hks s₁ s₂ hrun hrun' => ?_⟩
    obtain ⟨rfl, rfl⟩ := List.append_eq_nil_iff.1 (List.prefix_nil.1 hks)
    cases hrun
    cases hrun'
    exact hrefl s
  | @step s s₀ s' l ls _ hs _ ih =>
    constructor
    · intro hall
      refine .step (fun s₁ hs₁ => ?_) hs (ih.1 fun ks ks' hks s₁ s₂ hrun hrun' => ?_)
      · exact hall [] [l] ⟨ls, rfl⟩ s s₁ (.done s) (.step trivial hs₁ (.done s₁))
      · exact hall (l :: ks) ks' (List.cons_prefix_cons.2 ⟨rfl, hks⟩) s₁ s₂
          (.step trivial hs hrun) hrun'
    · rintro (_ | ⟨hQ, hs', hrest⟩) ks ks' hks s₁ s₂ hrun hrun'
      obtain rfl := Option.some.inj (hs.symm.trans hs')
      have hlater := ih.2 hrest
      cases ks with
      | cons k ks =>
        obtain ⟨rfl, htail⟩ := List.cons_prefix_cons.1 hks
        cases hrun with
        | step _ hk hrun =>
          obtain rfl := Option.some.inj (hs.symm.trans hk)
          exact hlater ks ks' htail s₁ s₂ hrun hrun'
      | nil =>
        cases hrun
        cases ks' with
        | nil =>
          cases hrun'
          exact hrefl s
        | cons k ks' =>
          -- From the first state: across the first step, and on from there.
          obtain ⟨rfl, htail⟩ := List.cons_prefix_cons.1 hks
          cases hrun' with
          | step _ hk hrun' =>
            obtain rfl := Option.some.inj (hs.symm.trans hk)
            exact htrans _ _ _ (hQ s₀ hs) (hlater [] ks' htail s₀ s₂ (.done s₀) hrun')

end Machine

end Lib
