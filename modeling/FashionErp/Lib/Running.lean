/-
Running balances.

A statement of an account lists its amounts in order, each with the balance it left
behind.
-/
import FashionErp.Lib.Ledger

namespace Lib

variable {κ M : Type} [DecidableEq κ]

section Statements

variable [AddCommGroup M]

/-- A statement that runs from `b` to `b'`: amounts with the balances they left. -/
def Running : M → List (M × M) → M → Prop
  | b, [], b' => b = b'
  | b, e :: es, b' => e.2 = b + e.1 ∧ Running e.2 es b'

/-- The lines a log holds of account `k`. -/
def statement (es : List (κ × M × M)) (k : κ) : List (M × M) :=
  (es.filter fun e => e.1 = k).map (·.2)

/-- The amounts a posting list holds for account `k`. -/
def amounts (ps : List (κ × M)) (k : κ) : List M :=
  (ps.filter fun p => p.1 = k).map (·.2)

/-- The log carries every balance: the statement of each account runs. -/
def Carries (bal : κ → M) (es : List (κ × M × M)) (bal' : κ → M) : Prop :=
  ∀ k, Running (bal k) (statement es k) (bal' k)

/-- No account is posted to again after it was posted to, but for zero amounts. -/
def OncePerKey (ps : List (κ × M)) : Prop :=
  ps.Pairwise fun p q => p.1 = q.1 → q.2 = 0

/-- The lines of a posting list, all with the balances `bal` of the end. -/
def settled (bal : κ → M) (ps : List (κ × M)) : List (κ × M × M) :=
  ps.map fun p => (p.1, p.2, bal p.1)

instance [DecidableEq M] (ps : List (κ × M)) : Decidable (OncePerKey ps) :=
  inferInstanceAs (Decidable (List.Pairwise _ _))

/-! ## One account -/

theorem running_append {es fs : List (M × M)} {b b' : M} :
    Running b (es ++ fs) b' ↔ ∃ m, Running b es m ∧ Running m fs b' := by
  induction es generalizing b with
  | nil =>
    constructor
    · intro h
      exact ⟨b, rfl, h⟩
    · rintro ⟨m, rfl, h⟩
      exact h
  | cons e es ih =>
    rw [List.cons_append, Running, ih]
    constructor
    · rintro ⟨he, m, hes, hfs⟩
      exact ⟨m, ⟨he, hes⟩, hfs⟩
    · rintro ⟨m, ⟨he, hes⟩, hfs⟩
      exact ⟨he, m, hes, hfs⟩

theorem Running.unique {es : List (M × M)} {b c c' : M} (h : Running b es c)
    (h' : Running b es c') : c = c' := by
  induction es generalizing b with
  | nil => exact h.symm.trans h'
  | cons e es ih => exact ih h.2 h'.2

theorem running_const_iff (c : M) (as : List M) :
    Running c (as.map fun a => (a, c)) c ↔ ∀ a ∈ as, a = 0 := by
  induction as with
  | nil => exact iff_of_true rfl fun _ h => absurd h List.not_mem_nil
  | cons a as ih =>
    rw [List.map_cons, Running, ih, List.forall_mem_cons, left_eq_add]

/-- Lines that all show the balance of the end: only the first may have an
amount. -/
theorem running_settled_iff (b : M) (as : List M) :
    Running b (as.map fun a => (a, b + as.sum)) (b + as.sum) ↔ ∀ a ∈ as.tail, a = 0 := by
  cases as with
  | nil => simp [Running]
  | cons a as =>
    rw [List.map_cons, Running, running_const_iff, List.tail_cons, List.sum_cons]
    constructor
    · exact fun h => h.2
    · intro h
      -- The rest adds nothing, so the end is where the first line leads.
      refine ⟨?_, h⟩
      rw [List.sum_eq_zero h, add_zero]

/-! ## A log of many accounts -/

omit [AddCommGroup M] in
theorem statement_append (es fs : List (κ × M × M)) (k : κ) :
    statement (es ++ fs) k = statement es k ++ statement fs k := by
  rw [statement, List.filter_append, List.map_append, statement, statement]

omit [AddCommGroup M] [DecidableEq κ] in
theorem settled_append (bal : κ → M) (ps qs : List (κ × M)) :
    settled bal (ps ++ qs) = settled bal ps ++ settled bal qs :=
  List.map_append

theorem carries_nil (bal : κ → M) : Carries bal [] bal := fun _ => rfl

theorem Carries.append {bal bal₁ bal₂ : κ → M} {es fs : List (κ × M × M)}
    (h : Carries bal es bal₁) (h' : Carries bal₁ fs bal₂) : Carries bal (es ++ fs) bal₂ := by
  intro k
  rw [statement_append]
  exact running_append.2 ⟨bal₁ k, h k, h' k⟩

theorem Carries.append_iff {bal bal₁ bal₂ : κ → M} {es fs : List (κ × M × M)}
    (h : Carries bal es bal₁) : Carries bal (es ++ fs) bal₂ ↔ Carries bal₁ fs bal₂ := by
  refine ⟨fun h' k => ?_, h.append⟩
  obtain ⟨m, hes, hfs⟩ := running_append.1 (statement_append es fs k ▸ h' k)
  rwa [(h k).unique hes]

theorem carries_singleton {bal bal' : κ → M} {j : κ} {a : M}
    (h : ∀ k, bal' k = bal k + if j = k then a else 0) : Carries bal [(j, a, bal' j)] bal' := by
  intro k
  by_cases hk : j = k
  · subst hk
    have hj := h j
    rw [if_pos rfl] at hj
    simp [statement, Running, hj]
  · have hk' := h k
    rw [if_neg hk, add_zero] at hk'
    simp [statement, Running, hk, hk']

theorem oncePerKey_iff (ps : List (κ × M)) :
    OncePerKey ps ↔ ∀ k, ∀ a ∈ (amounts ps k).tail, a = 0 := by
  induction ps with
  | nil => exact iff_of_true List.Pairwise.nil fun _ _ h => absurd h List.not_mem_nil
  | cons p ps ih =>
    have hcons : ∀ k, amounts (p :: ps) k =
        if p.1 = k then p.2 :: amounts ps k else amounts ps k := by
      intro k
      by_cases hk : p.1 = k <;> simp [amounts, hk]
    have hfirst : (∀ q ∈ ps, p.1 = q.1 → q.2 = 0) ↔ ∀ a ∈ amounts ps p.1, a = 0 := by
      simp only [amounts, List.mem_map, List.mem_filter, decide_eq_true_eq]
      constructor
      · rintro h a ⟨q, ⟨hq, hk⟩, rfl⟩
        exact h q hq hk.symm
      · intro h q hq hk
        exact h q.2 ⟨q, ⟨hq, hk.symm⟩, rfl⟩
    rw [OncePerKey, List.pairwise_cons, hfirst]
    change _ ∧ OncePerKey ps ↔ _
    rw [ih]
    constructor
    · rintro ⟨hp, hps⟩ k
      rw [hcons]
      split
      · rename_i hk
        subst hk
        exact hp
      · exact hps k
    · intro h
      have hp := h p.1
      rw [hcons, if_pos rfl] at hp
      refine ⟨hp, fun k a ha => ?_⟩
      by_cases hk : p.1 = k
      · subst hk
        exact hp a (List.mem_of_mem_tail ha)
      · have hk' := h k
        rw [hcons, if_neg hk] at hk'
        exact hk' a ha

omit [DecidableEq κ] in
theorem oncePerKey_map_of_injective {κ' : Type} {g : κ → κ'}
    (hg : Function.Injective g) (ps : List (κ × M)) :
    OncePerKey (ps.map fun p => (g p.1, p.2)) ↔ OncePerKey ps := by
  simp only [OncePerKey, List.pairwise_map, hg.eq_iff]

/-- Writing the balances of the end carries exactly when no account is posted
to twice. -/
theorem carries_settled_iff {bal bal' : κ → M} {ps : List (κ × M)}
    (h : ∀ k, bal' k = bal k + net ps k) : Carries bal (settled bal' ps) bal' ↔ OncePerKey ps := by
  have hstatement : ∀ k, statement (settled bal' ps) k =
      (amounts ps k).map fun a => (a, bal' k) := by
    intro k
    rw [statement, settled, List.filter_map, List.map_map, amounts, List.map_map]
    refine List.map_congr_left fun p hp => ?_
    have hk : p.1 = k := of_decide_eq_true (List.mem_filter.1 hp).2
    simp only [Function.comp_apply, hk]
  rw [oncePerKey_iff]
  refine forall_congr' fun k => ?_
  rw [hstatement, h k]
  exact running_settled_iff (bal k) (amounts ps k)

end Statements

end Lib
