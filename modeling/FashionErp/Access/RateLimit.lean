/-
`CacheService.increment`, the counter behind the rate limits, called any number of times at once.

Redis carries out one command after the other.
-/
import FashionErp.Lib.Machine
import Mathlib.Data.Nat.Notation
import Mathlib.Logic.Function.Basic

namespace FashionErp.RateLimit

open Lib

structure Counter where
  count : ℕ
  expiresAt : Option ℕ := none
  deriving DecidableEq

inductive Phase
  | idle
  | called
  /-- INCR has answered `1`, and EXPIRE is next. -/
  | expiring
  deriving DecidableEq

structure State where
  now : ℕ := 0
  counter : Option Counter := none
  phase : ℕ → Phase := fun _ => .idle

inductive Label
  | call (i : ℕ)
  | incr (i : ℕ)
  | incrLost (i : ℕ)
  | expire (i : ℕ)
  /-- The next command of the call fails, or the process ends. -/
  | cut (i : ℕ)
  | tick (seconds : ℕ)

def State.setPhase (s : State) (i : ℕ) (p : Phase) : State :=
  { s with phase := Function.update s.phase i p }

def State.incr (s : State) : Counter :=
  match s.counter with
  | none => { count := 1 }
  | some c => { c with count := c.count + 1 }

def State.expire (ttlSeconds : ℕ) (s : State) : Option Counter :=
  if ttlSeconds = 0 then none
  else s.counter.map fun c => { c with expiresAt := some (s.now + ttlSeconds) }

def Counter.alive (now : ℕ) (c : Counter) : Bool := c.expiresAt.all fun e => now < e

/-- `increment(key, ttlSeconds)`, one command at a time. -/
def step (ttlSeconds : ℕ) (s : State) : Label → Option State
  | .call i => if s.phase i = .idle then some (s.setPhase i .called) else none
  | .incr i =>
    if s.phase i = .called then
      let s' := { s with counter := some s.incr }
      some (s'.setPhase i (if s.incr.count = 1 then .expiring else .idle))
    else none
  | .incrLost i =>
    if s.phase i = .called then some ({ s with counter := some s.incr }.setPhase i .idle) else none
  | .expire i =>
    if s.phase i = .expiring then
      some ({ s with counter := s.expire ttlSeconds }.setPhase i .idle)
    else none
  | .cut i => if s.phase i ≠ .idle then some (s.setPhase i .idle) else none
  | .tick seconds =>
    let now := s.now + seconds
    some { s with now, counter := s.counter.filter (Counter.alive now) }

def machine (ttlSeconds : ℕ) : Machine State Label := { step := step ttlSeconds }

/-- The counter expires: while nobody is counting, it has an expiry, in `ttlSeconds` at most. -/
def Expires (ttlSeconds : ℕ) (s : State) : Prop :=
  (∀ i, s.phase i = .idle) → ∀ c ∈ s.counter, ∃ e ∈ c.expiresAt, e ≤ s.now + ttlSeconds

/-- The condition on a step: the call that makes the counter learns of it, and is not cut off
before its EXPIRE. -/
def Completes (s : State) : Label → Prop
  | .incrLost _ => s.counter ≠ none
  | .cut i => s.phase i ≠ .expiring
  | _ => True

instance (s : State) (l : Label) : Decidable (Completes s l) := by
  cases l <;> unfold Completes <;> infer_instance

/-! ## What holds of every state -/

def Orphaned (s : State) : Prop :=
  ∃ c ∈ s.counter, 1 ≤ c.count ∧ c.expiresAt = none ∧ ∀ i, s.phase i ≠ .expiring

/-- What every call keeps: one call at most is to set the expiry, and only of a counter that
has none. -/
structure Inv (ttlSeconds : ℕ) (s : State) : Prop where
  counted : ∀ c ∈ s.counter, 1 ≤ c.count
  bounded : ∀ c ∈ s.counter, ∀ e ∈ c.expiresAt, e ≤ s.now + ttlSeconds
  expiring : ∀ i, s.phase i = .expiring → ∃ c ∈ s.counter, c.expiresAt = none
  one : ∀ i j, s.phase i = .expiring → s.phase j = .expiring → i = j

variable {ttlSeconds : ℕ} {s s' : State} {l : Label}

theorem inv_start : Inv ttlSeconds {} where
  counted c h := by cases h
  bounded c h := by cases h
  expiring i h := by cases h
  one i j h := by cases h

@[simp] theorem setPhase_counter (s : State) (i : ℕ) (p : Phase) :
    (s.setPhase i p).counter = s.counter := rfl

theorem setPhase_self (s : State) (i : ℕ) (p : Phase) : (s.setPhase i p).phase i = p :=
  Function.update_self ..

theorem setPhase_ne {i j : ℕ} (h : j ≠ i) (s : State) (p : Phase) :
    (s.setPhase i p).phase j = s.phase j :=
  Function.update_of_ne h ..

theorem phase_of_setPhase {i j : ℕ} {p q : Phase} (h : (s.setPhase i p).phase j = q) (hp : p ≠ q) :
    j ≠ i ∧ s.phase j = q := by
  by_cases hj : j = i
  · subst hj
    rw [setPhase_self] at h
    exact absurd h hp
  · rw [setPhase_ne hj] at h
    exact ⟨hj, h⟩

theorem Inv.setPhase (h : Inv ttlSeconds s) (i : ℕ) {p : Phase} (hp : p ≠ .expiring) :
    Inv ttlSeconds (s.setPhase i p) where
  counted := h.counted
  bounded := h.bounded
  expiring j hj := h.expiring j (phase_of_setPhase hj hp).2
  one j k hj hk := h.one j k (phase_of_setPhase hj hp).2 (phase_of_setPhase hk hp).2

theorem incr_cases (s : State) : (s.counter = none ∧ s.incr = { count := 1 }) ∨
    ∃ c, s.counter = some c ∧ s.incr = { c with count := c.count + 1 } := by
  unfold State.incr
  cases hcounter : s.counter with
  | none => exact .inl ⟨rfl, rfl⟩
  | some c => exact .inr ⟨c, rfl, rfl⟩

theorem Inv.incr (h : Inv ttlSeconds s) : Inv ttlSeconds { s with counter := some s.incr } := by
  rcases incr_cases s with ⟨hnone, hincr⟩ | ⟨c, hsome, hincr⟩
  · refine ⟨fun c hc => ?_, fun c hc e he => ?_, fun i hi => ?_, h.one⟩
    · have hcount : c.count = 1 := by rw [← Option.some.inj hc, hincr]
      exact Nat.le_of_eq hcount.symm
    · rw [← Option.some.inj hc, hincr] at he
      cases he
    · obtain ⟨c, hc, -⟩ := h.expiring i hi
      rw [hnone] at hc
      cases hc
  · refine ⟨fun c' hc => ?_, fun c' hc e he => ?_, fun i hi => ?_, h.one⟩
    · rw [← Option.some.inj hc, hincr]
      exact Nat.le_add_left ..
    · rw [← Option.some.inj hc, hincr] at he
      exact h.bounded c hsome e he
    · obtain ⟨c', hc', hnone⟩ := h.expiring i hi
      obtain rfl := Option.some.inj (hsome.symm.trans hc')
      exact ⟨_, rfl, by rw [hincr]; exact hnone⟩

theorem counter_of_count_one (h : Inv ttlSeconds s) (hcount : s.incr.count = 1) :
    s.counter = none ∧ s.incr.expiresAt = none := by
  rcases incr_cases s with ⟨hnone, hincr⟩ | ⟨c, hsome, hincr⟩
  · exact ⟨hnone, by rw [hincr]⟩
  · have hpos := h.counted c hsome
    rw [hincr] at hcount
    dsimp only at hcount
    omega

theorem Inv.tick (h : Inv ttlSeconds s) (now : ℕ) (hnow : s.now ≤ now) :
    Inv ttlSeconds { s with now, counter := s.counter.filter (Counter.alive now) } where
  counted c hc := h.counted c (Option.filter_eq_some_iff.1 hc).1
  bounded c hc e he := by
    have hle := h.bounded c (Option.filter_eq_some_iff.1 hc).1 e he
    exact Nat.le_trans hle (Nat.add_le_add_right hnow _)
  expiring i hi := by
    obtain ⟨c, hc, hnone⟩ := h.expiring i hi
    refine ⟨c, Option.filter_eq_some_iff.2 ⟨hc, ?_⟩, hnone⟩
    rw [Counter.alive, hnone]
    rfl
  one := h.one

theorem inv_step (h : Inv ttlSeconds s) (hs : (machine ttlSeconds).step s l = some s') :
    Inv ttlSeconds s' := by
  cases l with
  | call i =>
    simp only [machine, step] at hs
    split at hs
    · cases hs
      exact h.setPhase i nofun
    · cases hs
  | incr i =>
    simp only [machine, step] at hs
    split at hs
    · cases hs
      by_cases hcount : s.incr.count = 1
      · obtain ⟨hnone, hexpires⟩ := counter_of_count_one h hcount
        -- There was no counter, so nobody else is at its expiry.
        have hothers : ∀ j, s.phase j ≠ .expiring := by
          intro j hj
          obtain ⟨c, hc, -⟩ := h.expiring j hj
          rw [hnone] at hc
          cases hc
        rw [if_pos hcount]
        have hself : ∀ j, ({ s with counter := some s.incr }.setPhase i .expiring).phase j =
            .expiring → j = i := by
          intro j hj
          by_contra hne
          rw [setPhase_ne hne] at hj
          exact hothers j hj
        exact ⟨h.incr.counted, h.incr.bounded, fun j _ => ⟨_, rfl, hexpires⟩,
          fun j k hj hk => (hself j hj).trans (hself k hk).symm⟩
      · rw [if_neg hcount]
        exact h.incr.setPhase i nofun
    · cases hs
  | incrLost i =>
    simp only [machine, step] at hs
    split at hs
    · cases hs
      exact h.incr.setPhase i nofun
    · cases hs
  | expire i =>
    simp only [machine, step] at hs
    split at hs
    · rename_i hphase
      cases hs
      have hothers : ∀ j, ({ s with counter := s.expire ttlSeconds }.setPhase i .idle).phase j ≠
          .expiring := by
        intro j hj
        obtain ⟨hne, hj⟩ := phase_of_setPhase hj nofun
        exact hne (h.one j i hj hphase)
      refine ⟨fun c hc => ?_, fun c hc e he => ?_, fun j hj => absurd hj (hothers j),
        fun j k hj => absurd hj (hothers j)⟩
      · rw [setPhase_counter, State.expire] at hc
        split at hc
        · cases hc
        · obtain ⟨c₀, hc₀, rfl⟩ := Option.map_eq_some_iff.1 hc
          exact h.counted c₀ hc₀
      · rw [setPhase_counter, State.expire] at hc
        split at hc
        · cases hc
        · obtain ⟨c₀, hc₀, rfl⟩ := Option.map_eq_some_iff.1 hc
          rw [← Option.some.inj he]
          exact Nat.le_refl _
    · cases hs
  | cut i =>
    simp only [machine, step] at hs
    split at hs
    · cases hs
      exact h.setPhase i nofun
    · cases hs
  | tick seconds =>
    cases hs
    exact h.tick _ (Nat.le_add_right ..)

/-! ## Counters nobody gives an expiry -/

theorem orphaned_step (h : Orphaned s) (hs : (machine ttlSeconds).step s l = some s') :
    Orphaned s' := by
  obtain ⟨c, hc, hpos, hnone, hnobody⟩ := h
  have hincr : s.incr = { c with count := c.count + 1 } := by
    unfold State.incr
    rw [show s.counter = some c from hc]
  have hmore : 1 ≤ s.incr.count ∧ s.incr.expiresAt = none := by
    rw [hincr]
    exact ⟨Nat.le_add_left .., hnone⟩
  have hset : ∀ (t : State) (i : ℕ) (p : Phase), t.phase = s.phase → p ≠ .expiring →
      ∀ j, (t.setPhase i p).phase j ≠ .expiring := by
    intro t i p ht hp j hj
    have hphase := (phase_of_setPhase hj hp).2
    rw [ht] at hphase
    exact hnobody j hphase
  cases l with
  | call i =>
    simp only [machine, step] at hs
    split at hs
    · cases hs
      exact ⟨c, hc, hpos, hnone, hset s i _ rfl nofun⟩
    · cases hs
  | incr i =>
    simp only [machine, step] at hs
    split at hs
    · cases hs
      have hcount : s.incr.count ≠ 1 := by
        rw [hincr]
        dsimp only
        omega
      rw [if_neg hcount]
      exact ⟨_, rfl, hmore.1, hmore.2, hset _ i _ rfl nofun⟩
    · cases hs
  | incrLost i =>
    simp only [machine, step] at hs
    split at hs
    · cases hs
      exact ⟨_, rfl, hmore.1, hmore.2, hset _ i _ rfl nofun⟩
    · cases hs
  | expire i =>
    simp only [machine, step] at hs
    split at hs
    · rename_i hphase
      exact absurd hphase (hnobody i)
    · cases hs
  | cut i =>
    simp only [machine, step] at hs
    split at hs
    · cases hs
      exact ⟨c, hc, hpos, hnone, hset s i _ rfl nofun⟩
    · cases hs
  | tick seconds =>
    cases hs
    refine ⟨c, Option.filter_eq_some_iff.2 ⟨hc, ?_⟩, hpos, hnone, hnobody⟩
    rw [Counter.alive, hnone]
    rfl

theorem not_orphaned_of {s' : State} (hnot : ¬ Orphaned s) (h : Inv ttlSeconds s)
    (hcounter : ∀ c' ∈ s'.counter, c'.expiresAt = none → ∃ c ∈ s.counter, c.expiresAt = none)
    (hphase : ∀ j, s.phase j = .expiring → s'.phase j = .expiring) : ¬ Orphaned s' := by
  rintro ⟨c', hc', -, hnone', hnobody⟩
  obtain ⟨c, hc, hnone⟩ := hcounter c' hc' hnone'
  exact hnot ⟨c, hc, h.counted c hc, hnone, fun j hj => hnobody j (hphase j hj)⟩

theorem not_orphaned_iff (h : Inv ttlSeconds s) (hnot : ¬ Orphaned s)
    (hs : (machine ttlSeconds).step s l = some s') : ¬ Orphaned s' ↔ Completes s l := by
  -- A call that is not at the expiry may go anywhere.
  have hkeeps : ∀ {t : State} {i : ℕ} {p : Phase}, t.phase = s.phase → s.phase i ≠ .expiring →
      ∀ j, s.phase j = .expiring → (t.setPhase i p).phase j = .expiring := by
    intro t i p ht hi j hj
    have hne : j ≠ i := by
      rintro rfl
      exact hi hj
    rw [setPhase_ne hne, ht]
    exact hj
  -- Counting on leaves the expiry as it was.
  have hcounts : s.counter ≠ none → ∀ c' ∈ some s.incr, c'.expiresAt = none →
      ∃ c ∈ s.counter, c.expiresAt = none := by
    intro hsome c' hc' hnone
    rcases incr_cases s with ⟨hnone', -⟩ | ⟨c, hc, hincr⟩
    · exact absurd hnone' hsome
    · refine ⟨c, hc, ?_⟩
      rw [← Option.some.inj hc', hincr] at hnone
      exact hnone
  cases l with
  | call i =>
    simp only [machine, step] at hs
    split at hs
    · rename_i hidle
      cases hs
      refine iff_of_true (not_orphaned_of hnot h (fun c hc hnone => ⟨c, hc, hnone⟩) ?_) trivial
      exact hkeeps rfl (by rw [hidle]; nofun)
    · cases hs
  | incr i =>
    simp only [machine, step] at hs
    split at hs
    · rename_i hcalled
      cases hs
      refine iff_of_true ?_ trivial
      by_cases hcount : s.incr.count = 1
      · rw [if_pos hcount]
        rintro ⟨-, -, -, -, hnobody⟩
        exact hnobody i (setPhase_self ..)
      · rw [if_neg hcount]
        refine not_orphaned_of hnot h (hcounts fun hnone => hcount ?_)
          (hkeeps rfl (by rw [hcalled]; nofun))
        rw [State.incr, hnone]
    · cases hs
  | incrLost i =>
    simp only [machine, step] at hs
    split at hs
    · rename_i hcalled
      cases hs
      constructor
      · intro hnot' hnone
        refine hnot' ⟨_, rfl, h.incr.counted _ rfl, ?_, fun j hj => ?_⟩
        · rw [State.incr, hnone]
        · obtain ⟨c, hc, -⟩ := h.expiring j (phase_of_setPhase hj nofun).2
          rw [hnone] at hc
          cases hc
      · intro hsome
        exact not_orphaned_of hnot h (hcounts hsome) (hkeeps rfl (by rw [hcalled]; nofun))
    · cases hs
  | expire i =>
    simp only [machine, step] at hs
    split at hs
    · cases hs
      refine iff_of_true ?_ trivial
      rintro ⟨c, hc, -, hnone, -⟩
      rw [setPhase_counter, State.expire] at hc
      split at hc
      · cases hc
      · obtain ⟨c₀, -, rfl⟩ := Option.map_eq_some_iff.1 hc
        cases hnone
    · cases hs
  | cut i =>
    simp only [machine, step] at hs
    split at hs
    · cases hs
      constructor
      · intro hnot' hexpiring
        obtain ⟨c, hc, hnone⟩ := h.expiring i hexpiring
        refine hnot' ⟨c, hc, h.counted c hc, hnone, fun j hj => ?_⟩
        obtain ⟨hne, hj⟩ := phase_of_setPhase hj nofun
        exact hne (h.one j i hj hexpiring)
      · intro hi
        exact not_orphaned_of hnot h (fun c hc hnone => ⟨c, hc, hnone⟩) (hkeeps rfl hi)
    · cases hs
  | tick seconds =>
    cases hs
    refine iff_of_true (not_orphaned_of hnot h (fun c hc hnone => ?_) fun _ hj => hj) trivial
    exact ⟨c, (Option.filter_eq_some_iff.1 hc).1, hnone⟩

theorem expires_of (h : Inv ttlSeconds s) (hnot : ¬ Orphaned s) : Expires ttlSeconds s := by
  intro hidle c hc
  cases hexpires : c.expiresAt with
  | none =>
    refine absurd ⟨c, hc, h.counted c hc, hexpires, fun i hi => ?_⟩ hnot
    rw [hidle i] at hi
    cases hi
  | some e => exact ⟨e, rfl, h.bounded c hc e hexpires⟩

theorem not_orphaned_start : ¬ Orphaned {} := by
  rintro ⟨c, hc, -⟩
  cases hc

/-- Counters expire in a run of any calls, however they overlap and whatever fails, if every
step completes; and in a run at whose end nobody is counting, only then. -/
theorem counters_expire_iff {ls : List Label} (hrun : (machine ttlSeconds).Run {} ls s) :
    ((machine ttlSeconds).RunWith Completes {} ls s →
      ∀ ks, ks <+: ls → ∀ s₁, (machine ttlSeconds).Run {} ks s₁ → Expires ttlSeconds s₁) ∧
    ((∀ i, s.phase i = .idle) →
      (∀ ks, ks <+: ls → ∀ s₁, (machine ttlSeconds).Run {} ks s₁ → Expires ttlSeconds s₁) →
        (machine ttlSeconds).RunWith Completes {} ls s) := by
  have hinv : ∀ {ks s₁}, (machine ttlSeconds).Run {} ks s₁ → Inv ttlSeconds s₁ := fun h =>
    h.invariant inv_start fun _ _ _ hI _ hs => inv_step hI hs
  have hexact := Machine.prefixes_iff_runWith
    (I := fun s => Inv ttlSeconds s ∧ ¬ Orphaned s) (P := fun s => ¬ Orphaned s)
    (fun _ _ _ hI hc hs => ⟨inv_step hI.1 hs, (not_orphaned_iff hI.1 hI.2 hs).2 hc⟩)
    (fun _ hI => hI.2) (fun _ _ _ hI hs hP => (not_orphaned_iff hI.1 hI.2 hs).1 hP)
    ⟨inv_start, not_orphaned_start⟩ hrun
  constructor
  · intro hcompletes ks hks s₁ hrun₁
    exact expires_of (hinv hrun₁) (hexact.2 hcompletes ks hks s₁ hrun₁)
  · intro hidle hall
    refine hexact.1 fun ks hks s₁ hrun₁ horphan => ?_
    obtain ⟨ks', rfl⟩ := hks
    obtain ⟨s₂, hrun₂, hrest⟩ := hrun.split
    obtain rfl := hrun₁.unique hrun₂
    -- The orphan is still there at the end, where nobody is counting.
    obtain ⟨c, hc, -, hnone, -⟩ : Orphaned s :=
      hrest.invariant horphan fun _ _ _ h _ hs => orphaned_step h hs
    obtain ⟨e, he, -⟩ := hall _ (List.prefix_refl _) s hrun hidle c hc
    rw [hnone] at he
    cases he

/-- Two attempts, and a minute later the key is gone. -/
theorem counters_expire_iff_two_calls :
    ∃ s, (machine 60).Run {} [.call 0, .call 1, .incr 0, .incr 1, .expire 0, .tick 60] s ∧
      s.counter = none ∧ Expires 60 s := by
  obtain ⟨s, hrun, hs⟩ := Machine.exists_runWith (machine 60) Completes {}
    [.call 0, .call 1, .incr 0, .incr 1, .expire 0, .tick 60] (fun s => decide (s.counter = none))
    (by decide)
  exact ⟨s, hrun.run, of_decide_eq_true hs,
    (counters_expire_iff hrun.run).1 hrun _ (List.prefix_refl _) s hrun.run⟩

/-- The process ends between the two commands. -/
theorem counter_without_expiry :
    ∃ s, (machine 60).Run {} [.call 0, .incr 0, .cut 0, .tick 100000] s ∧
      s.counter = some { count := 1 } ∧ ¬ Expires 60 s := by
  refine ⟨_, .step trivial rfl (.step trivial rfl (.step trivial rfl (.step trivial rfl (.done _)))),
    by decide, fun h => ?_⟩
  have hidle : ∀ i, (((({} : State).setPhase 0 .called).setPhase 0 .expiring).setPhase 0 .idle).phase i
      = .idle := by
    intro i
    by_cases hi : i = 0
    · rw [hi, setPhase_self]
    · rw [setPhase_ne hi, setPhase_ne hi, setPhase_ne hi]
  obtain ⟨e, he, -⟩ := h hidle { count := 1 } (by decide)
  cases he

/-! ## The window -/

def Label.counts : Label → Bool
  | .incr _ => true
  | .incrLost _ => true
  | _ => false

theorem now_le_step (hs : (machine ttlSeconds).step s l = some s') : s.now ≤ s'.now := by
  cases l <;> simp only [machine, step] at hs <;> (try split at hs) <;> cases hs
  case tick seconds => exact Nat.le_add_right _ _
  all_goals exact Nat.le_refl _

theorem window_step (h : Inv ttlSeconds s) {c : Counter} {e : ℕ} (hc : s.counter = some c)
    (he : c.expiresAt = some e) (hs : (machine ttlSeconds).step s l = some s') (hopen : s'.now < e) :
    ∃ c', s'.counter = some c' ∧ c'.expiresAt = some e ∧
      c'.count = c.count + if l.counts then 1 else 0 := by
  have hincr : s.incr = { c with count := c.count + 1 } := by
    unfold State.incr
    rw [hc]
  cases l with
  | call i =>
    simp only [machine, step] at hs
    split at hs
    · cases hs
      exact ⟨c, hc, he, rfl⟩
    · cases hs
  | incr i =>
    simp only [machine, step] at hs
    split at hs
    · cases hs
      exact ⟨s.incr, rfl, by rw [hincr]; exact he, by rw [hincr]; rfl⟩
    · cases hs
  | incrLost i =>
    simp only [machine, step] at hs
    split at hs
    · cases hs
      exact ⟨s.incr, rfl, by rw [hincr]; exact he, by rw [hincr]; rfl⟩
    · cases hs
  | expire i =>
    simp only [machine, step] at hs
    split at hs
    · -- Only a counter without an expiry is waited for.
      rename_i hexpiring
      obtain ⟨c', hc', hnone⟩ := h.expiring i hexpiring
      obtain rfl := Option.some.inj (hc.symm.trans hc')
      rw [he] at hnone
      cases hnone
    · cases hs
  | cut i =>
    simp only [machine, step] at hs
    split at hs
    · cases hs
      exact ⟨c, hc, he, rfl⟩
    · cases hs
  | tick seconds =>
    cases hs
    refine ⟨c, Option.filter_eq_some_iff.2 ⟨hc, ?_⟩, he, rfl⟩
    unfold Counter.alive
    rw [he]
    exact decide_eq_true hopen

/-- A window neither moves nor miscounts: until it ends, its expiry stays and every INCR of every
call is counted once, however the calls overlap and whatever fails. -/
theorem window_counts_exactly {ls : List Label} (hreach : (machine ttlSeconds).Reaches {} s)
    {c : Counter} {e : ℕ} (hc : s.counter = some c) (he : c.expiresAt = some e)
    (hrun : (machine ttlSeconds).Run s ls s') (hopen : s'.now < e) :
    ∃ c', s'.counter = some c' ∧ c'.expiresAt = some e ∧
      c'.count = c.count + ls.countP Label.counts := by
  have hinv : Inv ttlSeconds s := hreach.invariant inv_start fun _ _ _ h hs => inv_step h hs
  clear hreach
  induction hrun generalizing c with
  | done s => exact ⟨c, hc, he, rfl⟩
  | @step s s₁ s' l ls _ hs hrest ih =>
    have hle : s₁.now ≤ s'.now := hrest.invariant (I := fun t => s₁.now ≤ t.now) (Nat.le_refl _)
      fun _ _ _ hle _ hs => Nat.le_trans hle (now_le_step hs)
    obtain ⟨c₁, hc₁, he₁, hcount₁⟩ := window_step hinv hc he hs (Nat.lt_of_le_of_lt hle hopen)
    obtain ⟨c', hc', he', hcount⟩ := ih hc₁ he₁ hopen (inv_step hinv hs)
    refine ⟨c', hc', he', ?_⟩
    rw [hcount, hcount₁, List.countP_cons]
    omega

theorem window_counts_exactly_three_calls :
    ∃ s s' c', (machine 60).Run s [.call 1, .incr 1, .call 2, .incrLost 2] s' ∧
      s'.counter = some c' ∧ c'.expiresAt = some 60 ∧ c'.count = 3 := by
  let more : List Label := [.call 1, .incr 1, .call 2, .incrLost 2]
  obtain ⟨s, hrun, hs⟩ := Machine.exists_runWith (machine 60) (fun _ _ => True) {}
    [.call 0, .incr 0, .expire 0]
    (fun s => decide (s.counter = some { count := 1, expiresAt := some 60 }) &&
      ((machine 60).execWith (fun _ _ => True) s more).any fun s' : State => decide (s'.now < 60)) (by decide)
  rw [Bool.and_eq_true, decide_eq_true_eq] at hs
  obtain ⟨s', hlater, hopen⟩ := Machine.exists_runWith (machine 60) (fun _ _ => True) s more _ hs.2
  obtain ⟨c', hc', he', hcount⟩ :=
    window_counts_exactly ⟨_, hrun⟩ hs.1 rfl hlater (of_decide_eq_true hopen)
  exact ⟨s, s', c', hlater, hc', he', hcount⟩

end FashionErp.RateLimit
