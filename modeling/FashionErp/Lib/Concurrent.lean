/-
Processes that share a database and its row locks.

`Shared` is the committed database, the holder of every row lock and the phase each
process is in.
-/
import FashionErp.Lib.Machine
import Mathlib.Data.Nat.Notation
import Mathlib.Logic.Function.Basic

namespace Lib

/-- The shared state: the committed database, the holder of every row lock, and
where each process stands. -/
structure Shared (σ κ π : Type) where
  db : σ
  lock : κ → Option ℕ
  phase : ℕ → π

/-- What a process does in one step, ending in phase `p`. -/
inductive Move (σ κ π : Type)
  /-- Go on; nobody sees it. -/
  | goto (p : π)
  /-- Take a row lock, as soon as no other process holds it. -/
  | acquire (k : κ) (p : π)
  /-- Commit: the database is replaced and every lock given back. -/
  | commit (db : σ) (p : π)
  /-- Leave: every lock is given back and nothing has happened. -/
  | leave (p : π)

def Move.dest {σ κ π : Type} : Move σ κ π → π
  | .goto p => p
  | .acquire _ p => p
  | .commit _ p => p
  | .leave p => p

def Move.map {σ κ π π' : Type} (f : π → π') : Move σ κ π → Move σ κ π'
  | .goto p => .goto (f p)
  | .acquire k p => .acquire k (f p)
  | .commit db p => .commit db (f p)
  | .leave p => .leave (f p)

def Move.relock {σ κ κ' π : Type} (g : κ → κ') : Move σ κ π → Move σ κ' π
  | .goto p => .goto p
  | .acquire k p => .acquire (g k) p
  | .commit db p => .commit db p
  | .leave p => .leave p

/-- The moves of every process, by its phase, the committed database and a label. -/
abbrev Protocol (σ κ π ℓ : Type) := ℕ → ℓ → π → σ → Option (Move σ κ π)

namespace Shared

variable {σ κ π ℓ : Type} [DecidableEq κ]

/-- Process `i` holds the lock of `k`. -/
def Holds (s : Shared σ κ π) (i : ℕ) (k : κ) : Prop := s.lock k = some i

/-- The locks once process `i` has given its own back. -/
def release (lock : κ → Option ℕ) (i : ℕ) (k : κ) : Option ℕ :=
  if lock k = some i then none else lock k

/-- Process `i` makes a move; `none` while it has to wait for a lock. -/
def move (s : Shared σ κ π) (i : ℕ) : Move σ κ π → Option (Shared σ κ π)
  | .goto p => some { s with phase := Function.update s.phase i p }
  | .acquire k p =>
    if s.lock k = none ∨ s.lock k = some i then
      some { s with
        lock := Function.update s.lock k (some i)
        phase := Function.update s.phase i p }
    else
      none
  | .commit db p => some ⟨db, release s.lock i, Function.update s.phase i p⟩
  | .leave p => some ⟨s.db, release s.lock i, Function.update s.phase i p⟩

/-- Every process in phase `p`, and no lock held. -/
def start (db : σ) (p : π) : Shared σ κ π := ⟨db, fun _ => none, fun _ => p⟩

end Shared

variable {σ κ π ℓ : Type} [DecidableEq κ]

/-- All interleavings of the steps of a protocol. -/
def concurrent (P : Protocol σ κ π ℓ) : Machine (Shared σ κ π) (ℕ × ℓ) where
  step s l := (P l.1 l.2 (s.phase l.1) s.db).bind (s.move l.1)

namespace Shared

/-- `G` holds of the committed database and `Ok` of every process, given the locks
it holds. -/
structure Inv (G : σ → Prop) (Ok : (κ → Prop) → σ → ℕ → π → Prop) (s : Shared σ κ π) : Prop where
  db : G s.db
  phase : ∀ i, Ok (s.Holds i) s.db i (s.phase i)

/-- What a move of process `i`, which holds `held`, has to establish. -/
def MoveOk (G : σ → Prop) (Ok : (κ → Prop) → σ → ℕ → π → Prop) (held : κ → Prop) (db : σ)
    (i : ℕ) : Move σ κ π → Prop
  | .goto p => Ok held db i p
  | .acquire k p => Ok (fun j => j = k ∨ held j) db i p
  | .commit db' p => G db' ∧ Ok (fun _ => False) db' i p
  | .leave p => Ok (fun _ => False) db i p

omit [DecidableEq κ] in
theorem holds_release_self (lock : κ → Option ℕ) (i : ℕ) (k : κ) : release lock i k ≠ some i := by
  unfold release
  split
  · exact fun h => by cases h
  · assumption

variable {i : ℕ}

omit [DecidableEq κ] in
theorem holds_release_of_ne (lock : κ → Option ℕ) {j : ℕ} (hne : j ≠ i) (k : κ) :
    release lock i k = some j ↔ lock k = some j := by
  unfold release
  split
  · rename_i hk
    rw [hk]
    constructor
    · intro h
      cases h
    · intro h
      exact absurd (Option.some.inj h).symm hne
  · rfl

variable {P : Protocol σ κ π ℓ} {Ok : (κ → Prop) → σ → ℕ → π → Prop} {s s' : Shared σ κ π}

/-- The step rule. A step keeps the invariant if the move establishes the next
phase of its process and, where it commits, the phases of the others, whose locks
are not held by the process that commits. -/
theorem Inv.step {G : σ → Prop} {l : ℓ} (h : s.Inv G Ok)
    (hs : (concurrent P).step s (i, l) = some s')
    (hown : ∀ m, P i l (s.phase i) s.db = some m → MoveOk G Ok (s.Holds i) s.db i m)
    (hothers : ∀ db' p, P i l (s.phase i) s.db = some (.commit db' p) → ∀ j, j ≠ i → ∀ held : κ → Prop, (∀ k, held k → ¬ s.Holds i k) → Ok held s.db j (s.phase j) → Ok held db' j (s.phase j)) :
    s'.Inv G Ok := by
  obtain ⟨m, hm, hmove⟩ := Option.bind_eq_some_iff.1 hs
  have hok := hown m hm
  have hnot : ∀ k, ¬ (release s.lock i k = some i) := holds_release_self s.lock i
  have hempty : (fun k => release s.lock i k = some i) = fun _ : κ => False :=
    funext fun k => eq_false (hnot k)
  have hsame : ∀ j, j ≠ i → (fun k => release s.lock i k = some j) = s.Holds j :=
    fun j hj => funext fun k => propext (holds_release_of_ne s.lock hj k)
  cases m with
  | goto p =>
    cases hmove
    refine ⟨h.db, fun j => ?_⟩
    show Ok (s.Holds j) s.db j (Function.update s.phase i p j)
    by_cases hj : j = i
    · subst hj
      rw [Function.update_self]
      exact hok
    · rw [Function.update_of_ne hj]
      exact h.phase j
  | acquire k p =>
    simp only [move] at hmove
    split at hmove
    · rename_i hfree
      cases hmove
      refine ⟨h.db, fun j => ?_⟩
      show Ok (fun k' => Function.update s.lock k (some i) k' = some j) s.db j
        (Function.update s.phase i p j)
      by_cases hj : j = i
      · subst hj
        have hheld : (fun k' => Function.update s.lock k (some j) k' = some j) =
            fun k' => k' = k ∨ s.Holds j k' := by
          funext k'
          by_cases hk : k' = k
          · subst hk
            simp
          · simp only [Function.update_of_ne hk, hk, false_or]
            rfl
        rw [Function.update_self, hheld]
        exact hok
      · have hheld : (fun k' => Function.update s.lock k (some i) k' = some j) = s.Holds j := by
          funext k'
          by_cases hk : k' = k
          · subst hk
            have hij : ¬ i = j := fun e => hj e.symm
            rw [Function.update_self, Holds]
            rcases hfree with hfree | hfree <;> simp [hfree, hij]
          · rw [Function.update_of_ne hk]
            rfl
        rw [Function.update_of_ne hj, hheld]
        exact h.phase j
    · cases hmove
  | commit db' p =>
    cases hmove
    refine ⟨hok.1, fun j => ?_⟩
    show Ok (fun k => release s.lock i k = some j) db' j (Function.update s.phase i p j)
    by_cases hj : j = i
    · subst hj
      rw [Function.update_self, hempty]
      exact hok.2
    · rw [Function.update_of_ne hj, hsame j hj]
      refine hothers db' p hm j hj _ (fun k hk hi => hj ?_) (h.phase j)
      exact Option.some.inj (hk.symm.trans hi)
  | leave p =>
    cases hmove
    refine ⟨h.db, fun j => ?_⟩
    show Ok (fun k => release s.lock i k = some j) s.db j (Function.update s.phase i p j)
    by_cases hj : j = i
    · subst hj
      rw [Function.update_self, hempty]
      exact hok
    · rw [Function.update_of_ne hj, hsame j hj]
      exact h.phase j

omit [DecidableEq κ] in
theorem inv_start {G : σ → Prop} {db : σ} {p : π} (hdb : G db) (hp : ∀ i held, Ok held db i p) :
    (start db p : Shared σ κ π).Inv G Ok :=
  ⟨hdb, fun i => hp i _⟩

theorem step_move {l : ℓ} (hs : (concurrent P).step s (i, l) = some s') :
    ∃ m, P i l (s.phase i) s.db = some m ∧ s.move i m = some s' :=
  Option.bind_eq_some_iff.1 hs

theorem step_db {l : ℓ} (hs : (concurrent P).step s (i, l) = some s') :
    s'.db = s.db ∨ ∃ p, P i l (s.phase i) s.db = some (.commit s'.db p) := by
  obtain ⟨m, hm, hmove⟩ := Option.bind_eq_some_iff.1 hs
  cases m with
  | goto p =>
    cases hmove
    exact .inl rfl
  | acquire k p =>
    simp only [move] at hmove
    split at hmove
    · cases hmove
      exact .inl rfl
    · cases hmove
  | commit db' p =>
    cases hmove
    exact .inr ⟨p, hm⟩
  | leave p =>
    cases hmove
    exact .inl rfl

theorem step_phase {l : ℓ} (hs : (concurrent P).step s (i, l) = some s') :
    ∃ m, P i l (s.phase i) s.db = some m ∧ s'.phase = Function.update s.phase i m.dest := by
  obtain ⟨m, hm, hmove⟩ := Option.bind_eq_some_iff.1 hs
  refine ⟨m, hm, ?_⟩
  cases m with
  | acquire k p =>
    simp only [move] at hmove
    split at hmove
    · cases hmove
      rfl
    · cases hmove
  | _ =>
    cases hmove
    rfl

theorem MoveOk.db_eq {held : κ → Prop} {db : σ} {m : Move σ κ π}
    (hok : MoveOk (fun _ => False) Ok held db i m) (hmove : s.move i m = some s') :
    s'.db = s.db := by
  cases m with
  | commit db' p => exact hok.1.elim
  | acquire k p =>
    simp only [move] at hmove
    split at hmove
    · cases hmove
      rfl
    · cases hmove
  | _ =>
    cases hmove
    rfl

end Shared

end Lib
