/-
Deadlocks, and the order in which locks are taken.

A process waits for another if the row it wants next is held by the other; a deadlock is a
cycle of such waits. Rank the rows.
-/
import FashionErp.Lib.LineTx
import Mathlib.Data.List.Sort

namespace Lib

/-! ## Waiting -/

section Waiting

variable {σ κ π β : Type} (wants : ℕ → π → Option κ)

/-- Process `i` waits for a row that process `j` holds. -/
def Waits (s : Shared σ κ π) (i j : ℕ) : Prop :=
  j ≠ i ∧ ∃ k ∈ wants i (s.phase i), s.Holds j k

/-- A deadlock: a cycle of processes, each waiting for a row that the next one holds. -/
def Deadlocked (s : Shared σ κ π) : Prop := ∃ i, Relation.TransGen (Waits wants s) i i

variable {s : Shared σ κ π}

theorem deadlocked_of_waits {i j : ℕ} (h : Waits wants s i j)
    (h' : Waits wants s j i) : Deadlocked wants s :=
  ⟨i, .tail (.single h) h'⟩

variable [LinearOrder β] (rank : κ → β)

/-- Process `i` waits for a row below one it holds. -/
def OutOfOrder (s : Shared σ κ π) (i : ℕ) : Prop :=
  ∃ j, j ≠ i ∧ ∃ k ∈ wants i (s.phase i), s.Holds j k ∧ ∃ h, s.Holds i h ∧ rank k < rank h

variable {wants} {rank}

theorem wanted_lt (hrank : Function.Injective rank)
    (horder : ∀ i, ¬ OutOfOrder wants rank s i) {i j : ℕ}
    (h : Relation.TransGen (Waits wants s) i j) {k k' : κ} (hk : k ∈ wants i (s.phase i))
    (hk' : k' ∈ wants j (s.phase j)) {j' : ℕ} (hheld : s.Holds j' k') (hne : j' ≠ j) :
    rank k < rank k' := by
  induction h generalizing k' j' with
  | single hwait =>
    obtain ⟨-, row, hrow, hholds⟩ := hwait
    obtain rfl := Option.some.inj (hk.symm.trans hrow)
    refine lt_of_le_of_ne (not_lt.1 fun hlt => ?_) fun heq => ?_
    · exact horder _ ⟨j', hne, k', hk', hheld, k, hholds, hlt⟩
    · obtain rfl := hrank heq
      exact hne (Option.some.inj (hheld.symm.trans hholds))
  | @tail m j _ hwait ih =>
    obtain ⟨hother, row, hrow, hholds⟩ := hwait
    have hup : rank k < rank row := ih hrow hholds hother
    refine hup.trans (lt_of_le_of_ne (not_lt.1 fun hlt => ?_) fun heq => ?_)
    · exact horder _ ⟨j', hne, k', hk', hheld, row, hholds, hlt⟩
    · obtain rfl := hrank heq
      exact hne (Option.some.inj (hheld.symm.trans hholds))

theorem Deadlocked.outOfOrder (hrank : Function.Injective rank)
    (h : Deadlocked wants s) : ∃ i, OutOfOrder wants rank s i := by
  by_contra hnone
  obtain ⟨i, hcycle⟩ := h
  obtain ⟨j, ⟨hne, k, hk, hheld⟩, -⟩ := Relation.TransGen.head'_iff.1 hcycle
  exact lt_irrefl _ (wanted_lt hrank (fun i hi => hnone ⟨i, hi⟩) hcycle hk hk hheld hne)

end Waiting

/-! ## Ordered lines -/

section Lines

variable {σ κ ι ρ ε π β : Type} [LinearOrder β]

def LineTx.wants (t : LineTx σ κ ι ρ ε) : LinePhase σ ι ρ ε → Option κ
  | .checking _ _ (line :: _) => some (t.lock line)
  | _ => none

/-- The transaction that locks `rows` one after the other and checks nothing in between. -/
def LineTx.rowLocks (rows : σ → Except ε (List κ)) (finish : σ → σ → Except ε σ) :
    LineTx σ κ κ Unit ε where
  start := rows
  lock := id
  check _ _ done _ := .ok done
  finish snapshot _ := finish snapshot

def LineOrdered (t : LineTx σ κ ι ρ ε) (rank : κ → β) (held : κ → Prop) :
    LinePhase σ ι ρ ε → Prop
  | .checking _ _ todo =>
    todo.Pairwise (fun a b => rank (t.lock a) ≤ rank (t.lock b)) ∧
      ∀ k, held k → ∀ line ∈ todo, rank k ≤ rank (t.lock line)
  | .locked _ _ _ todo =>
    todo.Pairwise (fun a b => rank (t.lock a) ≤ rank (t.lock b)) ∧
      ∀ k, held k → ∀ line ∈ todo, rank k ≤ rank (t.lock line)
  | _ => ∀ k, ¬ held k

variable {t : LineTx σ κ ι ρ ε} {rank : κ → β} {held : κ → Prop} {db : σ}

theorem LineOrdered.inOrder {p : LinePhase σ ι ρ ε} (h : LineOrdered t rank held p) {k : κ}
    (hk : k ∈ t.wants p) {k' : κ} (hheld : held k') : rank k' ≤ rank k := by
  unfold LineTx.wants at hk
  split at hk
  · cases hk
    exact h.2 k' hheld _ List.mem_cons_self
  · cases hk

/-- The moves of a transaction with ordered lines keep the order. -/
theorem LineOrdered.move {l : LineLabel} {p : LinePhase σ ι ρ ε} {i : ℕ}
    {m : Move σ κ (LinePhase σ ι ρ ε)} (h : LineOrdered t rank held p)
    (hstart : ∀ todo, t.start db = .ok todo →
      todo.Pairwise fun a b => rank (t.lock a) ≤ rank (t.lock b))
    (hm : t.move id l p db = some m) :
    Shared.MoveOk (fun _ => True) (fun held _ _ q => LineOrdered t rank held q) held db i m := by
  unfold LineTx.move at hm
  split at hm
  case h_1 =>
    split at hm
    · rename_i todo htodo
      cases hm
      exact ⟨hstart todo htodo, fun k hk => absurd hk (h k)⟩
    · cases hm
      exact fun _ hfalse => hfalse
  case h_2 _ snapshot rows line todo =>
    cases hm
    obtain ⟨hline, htodo⟩ := List.pairwise_cons.1 h.1
    refine ⟨htodo, fun k hk next hnext => ?_⟩
    rcases hk with rfl | hk
    · exact hline next hnext
    · exact h.2 k hk next (List.mem_cons_of_mem _ hnext)
  case h_3 =>
    split at hm
    · cases hm
      exact h
    · cases hm
      exact fun _ hfalse => hfalse
  case h_4 =>
    split at hm
    · cases hm
      exact ⟨trivial, fun _ hfalse => hfalse⟩
    · cases hm
      exact fun _ hfalse => hfalse
  case h_7 => cases hm
  all_goals
    cases hm
    exact fun _ hfalse => hfalse

def lineProtocol (t : ℕ → LineTx σ κ ι ρ ε) : Protocol σ κ (LinePhase σ ι ρ ε) LineLabel :=
  fun i l p db => (t i).move id l p db

def LineTx.Sorted (t : LineTx σ κ ι ρ ε) (rank : κ → β) : Prop :=
  ∀ db todo, t.start db = .ok todo → todo.Pairwise fun a b => rank (t.lock a) ≤ rank (t.lock b)

variable [DecidableEq κ]

variable {s : Shared σ κ (LinePhase σ ι ρ ε)} {ls : List (ℕ × LineLabel)}

theorem LineTx.Sorted.not_outOfOrder {t : ℕ → LineTx σ κ ι ρ ε}
    (hrun : (concurrent (lineProtocol t)).Run (.start db .called) ls s) {i : ℕ}
    (hsorted : (t i).Sorted rank) : ¬ OutOfOrder (fun i => (t i).wants) rank s i := by
  have hinv : s.Inv (fun _ => True)
      fun held _ i p => (t i).Sorted rank → LineOrdered (t i) rank held p := by
    refine hrun.invariant ⟨trivial, fun i _ k hk => Option.some_ne_none i hk.symm⟩ ?_
    intro s l s' hs _ hstep
    obtain ⟨i, l⟩ := l
    refine hs.step hstep (fun m hm => ?_) fun _ _ _ _ _ _ _ hj => hj
    by_cases hsorted : (t i).Sorted rank
    · have hmove := LineOrdered.move (i := i) (hs.phase i hsorted) (hsorted s.db) hm
      cases m with
      | commit db' p => exact ⟨trivial, fun _ => hmove.2⟩
      | _ => exact fun _ => hmove
    · cases m with
      | commit db' p => exact ⟨trivial, fun h => absurd h hsorted⟩
      | _ => exact fun h => absurd h hsorted
  rintro ⟨_, _, k, hk, -, row, hrow, hlt⟩
  exact absurd ((hinv.phase i hsorted).inOrder hk hrow) (not_le.2 hlt)

/-- Where the late transactions wait in order nobody deadlocks, if all others put their
lines in order. -/
theorem not_deadlocked {t : ℕ → LineTx σ κ ι ρ ε} (hrank : Function.Injective rank)
    {late : ℕ → Prop} (hsorted : ∀ i, ¬ late i → (t i).Sorted rank)
    (hrun : (concurrent (lineProtocol t)).Run (.start db .called) ls s)
    (h : ∀ i, late i → ¬ OutOfOrder (fun i => (t i).wants) rank s i) :
    ¬ Deadlocked (fun i => (t i).wants) s := by
  intro hdead
  obtain ⟨i, hi⟩ := hdead.outOfOrder hrank
  by_cases hlate : late i
  · exact h i hlate hi
  · exact (hsorted i hlate).not_outOfOrder hrun hi

end Lines

theorem pairwise_insertionSort_key {α β : Type} [LinearOrder β] (f : α → β) (l : List α) :
    (l.insertionSort fun a b => f a ≤ f b).Pairwise fun a b => f a ≤ f b := by
  have htotal : Std.Total fun a b : α => f a ≤ f b := ⟨fun a b => le_total (f a) (f b)⟩
  have htrans : IsTrans α fun a b => f a ≤ f b := ⟨fun _ _ _ => le_trans⟩
  exact List.pairwise_insertionSort _ l

end Lib
