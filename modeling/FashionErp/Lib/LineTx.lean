/-
Transactions that check a list of lines under row locks.

The transaction opens with a plain read, which fixes its snapshot, and puts its lines in
an order. For each line it locks a row and makes the line's check, which may look at the
snapshot and, through locking reads, at what is committed; what passes is kept in
memory. After the last line everything is written and committed. `LineTx` is such a
transaction, `LinePhase` where one stands and `LineTx.move` its moves.

What the rows in memory may be relied on for is `RowsOk`: `LineOk.move` says which facts
about a check establish it, and `LineOk.mono` when it stands while others commit.
-/
import FashionErp.Lib.Concurrent
import FashionErp.Lib.Ledger

namespace Lib

variable {σ κ ι ρ ε π : Type}

structure LineTx (σ κ ι ρ ε : Type) where
  /-- The first read: the lines in the order they are locked in. -/
  start : σ → Except ε (List ι)
  lock : ι → κ
  check : σ → σ → List ρ → ι → Except ε (List ρ)
  /-- What is written, from the snapshot and the rows. -/
  finish : σ → List ρ → σ → Except ε σ

inductive LinePhase (σ ι ρ ε : Type)
  | called
  /-- Between two lines. -/
  | checking (snapshot : σ) (rows : List ρ) (todo : List ι)
  | locked (snapshot : σ) (rows : List ρ) (line : ι) (todo : List ι)
  | returned
  | rejected (error : ε)
  /-- The connection is lost. -/
  | aborted

inductive LineLabel
  | start
  | lock
  | check
  | commit
  | abort
  deriving DecidableEq

/-- The moves of a transaction whose phases are wrapped by `wrap`. -/
def LineTx.move (t : LineTx σ κ ι ρ ε) (wrap : LinePhase σ ι ρ ε → π) :
    LineLabel → LinePhase σ ι ρ ε → σ → Option (Move σ κ π)
  | .start, .called, db =>
    match t.start db with
    | .ok todo => some (.goto (wrap (.checking db [] todo)))
    | .error error => some (.leave (wrap (.rejected error)))
  | .lock, .checking snapshot rows (line :: todo), _ =>
    some (.acquire (t.lock line) (wrap (.locked snapshot rows line todo)))
  | .check, .locked snapshot rows line todo, db =>
    match t.check snapshot db rows line with
    | .ok rows' => some (.goto (wrap (.checking snapshot rows' todo)))
    | .error error => some (.leave (wrap (.rejected error)))
  | .commit, .checking snapshot rows [], db =>
    match t.finish snapshot rows db with
    | .ok db' => some (.commit db' (wrap .returned))
    | .error error => some (.leave (wrap (.rejected error)))
  | .abort, .checking .., _ => some (.leave (wrap .aborted))
  | .abort, .locked .., _ => some (.leave (wrap .aborted))
  | _, _, _ => none

def LineTx.locking (k : κ) (body : σ → Except ε σ) : LineTx σ κ Unit Unit ε where
  start _ := .ok [()]
  lock _ := k
  check _ _ rows _ := .ok rows
  finish _ _ := body

def LineTx.mapLock {κ' : Type} (t : LineTx σ κ ι ρ ε) (f : κ → κ') : LineTx σ κ' ι ρ ε where
  start := t.start
  lock line := f (t.lock line)
  check := t.check
  finish := t.finish

/-! ## What the rows in memory are good for -/

/-- `RowsOk held snapshot db rows` is known of the rows in memory; between its lock and
its check, the lock of a line is held too. -/
def LineOk (t : LineTx σ κ ι ρ ε) (RowsOk : (κ → Prop) → σ → σ → List ρ → Prop)
    (held : κ → Prop) (db : σ) : LinePhase σ ι ρ ε → Prop
  | .checking snapshot rows _ => RowsOk held snapshot db rows
  | .locked snapshot rows line _ => held (t.lock line) ∧ RowsOk held snapshot db rows
  | _ => True

variable {t : LineTx σ κ ι ρ ε} {RowsOk : (κ → Prop) → σ → σ → List ρ → Prop} {held : κ → Prop}
  {db : σ}

theorem LineOk.mono {db' : σ} {p : LinePhase σ ι ρ ε} (h : LineOk t RowsOk held db p)
    (hrows : ∀ snapshot rows, RowsOk held snapshot db rows → RowsOk held snapshot db' rows) :
    LineOk t RowsOk held db' p := by
  cases p with
  | checking snapshot rows todo => exact hrows snapshot rows h
  | locked snapshot rows line todo => exact ⟨h.1, hrows snapshot rows h.2⟩
  | _ => trivial

variable {wrap : LinePhase σ ι ρ ε → π}

/-- The moves of a line transaction. The last one commits what `finish` writes. No
other is seen by anybody, and what is known of the rows is kept: the empty list has to be
fine at the start, a further lock must not hurt, and a check that passes on a row that is
held must establish it for the rows with the line's own. -/
theorem LineOk.move {Ok : (κ → Prop) → σ → ℕ → π → Prop} {i : ℕ}
    {l : LineLabel} {p : LinePhase σ ι ρ ε} {m : Move σ κ π} (h : LineOk t RowsOk held db p)
    (hm : t.move wrap l p db = some m)
    (hok : ∀ held q, LineOk t RowsOk held db q → Ok held db i (wrap q))
    (hstart : ∀ todo, t.start db = .ok todo → RowsOk held db db [])
    (hlock : ∀ k snapshot rows, RowsOk held snapshot db rows →
      RowsOk (fun j => j = k ∨ held j) snapshot db rows)
    (hcheck : ∀ snapshot rows line todo rows', p = .locked snapshot rows line todo → l = .check →
      held (t.lock line) → RowsOk held snapshot db rows →
        t.check snapshot db rows line = .ok rows' → RowsOk held snapshot db rows') :
    Shared.MoveOk (fun _ => False) Ok held db i m ∨
      ∃ snapshot rows db', p = .checking snapshot rows [] ∧ l = .commit ∧
        t.finish snapshot rows db = .ok db' ∧ m = .commit db' (wrap .returned) := by
  unfold LineTx.move at hm
  split at hm
  case h_1 =>
    split at hm
    · rename_i todo htodo
      cases hm
      exact .inl (hok held _ (hstart todo htodo))
    · cases hm
      exact .inl (hok _ _ trivial)
  case h_2 =>
    cases hm
    exact .inl (hok _ _ ⟨.inl rfl, hlock _ _ _ h⟩)
  case h_3 _ snapshot rows line todo =>
    split at hm
    · rename_i rows' hpass
      cases hm
      exact .inl (hok held _ (hcheck snapshot rows line todo rows' rfl rfl h.1 h.2 hpass))
    · cases hm
      exact .inl (hok _ _ trivial)
  case h_4 _ snapshot rows =>
    split at hm
    · rename_i db' hpass
      cases hm
      exact .inr ⟨snapshot, rows, db', rfl, rfl, hpass, rfl⟩
    · cases hm
      exact .inl (hok _ _ trivial)
  case h_7 => cases hm
  all_goals
    cases hm
    exact .inl (hok _ _ trivial)

theorem LineTx.move_commit {snapshot db' : σ} {rows : List ρ}
    (h : t.finish snapshot rows db = .ok db') :
    t.move wrap .commit (.checking snapshot rows []) db = some (.commit db' (wrap .returned)) := by
  simp only [LineTx.move, h]

/-! ## Drawing on quotas -/

def NamedTwice [DecidableEq κ] (lines : List (κ × ℤ)) (k : κ) : Prop :=
  2 ≤ lines.countP fun l => l.1 = k

instance [DecidableEq κ] (lines : List (κ × ℤ)) (k : κ) : Decidable (NamedTwice lines k) :=
  inferInstanceAs (Decidable (_ ≤ _))

def Drawn (held : κ → Prop) (room : κ → ℤ) (lines : List (κ × ℤ)) : Prop :=
  ∀ l ∈ lines, held l.1 ∧ l.2 ≤ room l.1

variable {room : κ → ℤ} {lines : List (κ × ℤ)}

theorem Drawn.mono {held held' : κ → Prop} {room' : κ → ℤ} (h : Drawn held room lines)
    (hheld : ∀ k, held k → held' k) (hroom : ∀ k, held k → room k ≤ room' k) :
    Drawn held' room' lines :=
  fun l hl => ⟨hheld _ (h l hl).1, (h l hl).2.trans (hroom _ (h l hl).1)⟩

variable {k : κ}

theorem Drawn.append {held : κ → Prop} {q : ℤ} (h : Drawn held room lines) (hk : held k)
    (hq : q ≤ room k) : Drawn held room (lines ++ [(k, q)]) := by
  intro l hl
  rcases List.mem_append.1 hl with hl | hl
  · exact h l hl
  · obtain rfl := List.mem_singleton.1 hl
    exact ⟨hk, hq⟩

theorem net_of_not_namedTwice [DecidableEq κ] (h : ¬ NamedTwice lines k) :
    net lines k = 0 ∨ (k, net lines k) ∈ lines := by
  induction lines with
  | nil => exact .inl rfl
  | cons l lines ih =>
    rw [net_cons]
    by_cases hk : l.1 = k
    · -- The rest does not name `k` again.
      have hcount : lines.countP (fun l => l.1 = k) = 0 := by
        unfold NamedTwice at h
        rw [List.countP_cons_of_pos (by simpa using hk)] at h
        omega
      have hrest : net lines k = 0 := net_eq_zero fun l hl hlk => by
        have hnot := List.countP_eq_zero.1 hcount l hl
        exact hnot (by simpa using hlk)
      rw [if_pos hk, hrest, add_zero]
      refine .inr ?_
      rw [← hk]
      exact List.mem_cons_self
    · have htail : ¬ NamedTwice lines k := by
        unfold NamedTwice at h ⊢
        rwa [List.countP_cons_of_neg (by simpa using hk)] at h
      rw [if_neg hk, zero_add]
      exact (ih htail).imp id fun hmem => List.mem_cons_of_mem l hmem

theorem Drawn.net_eq_zero [DecidableEq κ] {held : κ → Prop} (h : Drawn held room lines)
    (hk : ¬ held k) : net lines k = 0 :=
  Lib.net_eq_zero fun l hl hlk => hk (hlk ▸ (h l hl).1)

/-- What others draw under their own locks leaves the lines as they are. -/
theorem Drawn.of_drawn [DecidableEq κ] {held heldBy : κ → Prop} {room' : κ → ℤ}
    {drawn : List (κ × ℤ)} (h : Drawn held room lines) (hby : Drawn heldBy room drawn)
    (hapart : ∀ k, held k → ¬ heldBy k) (hroom : ∀ k, room k - net drawn k ≤ room' k) :
    Drawn held room' lines := by
  refine h.mono (fun _ hk => hk) fun k hk => ?_
  have hle := hroom k
  rwa [hby.net_eq_zero (hapart k hk), sub_zero] at hle

def Exposed [DecidableEq κ] (seen room : κ → ℤ) (lines : List (κ × ℤ)) (k : κ) : Prop :=
  NamedTwice lines k ∨ room k < seen k

instance [DecidableEq κ] (seen room : κ → ℤ) (lines : List (κ × ℤ)) (k : κ) :
    Decidable (Exposed seen room lines k) :=
  inferInstanceAs (Decidable (_ ∨ _))

/-- Lines checked against what was seen together fit what is left, if they do for the
keys that are exposed. -/
theorem Drawn.net_le_of_exposed [DecidableEq κ] {held : κ → Prop} {seen : κ → ℤ}
    (h : Drawn held seen lines)
    (hfit : ∀ l ∈ lines, Exposed seen room lines l.1 → net lines l.1 ≤ room l.1)
    (hroom : 0 ≤ room k) : net lines k ≤ room k := by
  by_cases hk : NamedTwice lines k
  · obtain ⟨l, hl, hlk⟩ := List.countP_pos_iff.1 (Nat.lt_of_lt_of_le Nat.zero_lt_two hk)
    obtain rfl := of_decide_eq_true hlk
    exact hfit l hl (.inl hk)
  · rcases net_of_not_namedTwice hk with hzero | hmem
    · rw [hzero]
      exact hroom
    · by_cases hless : room k < seen k
      · exact hfit _ hmem (.inr hless)
      · exact (h _ hmem).2.trans (Int.not_lt.1 hless)

/-- Lines together fit if those that share a key do. -/
theorem Drawn.net_le_of_shared [DecidableEq κ] {held : κ → Prop} (h : Drawn held room lines)
    (hshared : ∀ l ∈ lines, NamedTwice lines l.1 → net lines l.1 ≤ room l.1)
    (hroom : 0 ≤ room k) : net lines k ≤ room k :=
  h.net_le_of_exposed (fun l hl hexposed => hshared l hl (hexposed.resolve_right (lt_irrefl _)))
    hroom

end Lib
