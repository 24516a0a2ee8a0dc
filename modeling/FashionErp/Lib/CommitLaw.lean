/-
Protocols in which each commit decides for itself whether a property of the database is kept.

`CommitLaw` collects what has to be shown of such a protocol: what a commit that keeps `Q` leaves
behind, that `Q` is kept exactly when the commit meets `C`, and that no other move matters.
-/
import FashionErp.Lib.Column
import FashionErp.Lib.Concurrent

namespace Lib

variable {σ κ π ℓ : Type} [DecidableEq κ]

/-- What to show of the moves. `G` is what is known of the database, `Ok` what each process
relies on, and `Stands held db db'` what a commit leaves of it where `held` is held by others. -/
structure CommitLaw (P : Protocol σ κ π ℓ) (G : σ → Prop) (Ok : (κ → Prop) → σ → ℕ → π → Prop)
    (Stands : (κ → Prop) → σ → σ → Prop) (Q : σ → Prop) (C : Shared σ κ π → ℕ × ℓ → Prop) :
    Prop where
  good : ∀ {db}, G db → Q db
  mono : ∀ {held db db' j p}, Ok held db j p → Stands held db db' → Ok held db' j p
  weaken : ∀ {held held' : κ → Prop} {db db'}, Stands held db db' → (∀ k, held' k → held k) →
    Stands held' db db'
  quiet : ∀ {s : Shared σ κ π} {i l m}, s.Inv G Ok → P i l (s.phase i) s.db = some m →
    (∀ db' q, m ≠ .commit db' q) → Shared.MoveOk (fun _ => False) Ok (s.Holds i) s.db i m ∧ C s (i, l)
  commit : ∀ {s : Shared σ κ π} {i l db' q}, s.Inv G Ok →
    P i l (s.phase i) s.db = some (.commit db' q) → (Q db' ↔ C s (i, l)) ∧
      (Q db' → (G db' ∧ Ok (fun _ => False) db' i q) ∧ Stands (fun k => ¬ s.Holds i k) s.db db')

namespace CommitLaw

variable {P : Protocol σ κ π ℓ} {G : σ → Prop} {Ok : (κ → Prop) → σ → ℕ → π → Prop}
  {Stands : (κ → Prop) → σ → σ → Prop} {Q : σ → Prop} {C : Shared σ κ π → ℕ × ℓ → Prop}
  {s s' : Shared σ κ π} {l : ℕ × ℓ}

theorem inv_step (h : CommitLaw P G Ok Stands Q C) (hs₀ : s.Inv G Ok)
    (hs : (concurrent P).step s l = some s') (hQ : Q s'.db) : s'.Inv G Ok := by
  obtain ⟨i, l⟩ := l
  have hdb : ∀ db' q, P i l (s.phase i) s.db = some (.commit db' q) → s'.db = db' := by
    intro db' q hm
    obtain ⟨m, hm', hmove⟩ := Option.bind_eq_some_iff.1 hs
    obtain rfl := Option.some.inj (hm.symm.trans hm')
    cases hmove
    rfl
  refine hs₀.step hs (fun m hm => ?_) fun db' q hm j _ held hapart hj => ?_
  · cases m with
    | commit db' q => exact ((h.commit hs₀ hm).2 (hdb db' q hm ▸ hQ)).1
    | _ => exact (h.quiet hs₀ hm fun _ _ heq => nomatch heq).1
  · have hstands := ((h.commit hs₀ hm).2 (hdb db' q hm ▸ hQ)).2
    exact h.mono hj (h.weaken hstands hapart)

theorem step_iff (h : CommitLaw P G Ok Stands Q C) (hs₀ : s.Inv G Ok)
    (hs : (concurrent P).step s l = some s') : Q s'.db ↔ C s l := by
  obtain ⟨i, l⟩ := l
  obtain ⟨m, hm, hmove⟩ := Shared.step_move hs
  cases m with
  | commit db' q =>
    cases hmove
    exact (h.commit hs₀ hm).1
  | _ =>
    obtain ⟨hok, hc⟩ := h.quiet hs₀ hm fun _ _ heq => nomatch heq
    rw [hok.db_eq hmove]
    exact ⟨fun _ => hc, fun _ => h.good hs₀.db⟩

/-- `Q` holds in every state of a run exactly when all its steps meet `C`. -/
theorem run_iff (h : CommitLaw P G Ok Stands Q C) (hs₀ : s.Inv G Ok) {ls : List (ℕ × ℓ)}
    (hrun : (concurrent P).Run s ls s') :
    (∀ ks, ks <+: ls → ∀ s₁, (concurrent P).Run s ks s₁ → Q s₁.db) ↔
      (concurrent P).RunWith C s ls s' := by
  refine Machine.prefixes_iff_runWith (I := Shared.Inv G Ok) (P := fun s => Q s.db)
    (fun s l s' hI hc hs => ?_) (fun s hI => h.good hI.db) (fun s l s' hI hs hQ => ?_) hs₀ hrun
  · exact h.inv_step hI hs ((h.step_iff hI hs).2 hc)
  · exact (h.step_iff hI hs).1 hQ

end CommitLaw

/-! ## Properties of the database and of each phase -/

/-- The move ends in a phase that meets `K` and, if it commits, in a database that meets `G`. -/
def Move.Leaves (G : σ → Prop) (K : π → Prop) : Move σ κ π → Prop
  | .commit db p => G db ∧ K p
  | .goto p => K p
  | .acquire _ p => K p
  | .leave p => K p

section

variable {G : σ → Prop} {K : π → Prop} {s s' : Shared σ κ π} {i : ℕ}

theorem Shared.leaves_iff {m : Move σ κ π} (hdb : G s.db) (hphase : ∀ j, K (s.phase j))
    (hm : s.move i m = some s') : (G s'.db ∧ ∀ j, K (s'.phase j)) ↔ m.Leaves G K := by
  have hupdate : ∀ p, (∀ j, K (Function.update s.phase i p j)) ↔ K p := by
    intro p
    refine ⟨fun h => ?_, fun h => forall_update h fun j _ => hphase j⟩
    have hi := h i
    rwa [Function.update_self] at hi
  cases m with
  | goto p =>
    cases hm
    exact ⟨fun h => (hupdate p).1 h.2, fun h => ⟨hdb, (hupdate p).2 h⟩⟩
  | acquire k p =>
    obtain ⟨-, hs'⟩ := Option.ite_none_right_eq_some.1 hm
    cases hs'
    exact ⟨fun h => (hupdate p).1 h.2, fun h => ⟨hdb, (hupdate p).2 h⟩⟩
  | commit db p =>
    cases hm
    exact ⟨fun h => ⟨h.1, (hupdate p).1 h.2⟩, fun h => ⟨h.1, (hupdate p).2 h.2⟩⟩
  | leave p =>
    cases hm
    exact ⟨fun h => (hupdate p).1 h.2, fun h => ⟨hdb, (hupdate p).2 h⟩⟩

/-- `G` and `K` hold in every state of a run exactly when all its steps meet `C`, if each
move out of such a state leaves them exactly when it meets `C`. -/
theorem states_iff_moves {P : Protocol σ κ π ℓ} {C : Shared σ κ π → ℕ × ℓ → Prop}
    (hmoves : ∀ {s : Shared σ κ π} {i l m}, G s.db → (∀ j, K (s.phase j)) →
      P i l (s.phase i) s.db = some m → (m.Leaves G K ↔ C s (i, l)))
    (hdb : G s.db) (hphase : ∀ j, K (s.phase j)) {ls : List (ℕ × ℓ)}
    (hrun : (concurrent P).Run s ls s') :
    (∀ ks, ks <+: ls → ∀ s₁, (concurrent P).Run s ks s₁ → G s₁.db ∧ ∀ j, K (s₁.phase j)) ↔
      (concurrent P).RunWith C s ls s' := by
  refine Machine.prefixes_iff_runWith (I := fun s => G s.db ∧ ∀ j, K (s.phase j))
    (P := fun s => G s.db ∧ ∀ j, K (s.phase j)) (fun s l s' hI hc hs => ?_) (fun _ hI => hI)
    (fun s l s' hI hs hP => ?_) ⟨hdb, hphase⟩ hrun
  all_goals
    obtain ⟨i, l⟩ := l
    obtain ⟨m, hm, hmove⟩ := Option.bind_eq_some_iff.1 hs
    have hleaves := Shared.leaves_iff hI.1 hI.2 hmove
    have hiff := hmoves hI.1 hI.2 hm
  · exact hleaves.2 (hiff.2 hc)
  · exact hiff.1 (hleaves.1 hP)

end

end Lib
