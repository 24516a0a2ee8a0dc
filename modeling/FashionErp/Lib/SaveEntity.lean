/-
Requests that read a row, change the entity in memory and save it.

The read takes no lock.
-/
import FashionErp.Lib.Concurrent

namespace Lib

/-- How one row of a database is read and written, and what `save` makes of an
entity, the row it read and the row it writes over. -/
structure RowAccess (σ ρ : Type) where
  find : σ → Option ρ
  put : ρ → σ → σ
  merge : ρ → ρ → ρ → ρ

inductive SavePhase (ρ : Type)
  | changed (entity : ρ)
  /-- `save` has read the row again. -/
  | saving (entity seen : ρ)
  | updated (entity seen row : ρ)

inductive SaveLabel
  | reread
  | update
  | commit
  deriving DecidableEq

variable {σ κ π ρ : Type}

/-- The moves of a save on the row locked by `k`. -/
def RowAccess.saveMove (a : RowAccess σ ρ) (k : κ) (wrap : SavePhase ρ → π) (done : π) :
    SaveLabel → SavePhase ρ → σ → Option (Move σ κ π)
  | .reread, .changed entity, db => (a.find db).map fun seen => .goto (wrap (.saving entity seen))
  | .update, .saving entity seen, db =>
    (a.find db).map fun row => .acquire k (wrap (.updated entity seen (a.merge entity seen row)))
  | .commit, .updated _ _ row, db => some (.commit (a.put row db) done)
  | _, _, _ => none

/-- What is known of a save whose entity is `change` of the row it read first, while
the current row only moves along `R`. -/
def SaveOk (a : RowAccess σ ρ) (k : κ) (R : ρ → ρ → Prop) (change : ρ → ρ) (held : κ → Prop)
    (db : σ) : SavePhase ρ → Prop
  | .changed entity => ∃ first current, entity = change first ∧ a.find db = some current ∧
      R first current
  | .saving entity seen => ∃ first current, entity = change first ∧ a.find db = some current ∧
      R first seen ∧ R seen current
  | .updated entity seen row => ∃ first current, entity = change first ∧
      a.find db = some current ∧ R first seen ∧ R seen current ∧ held k ∧
      row = a.merge entity seen current

variable {a : RowAccess σ ρ} {k : κ} {R : ρ → ρ → Prop} {change : ρ → ρ} {held : κ → Prop}
  {db : σ}

variable {p : SavePhase ρ}

/-- A save stands while others commit, if the row moves along `R` and not at all
while the save holds its lock. -/
theorem SaveOk.mono (htrans : ∀ r r₁ r₂, R r r₁ → R r₁ r₂ → R r r₂) {db' : σ}
    (h : SaveOk a k R change held db p)
    (hrow : ∀ r, a.find db = some r → ∃ r', a.find db' = some r' ∧ R r r' ∧ (held k → r' = r)) :
    SaveOk a k R change held db' p := by
  cases p with
  | changed entity =>
    obtain ⟨first, current, hentity, hfind, hR⟩ := h
    obtain ⟨r', hfind', hR', -⟩ := hrow current hfind
    exact ⟨first, r', hentity, hfind', htrans _ _ _ hR hR'⟩
  | saving entity seen =>
    obtain ⟨first, current, hentity, hfind, hseen, hR⟩ := h
    obtain ⟨r', hfind', hR', -⟩ := hrow current hfind
    exact ⟨first, r', hentity, hfind', hseen, htrans _ _ _ hR hR'⟩
  | updated entity seen row =>
    obtain ⟨first, current, hentity, hfind, hseen, hR, hheld, hmerge⟩ := h
    obtain ⟨r', hfind', hR', hkeep⟩ := hrow current hfind
    obtain rfl := hkeep hheld
    exact ⟨first, r', hentity, hfind', hseen, hR, hheld, hmerge⟩

def SavePhase.entity : SavePhase ρ → ρ
  | .changed entity => entity
  | .saving entity _ => entity
  | .updated entity _ _ => entity

/-- The steps of a save before its commit keep what is known of it, and its entity. -/
theorem SaveOk.move_entity {wrap : SavePhase ρ → π} {done : π} (hrefl : ∀ r, R r r) {l : SaveLabel} {m : Move σ κ π} (h : SaveOk a k R change held db p)
    (hm : a.saveMove k wrap done l p db = some m) :
    (∃ q, m = .goto (wrap q) ∧ q.entity = p.entity ∧ SaveOk a k R change held db q) ∨
      (∃ q, m = .acquire k (wrap q) ∧ q.entity = p.entity ∧
        SaveOk a k R change (fun j => j = k ∨ held j) db q) ∨
      ∃ entity seen row, p = .updated entity seen row ∧ l = .commit ∧
        m = .commit (a.put row db) done := by
  cases p with
  | changed entity =>
    cases l with
    | reread =>
      obtain ⟨first, current, hentity, hfind, hR⟩ := h
      simp only [RowAccess.saveMove, hfind, Option.map_some, Option.some.injEq] at hm
      subst hm
      exact .inl ⟨_, rfl, rfl, first, current, hentity, hfind, hR, hrefl current⟩
    | update => cases hm
    | commit => cases hm
  | saving entity seen =>
    cases l with
    | update =>
      obtain ⟨first, current, hentity, hfind, hseen, hR⟩ := h
      simp only [RowAccess.saveMove, hfind, Option.map_some, Option.some.injEq] at hm
      subst hm
      exact .inr (.inl ⟨_, rfl, rfl, first, current, hentity, hfind, hseen, hR, .inl rfl, rfl⟩)
    | reread => cases hm
    | commit => cases hm
  | updated entity seen row =>
    cases l with
    | commit => exact .inr (.inr ⟨entity, seen, row, rfl, rfl, (Option.some.inj hm).symm⟩)
    | reread => cases hm
    | update => cases hm

theorem SaveOk.move {wrap : SavePhase ρ → π} {done : π} (hrefl : ∀ r, R r r) {l : SaveLabel} {m : Move σ κ π} (h : SaveOk a k R change held db p)
    (hm : a.saveMove k wrap done l p db = some m) :
    (∃ q, m = .goto (wrap q) ∧ SaveOk a k R change held db q) ∨
      (∃ q, m = .acquire k (wrap q) ∧
        SaveOk a k R change (fun j => j = k ∨ held j) db q) ∨
      ∃ entity seen row, p = .updated entity seen row ∧ l = .commit ∧
        m = .commit (a.put row db) done := by
  rcases h.move_entity hrefl hm with ⟨q, hq, -, hok⟩ | ⟨q, hq, -, hok⟩ | hcommit
  · exact .inl ⟨q, hq, hok⟩
  · exact .inr (.inl ⟨q, hq, hok⟩)
  · exact .inr (.inr hcommit)

/-! ## Commits that write locked rows -/

def Kept (find : κ → σ → Option ρ) (held : κ → Prop) (db db' : σ) : Prop :=
  ∀ k r, find k db = some r → ∃ r', find k db' = some r' ∧ (held k → r' = r)

theorem Kept.refl (find : κ → σ → Option ρ) (held : κ → Prop) (db : σ) : Kept find held db db :=
  fun _ r hr => ⟨r, hr, fun _ => rfl⟩

variable {find : κ → σ → Option ρ}

theorem Kept.weaken {held held' : κ → Prop} {db db' : σ} (h : Kept find held db db')
    (hheld : ∀ k, held' k → held k) : Kept find held' db db' := by
  intro k r hr
  obtain ⟨r', hr', hsame⟩ := h k r hr
  exact ⟨r', hr', fun hk => hsame (hheld k hk)⟩

theorem Kept.of_write [DecidableEq κ] {held : κ → Prop} {db db' : σ} {k : κ} {row : ρ} (hk : held k)
    (hfind : ∀ j, find j db' = if k = j then some row else find j db) :
    Kept find (fun j => ¬ held j) db db' := by
  intro j r hr
  rw [hfind]
  by_cases hj : k = j
  · exact ⟨row, if_pos hj, fun hnot => absurd (hj ▸ hk) hnot⟩
  · exact ⟨r, (if_neg hj).trans hr, fun _ => rfl⟩

/-- The step rule for locked rows. A process that stands as long as its own rows do
is not disturbed by the commits of others. -/
theorem Shared.Inv.step_rows [DecidableEq κ] {ℓ : Type} {P : Protocol σ κ π ℓ} {G : σ → Prop}
    {Ok : (κ → Prop) → σ → ℕ → π → Prop} {s s' : Shared σ κ π} {i : ℕ} {l : ℓ}
    (hmono : ∀ held db db' j p, Ok held db j p → Kept find held db db' → Ok held db' j p)
    (h : s.Inv G Ok) (hs : (concurrent P).step s (i, l) = some s')
    (hown : ∀ m, P i l (s.phase i) s.db = some m → Shared.MoveOk (fun db' => G db' ∧ Kept find (fun k => ¬ s.Holds i k) s.db db') Ok (s.Holds i) s.db i m) :
    s'.Inv G Ok := by
  refine h.step hs (fun m hm => ?_) fun db' p hm j _ held hapart hj => ?_
  · have hok := hown m hm
    cases m with
    | commit db' p => exact ⟨hok.1.1, hok.2⟩
    | _ => exact hok
  · obtain ⟨⟨-, hkept⟩, -⟩ := hown _ hm
    exact hmono held s.db db' j _ hj (hkept.weaken hapart)

end Lib
