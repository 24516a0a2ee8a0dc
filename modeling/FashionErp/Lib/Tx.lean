/-
Database transactions as a state-and-error computation, with the rules the
service proofs are assembled from.

A transaction body reads and writes a database `σ` and either commits with a value or
stops with an error `ε`; an error gives the state back as it was, which is what a
rollback does.
-/
import Mathlib.Data.List.Basic

namespace Lib

variable {σ ε α β : Type}

/-- A transaction body over database `σ`, failing with `ε`. -/
abbrev Tx (σ ε : Type) := StateT σ (Except ε)

/-- Body `t`, started in `s`, commits with value `a` and leaves `s'`. -/
def Commits (t : Tx σ ε α) (s : σ) (a : α) (s' : σ) : Prop :=
  t s = .ok (a, s')

/-- Body `t`, started in `s`, stops with error `e`. -/
def Rejects (t : Tx σ ε α) (s : σ) (e : ε) : Prop :=
  t s = .error e

instance [DecidableEq σ] [DecidableEq ε] [DecidableEq α] (t : Tx σ ε α) (s : σ) (a : α)
    (s' : σ) : Decidable (Commits t s a s') :=
  inferInstanceAs (Decidable (t s = .ok (a, s')))

def commitsWith (t : Tx σ ε α) (s : σ) (p : α → σ → Bool) : Bool :=
  match t s with
  | .ok (a, s') => p a s'
  | .error _ => false

theorem exists_commits (t : Tx σ ε α) (s : σ) (p : α → σ → Bool) (h : commitsWith t s p = true) :
    ∃ a s', Commits t s a s' ∧ p a s' = true := by
  unfold commitsWith at h
  split at h
  · exact ⟨_, _, ‹_›, h⟩
  · cases h

namespace Tx

/-- Stop with `e` when `c` holds: the `if (c) throw e` of a service method. -/
def rejectIf (c : Prop) [Decidable c] (e : ε) : Tx σ ε Unit :=
  if c then throw e else pure ()

/-- The value of `o`, or stop with `e`: the `if (!row) throw e` of a service method. -/
def orReject (o : Option α) (e : ε) : Tx σ ε α :=
  match o with
  | some a => pure a
  | none => throw e

def reads (f : σ → α) : Tx σ ε α := do
  return f (← get)

def void (t : Tx σ ε α) : Tx σ ε Unit := do
  let _a ← t
  return ()

/-- Run one transaction. A committed body installs its final state; a
rejected one leaves the state as it found it. -/
def run (t : Tx σ ε α) (s : σ) : Except ε α × σ :=
  match t s with
  | .ok (a, s') => (.ok a, s')
  | .error e => (.error e, s)

end Tx

open Tx

variable {k : α → Tx σ ε β} {s : σ} {t : Tx σ ε α} {xs : List α} {a : α} {Q : α → σ → Prop}
  {R : β → σ → Prop}

/-! ## Taking a committed body apart -/

@[simp] theorem commits_pure (a b : α) (s s' : σ) :
    Commits (pure a : Tx σ ε α) s b s' ↔ b = a ∧ s = s' := by
  constructor
  · intro h
    cases h
    exact ⟨rfl, rfl⟩
  · rintro ⟨rfl, rfl⟩
    rfl

@[simp] theorem commits_bind (t : Tx σ ε α) (f : α → Tx σ ε β) (s : σ) (b : β) (s' : σ) :
    Commits (t >>= f) s b s' ↔ ∃ a s₁, Commits t s a s₁ ∧ Commits (f a) s₁ b s' := by
  simp only [Commits, bind, StateT.bind, Except.bind]
  cases t s with
  | error e => simp
  | ok p => exact ⟨fun h => ⟨p.1, p.2, rfl, h⟩, fun ⟨a, s₁, h₁, h₂⟩ => by cases h₁; exact h₂⟩

@[simp] theorem commits_map (t : Tx σ ε α) (f : α → β) (s : σ) (b : β) (s' : σ) :
    Commits (f <$> t) s b s' ↔ ∃ a, Commits t s a s' ∧ b = f a := by
  simp only [Commits, Functor.map, StateT.map, bind, Except.bind, pure, Except.pure]
  cases t s with
  | error e => simp
  | ok p =>
    simp only [Except.ok.injEq, Prod.mk.injEq]
    exact ⟨fun ⟨h₁, h₂⟩ => ⟨p.1, by rw [← h₂], h₁.symm⟩,
      fun ⟨a, h₁, h₂⟩ => ⟨by rw [h₂, h₁], by rw [h₁]⟩⟩

@[simp] theorem commits_get (s a s' : σ) :
    Commits (get : Tx σ ε σ) s a s' ↔ s = a ∧ s = s' := by
  simp only [Commits, get, getThe, MonadStateOf.get, StateT.get, pure, Except.pure,
    Except.ok.injEq, Prod.mk.injEq]

@[simp] theorem commits_set (t s s' : σ) (u : Unit) :
    Commits (set t : Tx σ ε Unit) s u s' ↔ s' = t := by
  constructor
  · intro h
    cases h
    rfl
  · rintro rfl
    rfl

@[simp] theorem commits_modify (f : σ → σ) (s s' : σ) (u : Unit) :
    Commits (modify f : Tx σ ε Unit) s u s' ↔ s' = f s := by
  simp only [Commits, modify, modifyGet, MonadStateOf.modifyGet, StateT.modifyGet, pure,
    Except.pure, Except.ok.injEq, Prod.mk.injEq, true_and]
  exact eq_comm

@[simp] theorem commits_throw (e : ε) (s : σ) (a : α) (s' : σ) :
    ¬ Commits (throw e : Tx σ ε α) s a s' := by
  simp [Commits, throw, throwThe, MonadExceptOf.throw, StateT.lift, bind, Except.bind]

@[simp] theorem commits_ite (c : Prop) [Decidable c] (t u : Tx σ ε α) (s : σ) (a : α)
    (s' : σ) :
    Commits (if c then t else u) s a s' ↔ (c ∧ Commits t s a s') ∨ (¬ c ∧ Commits u s a s') := by
  by_cases h : c <;> simp [h]

@[simp] theorem commits_rejectIf (c : Prop) [Decidable c] (e : ε) (s : σ) (u : Unit) (s' : σ) :
    Commits (rejectIf c e : Tx σ ε Unit) s u s' ↔ ¬ c ∧ s = s' := by
  simp [rejectIf]

@[simp] theorem commits_orReject (o : Option α) (e : ε) (s : σ) (a : α) (s' : σ) :
    Commits (orReject o e : Tx σ ε α) s a s' ↔ o = some a ∧ s = s' := by
  cases o with
  | none => simp [orReject]
  | some b => simp [orReject, eq_comm]

theorem commits_lookup (f : σ → Option α) (e : ε) (s : σ) (a : α) (s' : σ) :
    Commits (get >>= fun s => orReject (f s) e : Tx σ ε α) s a s' ↔ f s = some a ∧ s = s' := by
  simp only [commits_bind, commits_get, commits_orReject]
  constructor
  · rintro ⟨_, _, ⟨rfl, rfl⟩, h⟩
    exact h
  · intro h
    exact ⟨s, s, ⟨rfl, rfl⟩, h⟩

@[simp] theorem commits_reads (f : σ → α) (s : σ) (a : α) (s' : σ) :
    Commits (reads f : Tx σ ε α) s a s' ↔ a = f s ∧ s = s' := by
  simp only [reads, commits_bind, commits_get, commits_pure]
  exact ⟨fun ⟨_, _, ⟨h₁, h₂⟩, h₃, h₄⟩ => by subst h₁ h₂ h₄; exact ⟨h₃, rfl⟩,
    fun ⟨h₁, h₂⟩ => ⟨s, s, ⟨rfl, rfl⟩, h₁, h₂⟩⟩

/-- What writes nothing, as a part of a body. -/
@[simp] theorem commits_liftM (x : Except ε α) (s : σ) (a : α) (s' : σ) :
    Commits (liftM x : Tx σ ε α) s a s' ↔ x = .ok a ∧ s = s' := by
  cases x with
  | error e => exact ⟨nofun, nofun⟩
  | ok b =>
    constructor
    · intro h
      obtain ⟨rfl, rfl⟩ := Prod.mk.inj (Except.ok.inj h)
      exact ⟨rfl, rfl⟩
    · rintro ⟨h, rfl⟩
      rw [Except.ok.inj h]
      rfl

@[simp] theorem commits_void (t : Tx σ ε α) (s : σ) (u : Unit) (s' : σ) :
    Commits (void t) s u s' ↔ ∃ a, Commits t s a s' := by
  simp only [void, commits_bind, commits_pure]
  exact ⟨fun ⟨a, _, h, _, hs⟩ => ⟨a, hs ▸ h⟩, fun ⟨a, h⟩ => ⟨a, s', h, trivial, rfl⟩⟩

/-- A body that recovers from errors commits when its first part does, or when
that part is rolled back and the handler commits from the same state. -/
@[simp] theorem commits_tryCatch (t : Tx σ ε α) (h : ε → Tx σ ε α) (s : σ) (a : α) (s' : σ) :
    Commits (tryCatch t h) s a s' ↔
      Commits t s a s' ∨ ∃ e, Rejects t s e ∧ Commits (h e) s a s' := by
  simp only [Commits, Rejects, tryCatch, tryCatchThe, MonadExceptOf.tryCatch, Except.tryCatch]
  cases t s with
  | error e => simp
  | ok p => simp

theorem Commits.unique {s₁ s₂ : σ} {a₁ a₂ : α} (h₁ : Commits t s a₁ s₁) (h₂ : Commits t s a₂ s₂) :
    a₁ = a₂ ∧ s₁ = s₂ := by
  have h : (Except.ok (a₁, s₁) : Except ε (α × σ)) = .ok (a₂, s₂) := h₁.symm.trans h₂
  simpa using h

theorem commits_foldlM_nil (f : β → α → Tx σ ε β) (b c : β) (s s' : σ) :
    Commits (List.foldlM f b []) s c s' ↔ c = b ∧ s = s' := by
  simp [List.foldlM]

theorem commits_foldlM_cons (f : β → α → Tx σ ε β) (b c : β) (x : α) (xs : List α) (s s' : σ) :
    Commits (List.foldlM f b (x :: xs)) s c s' ↔
      ∃ b₁ s₁, Commits (f b x) s b₁ s₁ ∧ Commits (List.foldlM f b₁ xs) s₁ c s' := by
  simp [List.foldlM]

theorem commits_forM_nil (f : α → Tx σ ε PUnit) (s : σ) (u : PUnit) (s' : σ) :
    Commits (List.forM [] f) s u s' ↔ s = s' := by
  simp [List.forM]

theorem commits_forM_cons (f : α → Tx σ ε PUnit) (x : α) (xs : List α) (s : σ) (u : PUnit)
    (s' : σ) :
    Commits (List.forM (x :: xs) f) s u s' ↔
      ∃ s₁, Commits (f x) s ⟨⟩ s₁ ∧ Commits (List.forM xs f) s₁ u s' := by
  simp only [List.forM, commits_bind]
  exact ⟨fun ⟨_, s₁, h⟩ => ⟨s₁, h⟩, fun ⟨s₁, h⟩ => ⟨_, s₁, h⟩⟩

theorem commits_forM_check {f : α → Tx σ ε PUnit} {P : α → Prop}
    (hf : ∀ x ∈ xs, ∀ u s', Commits (f x) s u s' ↔ P x ∧ s = s') (u : PUnit) (s' : σ) :
    Commits (xs.forM f) s u s' ↔ (∀ x ∈ xs, P x) ∧ s = s' := by
  induction xs with
  | nil => simp
  | cons x xs ih =>
    have ih' := ih fun y hy => hf y (List.mem_cons_of_mem x hy)
    rw [commits_forM_cons, List.forall_mem_cons]
    constructor
    · rintro ⟨s₁, hx, hxs⟩
      obtain ⟨hP, rfl⟩ := (hf x List.mem_cons_self _ _).1 hx
      obtain ⟨hPs, rfl⟩ := ih'.1 hxs
      exact ⟨⟨hP, hPs⟩, rfl⟩
    · rintro ⟨⟨hP, hPs⟩, rfl⟩
      exact ⟨s, (hf x List.mem_cons_self _ _).2 ⟨hP, rfl⟩, ih'.2 ⟨hPs, rfl⟩⟩

/-! ## Where an error comes from -/

@[simp] theorem rejects_pure (a : α) (s : σ) (e : ε) : ¬ Rejects (pure a : Tx σ ε α) s e := by
  intro h
  cases h

@[simp] theorem rejects_bind (t : Tx σ ε α) (f : α → Tx σ ε β) (s : σ) (e : ε) :
    Rejects (t >>= f) s e ↔ Rejects t s e ∨ ∃ a s₁, Commits t s a s₁ ∧ Rejects (f a) s₁ e := by
  simp only [Rejects, Commits, bind, StateT.bind, Except.bind]
  cases t s with
  | error e' => simp
  | ok p =>
    simp only [reduceCtorEq, false_or, Except.ok.injEq]
    exact ⟨fun h => ⟨p.1, p.2, rfl, h⟩, fun ⟨a, s₁, h₁, h₂⟩ => by cases h₁; exact h₂⟩

@[simp] theorem rejects_get (s : σ) (e : ε) : ¬ Rejects (get : Tx σ ε σ) s e := by
  simp [Rejects, get, getThe, MonadStateOf.get, StateT.get, pure, Except.pure]

@[simp] theorem rejects_modify (f : σ → σ) (s : σ) (e : ε) :
    ¬ Rejects (modify f : Tx σ ε Unit) s e := by
  simp [Rejects, modify, modifyGet, MonadStateOf.modifyGet, StateT.modifyGet, pure, Except.pure]

@[simp] theorem rejects_throw (e' : ε) (s : σ) (e : ε) :
    Rejects (throw e' : Tx σ ε α) s e ↔ e = e' := by
  have h : (throw e' : Tx σ ε α) s = .error e' := rfl
  rw [Rejects, h, Except.error.injEq]
  exact eq_comm

@[simp] theorem rejects_rejectIf (c : Prop) [Decidable c] (e' : ε) (s : σ) (e : ε) :
    Rejects (rejectIf c e' : Tx σ ε Unit) s e ↔ c ∧ e = e' := by
  unfold rejectIf
  split
  · rename_i hc
    simp [hc]
  · rename_i hc
    simp [hc]

@[simp] theorem rejects_orReject (o : Option α) (e' : ε) (s : σ) (e : ε) :
    Rejects (orReject o e' : Tx σ ε α) s e ↔ o = none ∧ e = e' := by
  cases o with
  | none => simp [orReject]
  | some b => simp [orReject]

/-! ## Bodies that only read -/

variable {τ : Type} {f : σ → τ}

/-- Body `t` writes nothing and looks at nothing but `f` of the state. -/
def ReadsOnly (f : σ → τ) (t : Tx σ ε α) : Prop :=
  ∀ s s', f s = f s' → ∀ a s₁, Commits t s a s₁ → s = s₁ ∧ Commits t s' a s'

theorem readsOnly_pure (a : α) : ReadsOnly f (pure a : Tx σ ε α) := by
  intro s s' _ b s₁ h
  obtain ⟨rfl, rfl⟩ := (commits_pure _ _ _ _).1 h
  exact ⟨rfl, (commits_pure _ _ _ _).2 ⟨rfl, rfl⟩⟩

theorem readsOnly_throw (e : ε) : ReadsOnly f (throw e : Tx σ ε α) :=
  fun _ _ _ _ _ h => absurd h (commits_throw _ _ _ _)

theorem readsOnly_rejectIf (c : Prop) [Decidable c] (e : ε) :
    ReadsOnly f (rejectIf c e : Tx σ ε Unit) := by
  intro s s' _ u s₁ h
  obtain ⟨hc, rfl⟩ := (commits_rejectIf _ _ _ _ _).1 h
  exact ⟨rfl, (commits_rejectIf _ _ _ _ _).2 ⟨hc, rfl⟩⟩

theorem readsOnly_orReject (o : Option α) (e : ε) : ReadsOnly f (orReject o e : Tx σ ε α) := by
  intro s s' _ a s₁ h
  obtain ⟨ho, rfl⟩ := (commits_orReject _ _ _ _ _).1 h
  exact ⟨rfl, (commits_orReject _ _ _ _ _).2 ⟨ho, rfl⟩⟩

theorem readsOnly_reads {g : σ → α} (hg : ∀ s s', f s = f s' → g s = g s') :
    ReadsOnly f (reads g : Tx σ ε α) := by
  intro s s' hf a s₁ h
  obtain ⟨rfl, rfl⟩ := (commits_reads _ _ _ _).1 h
  exact ⟨rfl, (commits_reads _ _ _ _).2 ⟨hg s s' hf, rfl⟩⟩

theorem ReadsOnly.bind (ht : ReadsOnly f t) (hk : ∀ a, ReadsOnly f (k a)) :
    ReadsOnly f (t >>= k) := by
  intro s s' hf b s₁ h
  obtain ⟨a, s₂, hta, hkb⟩ := (commits_bind _ _ _ _ _).1 h
  obtain ⟨rfl, hta'⟩ := ht s s' hf a s₂ hta
  obtain ⟨rfl, hkb'⟩ := hk a s s' hf b s₁ hkb
  exact ⟨rfl, (commits_bind _ _ _ _ _).2 ⟨a, s', hta', hkb'⟩⟩

theorem ReadsOnly.get_bind {k : σ → Tx σ ε β} (hk : ∀ s, ReadsOnly f (k s))
    (heq : ∀ s s', f s = f s' → k s = k s') : ReadsOnly f ((get : Tx σ ε σ) >>= k) := by
  intro s s' hf b s₁ h
  obtain ⟨_, _, hget, hkb⟩ := (commits_bind _ _ _ _ _).1 h
  obtain ⟨rfl, rfl⟩ := (commits_get _ _ _).1 hget
  obtain ⟨rfl, hkb'⟩ := hk s s s' hf b s₁ hkb
  rw [heq s s' hf] at hkb'
  exact ⟨rfl, (commits_bind _ _ _ _ _).2 ⟨s', s', (commits_get _ _ _).2 ⟨rfl, rfl⟩, hkb'⟩⟩

theorem readsOnly_lookup (g : τ → Option α) (e : ε) :
    ReadsOnly f ((get : Tx σ ε σ) >>= fun s => orReject (g (f s)) e) :=
  .get_bind (fun _ => readsOnly_orReject _ _) fun _ _ h => by rw [h]

theorem readsOnly_forM {g : β → Tx σ ε PUnit} {xs : List β} (hg : ∀ x ∈ xs, ReadsOnly f (g x)) :
    ReadsOnly f (xs.forM g) := by
  induction xs with
  | nil => exact readsOnly_pure _
  | cons x xs ih =>
    rw [List.forM]
    exact (hg x List.mem_cons_self).bind fun _ => ih fun y hy => hg y (List.mem_cons_of_mem x hy)

/-! ## Bodies run for one half of their outcome -/

/-- What body `t` returns from `s`. -/
def value (t : Tx σ ε α) (s : σ) : Except ε α := (t s).map Prod.fst

/-- The state body `t` leaves from `s`. -/
def result (t : Tx σ ε α) (s : σ) : Except ε σ := (t s).map Prod.snd

theorem value_eq_ok : value t s = .ok a ↔ ∃ s', Commits t s a s' := by
  unfold value Commits
  cases t s with
  | error e => exact ⟨nofun, nofun⟩
  | ok p =>
    refine ⟨fun h => ⟨p.2, ?_⟩, fun ⟨s', h⟩ => ?_⟩
    · rw [← Except.ok.inj h]
    · rw [Except.ok.inj h]
      rfl

variable {s' s₀ : σ}

theorem result_eq_ok : result t s = .ok s' ↔ ∃ a, Commits t s a s' := by
  unfold result Commits
  cases t s with
  | error e => exact ⟨nofun, nofun⟩
  | ok p =>
    refine ⟨fun h => ⟨p.1, ?_⟩, fun ⟨a, h⟩ => ?_⟩
    · rw [← Except.ok.inj h]
    · rw [Except.ok.inj h]
      rfl

theorem toOption_result_eq_some : (result t s).toOption = some s' ↔ ∃ a, Commits t s a s' := by
  rw [← result_eq_ok]
  cases result t s <;> simp [Except.toOption]

theorem except_bind_eq_ok {x : Except ε α} {f : α → Except ε β} {b : β} :
    (x >>= f) = .ok b ↔ ∃ a, x = .ok a ∧ f a = .ok b := by
  cases x with
  | error e => exact ⟨nofun, nofun⟩
  | ok a => exact ⟨fun h => ⟨a, rfl, h⟩, fun ⟨a', ha, h⟩ => by cases ha; exact h⟩

theorem mapM_ok_iff (f : α → Except ε β) (xs : List α) :
    (∃ ys, xs.mapM f = .ok ys) ↔ ∀ x ∈ xs, ∃ y, f x = .ok y := by
  induction xs with
  | nil => simp [pure, Except.pure]
  | cons x xs ih =>
    rw [List.mapM_cons, List.forall_mem_cons, ← ih]
    cases f x with
    | error e => simp [bind, Except.bind]
    | ok y => cases xs.mapM f <;> simp [bind, Except.bind, pure, Except.pure]

theorem mem_mapM_ok {f : α → Except ε β} :
    ∀ {ys : List β}, xs.mapM f = .ok ys → ∀ y, y ∈ ys ↔ ∃ x ∈ xs, f x = .ok y := by
  induction xs with
  | nil =>
    intro ys h y
    obtain rfl : [] = ys := Except.ok.inj h
    simp
  | cons x xs ih =>
    intro ys h y
    rw [List.mapM_cons] at h
    cases hx : f x with
    | error e => simp [hx, bind, Except.bind] at h
    | ok y' =>
      cases hxs : xs.mapM f with
      | error e => simp [hx, hxs, bind, Except.bind] at h
      | ok ys' =>
        obtain rfl : y' :: ys' = ys := by
          simpa [hx, hxs, bind, Except.bind, pure, Except.pure] using h
        simp only [List.mem_cons, exists_eq_or_imp, hx, Except.ok.injEq, ih hxs y, eq_comm (a := y)]

/-- Stop with `e` when `c` holds, where nothing is written. -/
def refuseIf (c : Prop) [Decidable c] (e : ε) : Except ε Unit :=
  if c then throw e else pure ()

variable {e : ε}

theorem refuseIf_eq_ok {c : Prop} [Decidable c] {u : Unit} : refuseIf c e = .ok u ↔ ¬ c := by
  unfold refuseIf
  by_cases hc : c
  · rw [if_pos hc]
    exact ⟨nofun, fun h => absurd hc h⟩
  · rw [if_neg hc]
    exact ⟨fun _ => hc, fun _ => rfl⟩

/-- The value of `o`, or stop with `e`, where nothing is written. -/
def orRefuse (o : Option α) (e : ε) : Except ε α :=
  match o with
  | some a => pure a
  | none => throw e

theorem orRefuse_eq_ok {o : Option α} : orRefuse o e = .ok a ↔ o = some a := by
  cases o with
  | none => exact ⟨nofun, nofun⟩
  | some b => exact ⟨fun h => congrArg some (Except.ok.inj h), fun h => by cases h; rfl⟩

/-! ## Running -/

/-- Rollback. A rejected body leaves the state as it was. -/
theorem run_of_rejects (h : Rejects t s e) : run t s = (.error e, s) := by
  rw [run, show t s = .error e from h]

theorem run_cases (t : Tx σ ε α) (s : σ) :
    (∃ a s', Commits t s a s' ∧ run t s = (.ok a, s')) ∨
      ∃ e, Rejects t s e ∧ run t s = (.error e, s) := by
  unfold run Commits Rejects
  cases t s with
  | error e => exact .inr ⟨e, rfl, rfl⟩
  | ok p => exact .inl ⟨p.1, p.2, rfl, rfl⟩

theorem run_eq_ok : run t s = (.ok a, s') ↔ Commits t s a s' := by
  unfold run Commits
  cases t s with
  | error e => exact ⟨nofun, nofun⟩
  | ok p =>
    simp only [Prod.mk.injEq, Except.ok.injEq]
    constructor
    · rintro ⟨rfl, rfl⟩
      rfl
    · rintro rfl
      exact ⟨rfl, rfl⟩

theorem run_fst_eq_ok : (run t s).1 = .ok a ↔ ∃ s', Commits t s a s' := by
  rcases run_cases t s with ⟨b, s', hc, hrun⟩ | ⟨e, hr, hrun⟩
  · rw [hrun]
    constructor
    · intro h
      exact ⟨s', Except.ok.inj h ▸ hc⟩
    · rintro ⟨s₁, hc'⟩
      rw [(hc.unique hc').1]
  · rw [hrun]
    constructor
    · intro h
      cases h
    · rintro ⟨s', hc⟩
      exact absurd (hr.symm.trans hc) nofun

theorem run_fst_eq_error : (run t s).1 = .error e ↔ Rejects t s e := by
  rcases run_cases t s with ⟨b, s', hc, hrun⟩ | ⟨e', hr, hrun⟩
  · rw [hrun]
    constructor
    · intro h
      cases h
    · intro h
      exact absurd (h.symm.trans hc) nofun
  · rw [hrun]
    constructor
    · intro h
      exact Except.error.inj h ▸ hr
    · intro h
      rw [Except.error.inj (hr.symm.trans h)]

theorem commits_of_run_isOk (h : (run t s).1.isOk = true) : ∃ a, Commits t s a (run t s).2 := by
  rcases run_cases t s with ⟨a, s', hc, hrun⟩ | ⟨e, -, hrun⟩
  · exact ⟨a, by rw [hrun]; exact hc⟩
  · rw [hrun] at h
    cases h

theorem commits_of_run_any {p : α → Bool} (h : (run t s).1.toOption.any p = true) :
    ∃ a, Commits t s a (run t s).2 ∧ p a = true := by
  rcases run_cases t s with ⟨a, s', hc, hrun⟩ | ⟨e, -, hrun⟩
  · rw [hrun] at h ⊢
    exact ⟨a, hc, h⟩
  · rw [hrun] at h
    cases h

/-! ## Loop rules -/

/-- Partial loop rule, `foldlM`. The invariant speaks about the items done
so far, the accumulator and the state; if every iteration that commits extends
it by its item, it holds of the whole list at the end of a loop that commits. -/
theorem foldlM_invariant {f : β → α → Tx σ ε β} (I : List α → β → σ → Prop)
    (hstep : ∀ done x rest b s b' s', xs = done ++ x :: rest → I done b s → Commits (f b x) s b' s' → I (done ++ [x]) b' s')
    {b₀ b : β} (h₀ : I [] b₀ s₀) (hc : Commits (xs.foldlM f b₀) s₀ b s) : I xs b s := by
  suffices H : ∀ (rest done : List α) (b₁ : β) (s₁ : σ), xs = done ++ rest → I done b₁ s₁ →
      Commits (rest.foldlM f b₁) s₁ b s → I xs b s from H xs [] b₀ s₀ rfl h₀ hc
  intro rest
  induction rest with
  | nil =>
    intro done b₁ s₁ hxs hI h
    obtain ⟨rfl, rfl⟩ := (commits_foldlM_nil f b₁ b s₁ s).1 h
    rwa [hxs, List.append_nil]
  | cons x rest ih =>
    intro done b₁ s₁ hxs hI h
    obtain ⟨b₂, s₂, hx, hrest⟩ := (commits_foldlM_cons f b₁ b x rest s₁ s).1 h
    refine ih (done ++ [x]) b₂ s₂ ?_ (hstep done x rest b₁ s₁ b₂ s₂ hxs hI hx) hrest
    rw [hxs, List.append_assoc, List.singleton_append]

/-- Partial loop rule, `forM`. -/
theorem forM_invariant {f : α → Tx σ ε PUnit} (I : List α → σ → Prop)
    (hstep : ∀ done x rest s s', xs = done ++ x :: rest → I done s → Commits (f x) s ⟨⟩ s' → I (done ++ [x]) s')
    {u : PUnit} (h₀ : I [] s₀) (hc : Commits (xs.forM f) s₀ u s) : I xs s := by
  suffices H : ∀ (rest done : List α) (s₁ : σ), xs = done ++ rest → I done s₁ →
      Commits (rest.forM f) s₁ u s → I xs s from H xs [] s₀ rfl h₀ hc
  intro rest
  induction rest with
  | nil =>
    intro done s₁ hxs hI h
    obtain rfl := (commits_forM_nil f s₁ u s).1 h
    rwa [hxs, List.append_nil]
  | cons x rest ih =>
    intro done s₁ hxs hI h
    obtain ⟨s₂, hx, hrest⟩ := (commits_forM_cons f x rest s₁ u s).1 h
    refine ih (done ++ [x]) s₂ ?_ (hstep done x rest s₁ s₂ hxs hI hx) hrest
    rw [hxs, List.append_assoc, List.singleton_append]

/-- Body `t` commits from `s`, in a way that satisfies `Q`. -/
def Succeeds (t : Tx σ ε α) (s : σ) (Q : α → σ → Prop) : Prop :=
  ∃ a s', Commits t s a s' ∧ Q a s'

theorem Succeeds.mono {R : α → σ → Prop} (h : Succeeds t s Q) (hQR : ∀ a s', Q a s' → R a s') :
    Succeeds t s R := by
  obtain ⟨a, s', hc, hQ⟩ := h
  exact ⟨a, s', hc, hQR a s' hQ⟩

theorem Succeeds.of_commits (h : Succeeds t s Q) (hc : Commits t s a s') : Q a s' := by
  obtain ⟨b, s₁, hb, hQ⟩ := h
  obtain ⟨rfl, rfl⟩ := hc.unique hb
  exact hQ

theorem Commits.succeeds (h : Commits t s a s') : Succeeds t s fun b s₁ => a = b ∧ s' = s₁ :=
  ⟨a, s', h, rfl, rfl⟩

theorem Succeeds.run (h : Succeeds t s Q) : ∃ a, Q a (Tx.run t s).2 := by
  obtain ⟨a, s', hc, hQ⟩ := h
  rw [Tx.run, show t s = .ok (a, s') from hc]
  exact ⟨a, hQ⟩

theorem Succeeds.pure (h : Q a s) : Succeeds (pure a : Tx σ ε α) s Q :=
  ⟨a, s, (commits_pure a a s s).2 ⟨rfl, rfl⟩, h⟩

theorem Succeeds.bind {f : α → Tx σ ε β} (ht : Succeeds t s Q)
    (hf : ∀ a s', Q a s' → Succeeds (f a) s' R) : Succeeds (t >>= f) s R := by
  obtain ⟨a, s₁, hc, hQ⟩ := ht
  obtain ⟨b, s', hc', hR⟩ := hf a s₁ hQ
  exact ⟨b, s', (commits_bind t f s b s').2 ⟨a, s₁, hc, hc'⟩, hR⟩

/-! A step that cannot fail, or whose check is known to pass, and what follows it. -/

theorem Succeeds.get_bind {f : σ → Tx σ ε β} (h : Succeeds (f s) s R) :
    Succeeds (get >>= f) s R := by
  refine ((commits_get s s s).2 ⟨rfl, rfl⟩).succeeds.bind ?_
  rintro _ _ ⟨rfl, rfl⟩
  exact h

theorem Succeeds.modify_bind {f : σ → σ} {k : Unit → Tx σ ε β} (h : Succeeds (k ⟨⟩) (f s) R) :
    Succeeds (modify f >>= k) s R := by
  refine ((commits_modify f s (f s) ⟨⟩).2 rfl).succeeds.bind ?_
  rintro _ _ ⟨rfl, rfl⟩
  exact h

theorem Succeeds.rejectIf_bind {c : Prop} [Decidable c] {k : Unit → Tx σ ε β} (hc : ¬ c)
    (h : Succeeds (k ⟨⟩) s R) : Succeeds (rejectIf c e >>= k) s R := by
  refine ((commits_rejectIf c e s ⟨⟩ s).2 ⟨hc, rfl⟩).succeeds.bind ?_
  rintro _ _ ⟨rfl, rfl⟩
  exact h

theorem Succeeds.orReject_bind {o : Option α} (ho : o = some a) (h : Succeeds (k a) s R) :
    Succeeds (orReject o e >>= k) s R := by
  refine ((commits_orReject o e s a s).2 ⟨ho, rfl⟩).succeeds.bind ?_
  rintro _ _ ⟨rfl, rfl⟩
  exact h

/-- Total loop rule, `foldlM`. If every iteration commits and extends the
invariant, the loop commits and the invariant holds of the whole list. -/
theorem foldlM_succeeds {f : β → α → Tx σ ε β} (I : List α → β → σ → Prop)
    (hstep : ∀ done x rest b s, xs = done ++ x :: rest → I done b s → Succeeds (f b x) s (I (done ++ [x])))
    {b₀ : β} (h₀ : I [] b₀ s₀) : Succeeds (xs.foldlM f b₀) s₀ (I xs) := by
  suffices H : ∀ (rest done : List α) (b₁ : β) (s₁ : σ), xs = done ++ rest → I done b₁ s₁ →
      Succeeds (rest.foldlM f b₁) s₁ (I xs) from H xs [] b₀ s₀ rfl h₀
  intro rest
  induction rest with
  | nil =>
    intro done b₁ s₁ hxs hI
    refine ⟨b₁, s₁, (commits_foldlM_nil f b₁ b₁ s₁ s₁).2 ⟨rfl, rfl⟩, ?_⟩
    rwa [hxs, List.append_nil]
  | cons x rest ih =>
    intro done b₁ s₁ hxs hI
    obtain ⟨b₂, s₂, hx, hI₂⟩ := hstep done x rest b₁ s₁ hxs hI
    have hxs' : xs = done ++ [x] ++ rest := by
      rw [hxs, List.append_assoc, List.singleton_append]
    obtain ⟨b, s, hrest, hQ⟩ := ih (done ++ [x]) b₂ s₂ hxs' hI₂
    exact ⟨b, s, (commits_foldlM_cons f b₁ b x rest s₁ s).2 ⟨b₂, s₂, hx, hrest⟩, hQ⟩

/-- Total loop rule, `forM`. -/
theorem forM_succeeds {f : α → Tx σ ε PUnit} (I : List α → σ → Prop)
    (hstep : ∀ done x rest s, xs = done ++ x :: rest → I done s → Succeeds (f x) s (fun _ => I (done ++ [x]))) (h₀ : I [] s₀) : Succeeds (xs.forM f) s₀ (fun _ => I xs) := by
  suffices H : ∀ (rest done : List α) (s₁ : σ), xs = done ++ rest → I done s₁ →
      Succeeds (rest.forM f) s₁ (fun _ => I xs) from H xs [] s₀ rfl h₀
  intro rest
  induction rest with
  | nil =>
    intro done s₁ hxs hI
    refine ⟨⟨⟩, s₁, (commits_forM_nil f s₁ ⟨⟩ s₁).2 rfl, ?_⟩
    rwa [hxs, List.append_nil]
  | cons x rest ih =>
    intro done s₁ hxs hI
    obtain ⟨u, s₂, hx, hI₂⟩ := hstep done x rest s₁ hxs hI
    have hxs' : xs = done ++ [x] ++ rest := by
      rw [hxs, List.append_assoc, List.singleton_append]
    obtain ⟨v, s, hrest, hQ⟩ := ih (done ++ [x]) s₂ hxs' hI₂
    exact ⟨v, s, (commits_forM_cons f x rest s₁ v s).2 ⟨s₂, hx, hrest⟩, hQ⟩

end Lib
