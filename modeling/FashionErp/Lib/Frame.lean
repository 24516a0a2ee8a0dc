/-
What a transaction body may do to the state, read off its steps.

`Frame R t` says that every commit of body `t` is related by `R` to the state it began
in.
-/
import FashionErp.Lib.Tx

namespace Lib.Tx

variable {σ ε α β : Type} {R : σ → σ → Prop}

/-- Every commit of body `t` is related to where it began. -/
def Frame (R : σ → σ → Prop) (t : Tx σ ε α) : Prop :=
  ∀ s a s', Commits t s a s' → R s s'

variable {t : Tx σ ε α}

theorem Frame.of_commits {s s' : σ} {a : α} (ht : Frame R t) (h : Commits t s a s') : R s s' :=
  ht s a s' h

theorem frame_modify {f : σ → σ} (hf : ∀ s, R s (f s)) : Frame R (modify f : Tx σ ε PUnit) := by
  intro s a s' h
  rw [(commits_modify _ _ _ _).1 h]
  exact hf s

theorem frame_throw (e : ε) : Frame R (throw e : Tx σ ε α) :=
  fun _ _ _ h => absurd h (commits_throw _ _ _ _)

section Refl

variable [Std.Refl R]

theorem Frame.of_reads (ht : ∀ s a s', Commits t s a s' → s = s') : Frame R t := by
  intro s a s' h
  rw [ht s a s' h]
  exact Std.Refl.refl s'

theorem frame_pure (a : α) : Frame R (pure a : Tx σ ε α) := by
  intro s b s' h
  obtain ⟨-, rfl⟩ := (commits_pure _ _ _ _).1 h
  exact Std.Refl.refl s

theorem frame_rejectIf (c : Prop) [Decidable c] (e : ε) : Frame R (rejectIf c e : Tx σ ε Unit) := by
  intro s u s' h
  obtain ⟨-, rfl⟩ := (commits_rejectIf _ _ _ _ _).1 h
  exact Std.Refl.refl s

theorem frame_orReject (o : Option α) (e : ε) : Frame R (orReject o e : Tx σ ε α) := by
  intro s a s' h
  obtain ⟨-, rfl⟩ := (commits_orReject _ _ _ _ _).1 h
  exact Std.Refl.refl s

end Refl

theorem Frame.get_bind {k : σ → Tx σ ε β} (hk : ∀ s, Frame R (k s)) :
    Frame R ((get : Tx σ ε σ) >>= k) := by
  intro s b s' h
  obtain ⟨_, _, hget, h⟩ := (commits_bind _ _ _ _ _).1 h
  obtain ⟨rfl, rfl⟩ := (commits_get _ _ _).1 hget
  exact hk s s b s' h

theorem Frame.tryCatch {k : ε → Tx σ ε α} (ht : Frame R t) (hk : ∀ e, Frame R (k e)) :
    Frame R (tryCatch t k) := by
  intro s a s' h
  rcases (commits_tryCatch _ _ _ _ _).1 h with h | ⟨e, -, h⟩
  · exact ht s a s' h
  · exact hk e s a s' h

section Trans

variable [IsTrans σ R]

theorem Frame.bind {k : α → Tx σ ε β} (ht : Frame R t) (hk : ∀ a, Frame R (k a)) :
    Frame R (t >>= k) := by
  intro s b s' h
  obtain ⟨a, s₁, hta, hkb⟩ := (commits_bind _ _ _ _ _).1 h
  exact IsTrans.trans _ _ _ (ht s a s₁ hta) (hk a s₁ b s' hkb)

variable [Std.Refl R]

theorem Frame.void (ht : Frame R t) : Frame R (void t) :=
  ht.bind fun _ => frame_pure _

theorem frame_forM {f : α → Tx σ ε PUnit} {xs : List α} (hf : ∀ x ∈ xs, Frame R (f x)) :
    Frame R (xs.forM f) := by
  induction xs with
  | nil => exact frame_pure _
  | cons x xs ih =>
    rw [List.forM]
    exact (hf x List.mem_cons_self).bind fun _ => ih fun y hy => hf y (List.mem_cons_of_mem x hy)

theorem frame_foldlM {f : β → α → Tx σ ε β} {xs : List α} {b : β}
    (hf : ∀ b, ∀ x ∈ xs, Frame R (f b x)) : Frame R (xs.foldlM f b) := by
  induction xs generalizing b with
  | nil => exact frame_pure _
  | cons x xs ih =>
    rw [List.foldlM_cons]
    exact (hf b x List.mem_cons_self).bind fun b' =>
      ih fun c y hy => hf c y (List.mem_cons_of_mem x hy)

end Trans

end Lib.Tx
