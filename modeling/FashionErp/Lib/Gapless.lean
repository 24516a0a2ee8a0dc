/-
Sequences that are used up in order.

A sequence whose last number is `last` is `Gapless` if what was written under it are
the numbers from 1 to `last`, in order.
-/
import Mathlib.Data.List.Range
import Mathlib.Data.List.Nodup

namespace Lib

variable {α : Type} {write : ℕ → α} {last : ℕ} {used : List α}

/-- What was written are the numbers from 1 to `last`, each once and in order. -/
def Gapless (write : ℕ → α) (last : ℕ) (used : List α) : Prop :=
  used = (List.range' 1 last).map write

theorem Gapless.next (h : Gapless write last used) :
    Gapless write (last + 1) (used ++ [write (last + 1)]) := by
  unfold Gapless at h ⊢
  rw [h, List.range'_concat, List.map_append, List.map_singleton, Nat.one_mul, Nat.add_comm 1]

theorem Gapless.length (h : Gapless write last used) : used.length = last := by
  rw [h, List.length_map, List.length_range']

theorem Gapless.not_skip (h : Gapless write last used) : ¬ Gapless write (last + 1) used := by
  intro hskip
  have hlast := h.length
  have hnext := hskip.length
  omega

theorem Gapless.nodup (hwrite : Function.Injective write) (h : Gapless write last used) :
    used.Nodup := by
  rw [h]
  exact List.Nodup.map hwrite List.nodup_range'

end Lib
