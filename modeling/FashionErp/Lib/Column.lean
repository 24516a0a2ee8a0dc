/-
Saving a whole entity over a row that may have moved on.

An object mapper's `save(entity)` reads the row again and writes the columns in which
the entity differs from what it read; the other columns keep whatever the row holds
when the write happens.
-/
import Mathlib.Logic.Function.Basic

namespace Lib

variable {α : Type} [DecidableEq α]

/-- One column after `save`: the entity's value where it differs from the value
the save read, the row's own value elsewhere. -/
def mergeCol (entity seen row : α) : α :=
  if entity = seen then row else entity

@[simp] theorem mergeCol_same (entity row : α) : mergeCol entity row row = entity := by
  rw [mergeCol]
  split <;> simp_all

theorem mergeCol_of_eq {entity seen : α} (h : entity = seen) (row : α) :
    mergeCol entity seen row = row := if_pos h

theorem mergeCol_of_ne {entity seen : α} (h : entity ≠ seen) (row : α) :
    mergeCol entity seen row = entity := if_neg h

theorem mergeCol_cases (entity seen row : α) :
    mergeCol entity seen row = entity ∨ mergeCol entity seen row = row := by
  rw [mergeCol]
  split
  · exact .inr rfl
  · exact .inl rfl

theorem forall_update {ι φ : Type} [DecidableEq ι] {P : ι → φ → Prop} {f : ι → φ} {i : ι} {x : φ}
    (hi : P i x) (hrest : ∀ j, j ≠ i → P j (f j)) : ∀ j, P j (Function.update f i x j) := by
  intro j
  by_cases h : j = i
  · subst h
    rwa [Function.update_self]
  · rw [Function.update_of_ne h]
    exact hrest j h

end Lib
