/-
Tables with a primary key.

A `Table` is a list of rows in insertion order together with the proof that no two
rows carry the same key, so a table that breaks its primary key cannot be built.
-/
import Mathlib.Data.List.Nodup
import Mathlib.Algebra.BigOperators.Group.List.Basic
import Mathlib.Tactic.Abel

namespace Lib

class Keyed (ρ : Type) (κ : outParam Type) where
  key : ρ → κ

export Keyed (key)

variable {ρ κ M : Type} [Keyed ρ κ] [DecidableEq κ]

structure Table (ρ : Type) {κ : Type} [Keyed ρ κ] where
  rows : List ρ
  nodup : (rows.map key).Nodup

/-- Write `r` over the row of its key, or at the end. -/
def upsertRow (r : ρ) : List ρ → List ρ
  | [] => [r]
  | x :: xs => if key x = key r then r :: xs else x :: upsertRow r xs

theorem map_key_upsertRow (r : ρ) (xs : List ρ) :
    (upsertRow r xs).map key = if key r ∈ xs.map key then xs.map key else xs.map key ++ [key r] := by
  induction xs with
  | nil => simp [upsertRow]
  | cons x xs ih =>
    by_cases h : key x = key r
    · simp [upsertRow, h]
    · have h' : ¬ key r = key x := fun e => h e.symm
      by_cases hm : key r ∈ xs.map key
      · simp [upsertRow, h, h', ih, hm]
      · simp only [upsertRow, if_neg h, List.map_cons, ih, if_neg hm, List.mem_cons, h',
          false_or, List.cons_append]

theorem mem_upsertRow (r x : ρ) (xs : List ρ) (hnd : (xs.map key).Nodup) :
    x ∈ upsertRow r xs ↔ x = r ∨ (x ∈ xs ∧ key x ≠ key r) := by
  induction xs with
  | nil => simp [upsertRow]
  | cons y ys ih =>
    rw [List.map_cons, List.nodup_cons] at hnd
    obtain ⟨hy, hys⟩ := hnd
    by_cases h : key y = key r
    · rw [upsertRow, if_pos h, List.mem_cons, List.mem_cons]
      have hne : ∀ z ∈ ys, key z ≠ key r := fun z hz e => by
        exact hy (List.mem_map.2 ⟨z, hz, by rw [e, h]⟩)
      constructor
      · rintro (rfl | hx)
        · exact .inl rfl
        · exact .inr ⟨.inr hx, hne x hx⟩
      · rintro (rfl | ⟨rfl | hx, hk⟩)
        · exact .inl rfl
        · exact absurd h hk
        · exact .inr hx
    · rw [upsertRow, if_neg h, List.mem_cons, List.mem_cons, ih hys]
      constructor
      · rintro (rfl | rfl | ⟨hx, hk⟩)
        · exact .inr ⟨.inl rfl, h⟩
        · exact .inl rfl
        · exact .inr ⟨.inr hx, hk⟩
      · rintro (rfl | ⟨rfl | hx, hk⟩)
        · exact .inr (.inl rfl)
        · exact .inl rfl
        · exact .inr (.inr ⟨hx, hk⟩)

theorem find?_upsertRow (r : ρ) (k : κ) (xs : List ρ) :
    (upsertRow r xs).find? (fun x => key x = k) =
      if key r = k then some r else xs.find? (fun x => key x = k) := by
  induction xs with
  | nil => by_cases h : key r = k <;> simp [upsertRow, h]
  | cons x xs ih =>
    by_cases hx : key x = key r
    · by_cases hr : key r = k
      · simp [upsertRow, hx, hr]
      · have hxk : ¬ key x = k := fun e => hr (hx ▸ e)
        simp [upsertRow, hx, hr]
    · by_cases hr : key r = k
      · have hxk : ¬ key x = k := fun e => hx (e.trans hr.symm)
        simp [upsertRow, hr, hxk, ih]
      · simp [upsertRow, hx, hr, ih, List.find?_cons]

namespace Table

def empty : Table ρ := ⟨[], List.nodup_nil⟩

instance : Inhabited (Table ρ) := ⟨empty⟩

instance [DecidableEq ρ] : DecidableEq (Table ρ) := fun t u =>
  decidable_of_iff (t.rows = u.rows) (by cases t; cases u; simp)

/-- The row with key `k`. -/
def find? (t : Table ρ) (k : κ) : Option ρ :=
  t.rows.find? fun r => key r = k

def save (t : Table ρ) (r : ρ) : Table ρ where
  rows := upsertRow r t.rows
  nodup := by
    rw [map_key_upsertRow]
    split
    · exact t.nodup
    · next h => exact List.nodup_append.2 ⟨t.nodup, List.nodup_singleton _, fun a ha b hb e => by
        rw [List.mem_singleton] at hb
        exact h (hb ▸ e ▸ ha)⟩

def sum [AddCommMonoid M] (t : Table ρ) (f : ρ → M) : M :=
  (t.rows.map f).sum

def ofRows (rs : List ρ) : Table ρ :=
  rs.foldl save empty

/-! ## Lookup -/

@[simp] theorem find?_empty (k : κ) : (empty : Table ρ).find? k = none := rfl

theorem find?_save (t : Table ρ) (r : ρ) (k : κ) :
    (t.save r).find? k = if key r = k then some r else t.find? k :=
  find?_upsertRow r k t.rows

@[simp] theorem find?_save_self (t : Table ρ) (r : ρ) : (t.save r).find? (key r) = some r := by
  rw [find?_save, if_pos rfl]

theorem find?_save_ne (t : Table ρ) (r : ρ) (k : κ) (h : key r ≠ k) :
    (t.save r).find? k = t.find? k := by
  rw [find?_save, if_neg h]

variable {t : Table ρ} {r : ρ} {k : κ}

theorem key_of_find? (h : t.find? k = some r) : key r = k := by
  simpa using List.find?_some h

theorem mem_of_find? (h : t.find? k = some r) : r ∈ t.rows :=
  List.mem_of_find?_eq_some h

theorem mem_rows_iff (t : Table ρ) (r : ρ) : r ∈ t.rows ↔ t.find? (key r) = some r := by
  refine ⟨fun h => ?_, mem_of_find?⟩
  obtain ⟨rows, hnd⟩ := t
  simp only [find?]
  induction rows with
  | nil => exact absurd h List.not_mem_nil
  | cons x xs ih =>
    rw [List.map_cons, List.nodup_cons] at hnd
    rcases List.mem_cons.1 h with rfl | hr
    · simp
    · have hx : ¬ key x = key r := fun e => hnd.1 (List.mem_map.2 ⟨r, hr, e.symm⟩)
      simpa [List.find?_cons, hx] using ih hnd.2 hr

variable {r' : ρ}

theorem eq_of_key (h : r ∈ t.rows) (h' : r' ∈ t.rows) (hk : key r = key r') : r = r' := by
  have h₁ := (mem_rows_iff t r).1 h
  have h₂ := (mem_rows_iff t r').1 h'
  rw [hk, h₂] at h₁
  exact (Option.some.inj h₁).symm

theorem find?_eq_none : t.find? k = none ↔ ∀ r ∈ t.rows, key r ≠ k := by
  simp [find?, List.find?_eq_none]

theorem mem_save (t : Table ρ) (r x : ρ) :
    x ∈ (t.save r).rows ↔ x = r ∨ (x ∈ t.rows ∧ key x ≠ key r) :=
  mem_upsertRow r x t.rows t.nodup

theorem forall_save {P : ρ → Prop} (ht : ∀ x ∈ t.rows, P x) (hr : P r) :
    ∀ x ∈ (t.save r).rows, P x := by
  intro x hx
  rcases (mem_save t r x).1 hx with rfl | ⟨hx, -⟩
  · exact hr
  · exact ht x hx

theorem save_of_find? (h : t.find? (key r) = some r) : t.save r = t := by
  obtain ⟨rows, hnd⟩ := t
  simp only [save, Table.mk.injEq]
  simp only [find?] at h
  clear hnd
  induction rows with
  | nil => cases h
  | cons x xs ih =>
    by_cases hx : key x = key r
    · rw [List.find?_cons_of_pos (by simpa using hx)] at h
      rw [upsertRow, if_pos hx, Option.some.inj h]
    · rw [List.find?_cons_of_neg (by simpa using hx)] at h
      rw [upsertRow, if_neg hx, ih h]

theorem save_save (t : Table ρ) (h : key r = key r') : (t.save r).save r' = t.save r' := by
  obtain ⟨rows, hnd⟩ := t
  simp only [save, Table.mk.injEq]
  clear hnd
  induction rows with
  | nil => simp [upsertRow, h]
  | cons x xs ih =>
    by_cases hx : key x = key r
    · rw [upsertRow, if_pos hx, upsertRow, if_pos h, upsertRow, if_pos (hx.trans h)]
    · rw [upsertRow, if_neg hx, upsertRow, if_neg (h ▸ hx), ih, upsertRow, if_neg (h ▸ hx)]

theorem find?_save_over {j : κ} {x : ρ} (h : t.find? k = some r) (hk : key r' = key r)
    (hx : (t.save r').find? j = some x) : (j = k ∧ x = r') ∨ (j ≠ k ∧ t.find? j = some x) := by
  have hr' : key r' = k := hk.trans (key_of_find? h)
  rw [find?_save, hr'] at hx
  by_cases hj : k = j
  · rw [if_pos hj] at hx
    exact .inl ⟨hj.symm, (Option.some.inj hx).symm⟩
  · rw [if_neg hj] at hx
    exact .inr ⟨fun e => hj e.symm, hx⟩

theorem map_find?_save_over {β : Type} (f : ρ → β) (h : t.find? k = some r)
    (hk : key r' = key r) (hf : f r' = f r) (j : κ) :
    ((t.save r').find? j).map f = (t.find? j).map f := by
  rw [find?_save]
  split
  · rename_i hj
    have hkey : k = j := (key_of_find? h).symm.trans (hk.symm.trans hj)
    rw [← hkey, h, Option.map_some, Option.map_some, hf]
  · rfl

theorem rows_save_new (h : t.find? (key r) = none) : (t.save r).rows = t.rows ++ [r] := by
  obtain ⟨rows, hnd⟩ := t
  simp only [save, find?] at h ⊢
  clear hnd
  induction rows with
  | nil => rfl
  | cons x xs ih =>
    rw [List.find?_cons] at h
    split at h
    · cases h
    · rename_i hx
      rw [upsertRow, if_neg (of_decide_eq_false hx), ih h, List.cons_append]

theorem filter_rows_save_new (h : t.find? (key r) = none) (P : ρ → Bool) :
    (t.save r).rows.filter P = t.rows.filter P ++ [r].filter P := by
  rw [rows_save_new h, List.filter_append]

theorem rows_save_over (h : t.find? (key r') = some r) :
    (t.save r').rows = t.rows.map fun x => if key x = key r' then r' else x := by
  obtain ⟨rows, hnd⟩ := t
  simp only [save, find?] at h ⊢
  induction rows with
  | nil => cases h
  | cons x xs ih =>
    rw [List.map_cons, List.nodup_cons] at hnd
    by_cases hx : key x = key r'
    · have hxs : xs.map (fun y => if key y = key r' then r' else y) = xs := by
        refine (List.map_congr_left fun y hy => if_neg fun hkey => ?_).trans (List.map_id xs)
        exact hnd.1 (hx ▸ hkey ▸ List.mem_map_of_mem hy)
      rw [upsertRow, if_pos hx, List.map_cons, if_pos hx, hxs]
    · rw [List.find?_cons_of_neg (by simpa using hx)] at h
      rw [upsertRow, if_neg hx, List.map_cons, if_neg hx, ih hnd.2 h]

theorem find?_rows_save_over (h : t.find? (key r') = some r) {p : ρ → Bool} (hp : p r' = p r) :
    (t.save r').rows.find? p = (t.rows.find? p).map fun x => if key x = key r' then r' else x := by
  rw [rows_save_over h, List.find?_map]
  congr 1
  have hsame : ∀ x ∈ t.rows, (p ∘ fun x => if key x = key r' then r' else x) x = p x := by
    intro x hx
    by_cases hkey : key x = key r'
    · have hrow : x = r := eq_of_key hx (mem_of_find? h) (hkey.trans (key_of_find? h).symm)
      rw [Function.comp_apply, if_pos hkey, hp, hrow]
    · rw [Function.comp_apply, if_neg hkey]
  generalize t.rows = rows at hsame ⊢
  induction rows with
  | nil => rfl
  | cons x xs ih =>
    rw [List.find?_cons, List.find?_cons, hsame x List.mem_cons_self,
      ih fun y hy => hsame y (List.mem_cons_of_mem x hy)]

/-! ## Several rows at once -/

def deleteWhere (t : Table ρ) (p : ρ → Bool) : Table ρ where
  rows := t.rows.filter fun r => !p r
  nodup := t.nodup.sublist (List.filter_sublist.map key)

omit [DecidableEq κ] in
theorem mem_deleteWhere (t : Table ρ) (p : ρ → Bool) (r : ρ) :
    r ∈ (t.deleteWhere p).rows ↔ r ∈ t.rows ∧ p r = false := by
  simp [deleteWhere]

def mapRows (t : Table ρ) (f : ρ → ρ) (hf : ∀ r, key (f r) = key r) : Table ρ where
  rows := t.rows.map f
  nodup := by
    rw [List.map_map, show key ∘ f = key from funext hf]
    exact t.nodup

theorem find?_mapRows (t : Table ρ) (f : ρ → ρ) (hf : ∀ r, key (f r) = key r) (k : κ) :
    (t.mapRows f hf).find? k = (t.find? k).map f := by
  simp only [find?, mapRows, List.find?_map, Function.comp_def, hf]

def saveAll (t : Table ρ) (rs : List ρ) : Table ρ :=
  rs.foldl save t

theorem mem_saveAll (t : Table ρ) {rs : List ρ} (hrs : ∀ x ∈ rs, ∀ y ∈ rs, key x = key y → x = y)
    (r : ρ) : r ∈ (t.saveAll rs).rows ↔ r ∈ rs ∨ (r ∈ t.rows ∧ ∀ x ∈ rs, key r ≠ key x) := by
  induction rs generalizing t with
  | nil => simp [saveAll]
  | cons x xs ih =>
    have hxs : ∀ y ∈ xs, ∀ z ∈ xs, key y = key z → y = z := fun y hy z hz =>
      hrs y (List.mem_cons_of_mem x hy) z (List.mem_cons_of_mem x hz)
    rw [saveAll, List.foldl_cons, ← saveAll, ih (t.save x) hxs, mem_save, List.mem_cons,
      List.forall_mem_cons]
    constructor
    · rintro (hr | ⟨rfl | ⟨hr, hne⟩, hnot⟩)
      · exact .inl (.inr hr)
      · exact .inl (.inl rfl)
      · exact .inr ⟨hr, hne, hnot⟩
    · rintro ((rfl | hr) | ⟨hr, hne, hnot⟩)
      · by_cases hagain : ∃ y ∈ xs, key r = key y
        · obtain ⟨y, hy, hkey⟩ := hagain
          rw [hrs r List.mem_cons_self y (List.mem_cons_of_mem r hy) hkey]
          exact .inl hy
        · exact .inr ⟨.inl rfl, fun y hy hkey => hagain ⟨y, hy, hkey⟩⟩
      · exact .inl hr
      · exact .inr ⟨.inr ⟨hr, hne⟩, hnot⟩

/-! ## Sums -/

omit [DecidableEq κ] in
@[simp] theorem sum_empty [AddCommMonoid M] (f : ρ → M) : (empty : Table ρ).sum f = 0 := rfl

/-- A write changes a sum by one row. The sum after the write plus what the
replaced row counted is the sum before plus what the written row counts. -/
theorem sum_save [AddCommMonoid M] (t : Table ρ) (r : ρ) (f : ρ → M) :
    (t.save r).sum f + ((t.find? (key r)).map f).getD 0 = t.sum f + f r := by
  obtain ⟨rows, hnd⟩ := t
  simp only [sum, save, find?]
  clear hnd
  induction rows with
  | nil => simp [upsertRow]
  | cons x xs ih =>
    by_cases h : key x = key r
    · simp only [upsertRow, h, if_true, List.map_cons, List.sum_cons, List.find?_cons,
        decide_true, Option.map_some, Option.getD_some]
      abel
    · simp only [upsertRow, h, if_false, List.map_cons, List.sum_cons, List.find?_cons,
        decide_false]
      rw [add_assoc, ih, add_assoc]

theorem sum_save_new [AddCommMonoid M] (t : Table ρ) (r : ρ) (f : ρ → M)
    (h : t.find? (key r) = none) : (t.save r).sum f = t.sum f + f r := by
  have := sum_save t r f
  rwa [h, Option.map_none, Option.getD_none, add_zero] at this

theorem sum_save_over [AddCommGroup M] (t : Table ρ) (r r₀ : ρ) (f : ρ → M)
    (h : t.find? (key r) = some r₀) : (t.save r).sum f = t.sum f + (f r - f r₀) := by
  have := sum_save t r f
  rw [h, Option.map_some, Option.getD_some] at this
  rw [← add_sub_assoc, ← this, add_sub_cancel_right]

omit [DecidableEq κ] in
theorem sum_filter [AddCommMonoid M] (t : Table ρ) (p : ρ → Bool) (f : ρ → M) :
    ((t.rows.filter p).map f).sum = t.sum fun r => if p r then f r else 0 := by
  rw [sum]
  induction t.rows with
  | nil => rfl
  | cons x xs ih =>
    rw [List.map_cons, List.sum_cons, ← ih]
    by_cases hx : p x = true
    · rw [List.filter_cons_of_pos hx, List.map_cons, List.sum_cons, if_pos hx]
    · rw [List.filter_cons_of_neg hx, if_neg hx, zero_add]

end Table

end Lib
