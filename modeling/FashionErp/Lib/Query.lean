/-
What a query reads of its tables.

A query keeps the rows of a table that meet its conditions, looks further rows up by
their key, groups and sorts.
-/
import FashionErp.Lib.Ledger
import FashionErp.Lib.Table
import Mathlib.Data.List.Sort

namespace Lib

variable {α β κ : Type}

/-! ## Rows -/

theorem filter_filter_of_imp {p q : α → Bool} {l : List α} (h : ∀ x ∈ l, q x = true → p x = true) :
    (l.filter p).filter q = l.filter q := by
  rw [List.filter_filter]
  refine List.filter_congr fun x hx => ?_
  by_cases hq : q x = true
  · rw [hq, h x hx hq, Bool.and_self]
  · rw [Bool.eq_false_iff.2 hq, Bool.false_and]

/-- `INNER JOIN`: each row with the row it looks up, if there is one. -/
def innerJoin (rows : List α) (lookup : α → Option β) : List (α × β) :=
  rows.filterMap fun a => (lookup a).map (Prod.mk a)

/-- `LEFT JOIN`: each row with the row it looks up, or with none. -/
def leftJoin (rows : List α) (lookup : α → Option β) : List (α × Option β) :=
  rows.map fun a => (a, lookup a)

variable {rows : List α} {lookup : α → Option β}

theorem innerJoin_congr {f g : α → Option β} (h : ∀ a ∈ rows, f a = g a) :
    innerJoin rows f = innerJoin rows g :=
  List.filterMap_congr fun a ha => by rw [h a ha]

theorem leftJoin_congr {f g : α → Option β} (h : ∀ a ∈ rows, f a = g a) :
    leftJoin rows f = leftJoin rows g :=
  List.map_congr_left fun a ha => by rw [h a ha]

theorem mem_innerJoin {pair : α × β} :
    pair ∈ innerJoin rows lookup ↔ pair.1 ∈ rows ∧ lookup pair.1 = some pair.2 := by
  obtain ⟨a, b⟩ := pair
  simp only [innerJoin, List.mem_filterMap, Option.map_eq_some_iff, Prod.mk.injEq]
  constructor
  · rintro ⟨x, hx, y, hy, rfl, rfl⟩
    exact ⟨hx, hy⟩
  · rintro ⟨ha, hb⟩
    exact ⟨a, ha, b, hb, rfl, rfl⟩

theorem filter_innerJoin (rows : List α) (lookup : α → Option β) (p : β → Bool) :
    (innerJoin rows lookup).filter (fun pair => p pair.2) =
      innerJoin rows fun a => (lookup a).filter p := by
  unfold innerJoin
  rw [List.filter_filterMap]
  refine List.filterMap_congr fun a _ => ?_
  dsimp only
  cases lookup a with
  | none => rfl
  | some b =>
    rw [Option.map_some, Option.filter_some, Option.filter_some]
    split <;> rfl

theorem innerJoin_filter {p : α → Bool} (h : ∀ a ∈ rows, ¬ p a = true → lookup a = none) :
    innerJoin (rows.filter p) lookup = innerJoin rows lookup := by
  unfold innerJoin
  rw [List.filterMap_filter]
  refine List.filterMap_congr fun a ha => ?_
  by_cases hp : p a = true
  · rw [if_pos hp]
  · rw [if_neg hp, h a ha hp, Option.map_none]

/-- `GROUP BY`: each value of the key with the rows that have it. -/
def groupBy [DecidableEq κ] (f : α → κ) (rows : List α) : List (κ × List α) :=
  (rows.map f).eraseDups.map fun k => (k, rows.filter fun a => f a = k)

theorem nodup_eraseDups [DecidableEq κ] : ∀ ks : List κ, ks.eraseDups.Nodup
  | [] => by
    rw [List.eraseDups_nil]
    exact List.nodup_nil
  | k :: ks => by
    rw [List.eraseDups_cons, List.nodup_cons, List.mem_eraseDups]
    refine ⟨fun hk => ?_, nodup_eraseDups _⟩
    simp at hk
  termination_by ks => ks.length
  decreasing_by exact Nat.lt_succ_of_le (List.length_filter_le _ _)

theorem sum_groupBy [DecidableEq κ] {M : Type} [AddCommMonoid M] (f : α → κ) (rows : List α)
    (amount : α → M) :
    ((groupBy f rows).map fun group => (group.2.map amount).sum).sum = (rows.map amount).sum := by
  have hmem : ∀ p ∈ rows.map (fun a => (f a, amount a)), p.1 ∈ (rows.map f).eraseDups := by
    intro p hp
    obtain ⟨a, ha, rfl⟩ := List.mem_map.1 hp
    exact List.mem_eraseDups.2 (List.mem_map_of_mem ha)
  have hsum := sum_net (nodup_eraseDups _) hmem
  rw [List.map_map] at hsum
  refine Eq.trans ?_ hsum
  rw [groupBy, List.map_map]
  refine congrArg List.sum (List.map_congr_left fun k _ => ?_)
  rw [net, List.filter_map, List.map_map]
  rfl

theorem length_groupBy [DecidableEq κ] (f : α → κ) (rows : List α) :
    ((groupBy f rows).map fun group => group.2.length).sum = rows.length := by
  have hsum := sum_groupBy f rows fun _ => 1
  simpa using hsum

theorem map_fst_leftJoin (rows : List α) (lookup : α → Option β) :
    (leftJoin rows lookup).map Prod.fst = rows := by
  rw [leftJoin, List.map_map]
  exact List.map_id rows

theorem map_fst_innerJoin_sublist (rows : List α) (lookup : α → Option β) :
    ((innerJoin rows lookup).map Prod.fst).Sublist rows := by
  induction rows with
  | nil => exact .slnil
  | cons a rows ih =>
    unfold innerJoin at ih ⊢
    rw [List.filterMap_cons]
    cases lookup a with
    | none => exact .cons a ih
    | some b => exact .cons_cons a ih

theorem length_innerJoin_eq_iff :
    (innerJoin rows lookup).length = rows.length ↔ ∀ a ∈ rows, (lookup a).isSome := by
  rw [innerJoin, List.filterMap_length_eq_length]
  simp only [Option.isSome_map]

theorem map_fst_innerJoin (h : ∀ a ∈ rows, (lookup a).isSome) :
    (innerJoin rows lookup).map Prod.fst = rows := by
  rw [innerJoin, List.map_filterMap]
  have hkeep : ∀ a ∈ rows, ((lookup a).map (Prod.mk a)).map Prod.fst = some a := by
    intro a ha
    obtain ⟨b, hb⟩ := Option.isSome_iff_exists.1 (h a ha)
    rw [hb]
    rfl
  rw [List.filterMap_congr hkeep, List.filterMap_some]

/-! ## Fields joined by a separator -/

theorem append_separator_inj {x₁ x₂ z₁ z₂ : List α} {a : α} (h₁ : a ∉ x₁) (h₂ : a ∉ x₂) :
    x₁ ++ a :: z₁ = x₂ ++ a :: z₂ ↔ x₁ = x₂ ∧ z₁ = z₂ := by
  constructor
  · intro h
    rcases List.append_eq_append_iff.1 h with ⟨y, hx, hz⟩ | ⟨y, hx, hz⟩
    · cases y with
      | nil => exact ⟨by rw [hx, List.append_nil], (List.cons.inj hz).2⟩
      | cons b y =>
        obtain rfl := (List.cons.inj hz).1
        exact absurd (hx ▸ List.mem_append_right x₁ List.mem_cons_self) h₂
    · cases y with
      | nil => exact ⟨by rw [hx, List.append_nil], (List.cons.inj hz).2.symm⟩
      | cons b y =>
        obtain rfl := (List.cons.inj hz).1
        exact absurd (hx ▸ List.mem_append_right x₂ List.mem_cons_self) h₁
  · rintro ⟨rfl, rfl⟩
    rfl

theorem mem_of_mem_intercalate {separator : List α} {texts : List (List α)} {a : α}
    (h : a ∈ separator.intercalate texts) : a ∈ separator ∨ ∃ text ∈ texts, a ∈ text := by
  induction texts with
  | nil => simp at h
  | cons text texts ih =>
    cases texts with
    | nil => exact .inr ⟨text, List.mem_cons_self, by simpa using h⟩
    | cons next texts =>
      rw [List.intercalate_cons_cons, List.mem_append, List.mem_append] at h
      rcases h with (h | h) | h
      · exact .inr ⟨text, List.mem_cons_self, h⟩
      · exact .inl h
      · rcases ih h with h | ⟨other, hother, h⟩
        · exact .inl h
        · exact .inr ⟨other, List.mem_cons_of_mem text hother, h⟩

/-! ## Sorting before filtering -/

section Sorted

variable (r : α → α → Prop) [DecidableRel r] [IsTrans α r] (p : α → Bool)

theorem filter_orderedInsert (a : α) {l : List α} (hl : l.Pairwise r) :
    (l.orderedInsert r a).filter p =
      if p a then (l.filter p).orderedInsert r a else l.filter p := by
  induction l with
  | nil => rw [List.orderedInsert_nil, List.filter_singleton]; cases p a <;> rfl
  | cons b l ih =>
    obtain ⟨hb, hl⟩ := List.pairwise_cons.1 hl
    by_cases hab : r a b
    · rw [List.orderedInsert_cons_of_le r l hab]
      by_cases ha : p a = true
      · rw [List.filter_cons_of_pos ha, if_pos ha]
        -- what the filter keeps comes after `b`, and so after `a`
        have hafter : ∀ c ∈ (b :: l).filter p, r a c := by
          intro c hc
          rcases List.mem_cons.1 (List.mem_of_mem_filter hc) with rfl | hc
          · exact hab
          · exact IsTrans.trans a b c hab (hb c hc)
        cases hkept : (b :: l).filter p with
        | nil => rfl
        | cons c kept =>
          rw [List.orderedInsert_cons_of_le r kept (hafter c (hkept ▸ List.mem_cons_self))]
      · rw [List.filter_cons_of_neg ha, if_neg ha]
    · rw [List.orderedInsert_of_not_le r l hab]
      by_cases hpb : p b = true
      · rw [List.filter_cons_of_pos hpb, List.filter_cons_of_pos hpb, ih hl]
        split
        · rw [List.orderedInsert_of_not_le r _ hab]
        · rfl
      · rw [List.filter_cons_of_neg hpb, List.filter_cons_of_neg hpb, ih hl]

theorem filter_insertionSort [Std.Total r] (l : List α) :
    (l.insertionSort r).filter p = (l.filter p).insertionSort r := by
  induction l with
  | nil => rfl
  | cons a l ih =>
    rw [List.insertionSort_cons, filter_orderedInsert r p a (List.pairwise_insertionSort r l), ih]
    by_cases ha : p a = true
    · rw [if_pos ha, List.filter_cons_of_pos ha, List.insertionSort_cons]
    · rw [if_neg ha, List.filter_cons_of_neg ha]

end Sorted

/-! ## Tables -/

namespace Table

variable {ρ : Type} [Keyed ρ κ]

def filter (t : Table ρ) (p : ρ → Bool) : Table ρ where
  rows := t.rows.filter p
  nodup := t.nodup.sublist (List.filter_sublist.map key)

@[simp] theorem rows_filter (t : Table ρ) (p : ρ → Bool) : (t.filter p).rows = t.rows.filter p :=
  rfl

variable [DecidableEq κ]

theorem find?_filter (t : Table ρ) (p : ρ → Bool) (k : κ) :
    (t.filter p).find? k = (t.find? k).filter p := by
  cases hfind : t.find? k with
  | none =>
    rw [Option.filter_none, find?_eq_none]
    exact fun r hr => find?_eq_none.1 hfind r (List.mem_of_mem_filter hr)
  | some r =>
    have hkey := key_of_find? hfind
    by_cases hr : p r = true
    · rw [Option.filter_some_pos hr, ← hkey, ← mem_rows_iff, rows_filter, List.mem_filter]
      exact ⟨mem_of_find? hfind, hr⟩
    · rw [Option.filter_some_neg (Bool.eq_false_iff.2 hr), find?_eq_none]
      intro x hx hkey'
      obtain ⟨hx, hpx⟩ := List.mem_filter.1 hx
      have hsame : x = r := eq_of_key hx (mem_of_find? hfind) (hkey'.trans hkey.symm)
      exact hr (hsame ▸ hpx)

theorem find?_filter_of {t : Table ρ} {p : ρ → Bool} {k : κ}
    (h : ∀ r, t.find? k = some r → p r = true) : (t.filter p).find? k = t.find? k := by
  rw [find?_filter]
  cases hfind : t.find? k with
  | none => rfl
  | some r => rw [Option.filter_some_pos (h r hfind)]

end Table

end Lib
