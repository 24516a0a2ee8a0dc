/-
Pages of a sorted list, where each page is cut out of an order of its own.

The rows are sorted by a key, the greatest first, and rows of one key may come in any order, which
need not be the same for two pages.
-/
import Mathlib.Data.List.Nodup
import Mathlib.Data.List.Perm.Basic
import Mathlib.Order.Lattice

namespace Lib

variable {α κ : Type} [LinearOrder κ]

def pageOf (limit p : ℕ) (order : List α) : List α := (order.drop (p * limit)).take limit

def IsOrder (key : α → κ) (rows order : List α) : Prop :=
  order.Perm rows ∧ order.Pairwise fun a b => key b ≤ key a

/-- The pages `0` to `n - 1`, each of its own order. -/
def pages (limit n : ℕ) (order : ℕ → List α) : List α :=
  (List.range n).flatMap fun p => pageOf limit p (order p)

def before (key : α → κ) (k : κ) (rows : List α) : ℕ := rows.countP (k < key ·)

def atLeast (key : α → κ) (k : κ) (rows : List α) : ℕ := rows.countP (k ≤ key ·)

/-- Some key has rows on both sides of the boundary after `m` rows. -/
def Straddles (key : α → κ) (rows : List α) (m : ℕ) : Prop :=
  ∃ k, before key k rows < m ∧ m < atLeast key k rows

variable {key : α → κ} {rows order : List α} {limit m n : ℕ}

theorem before_perm (h : order.Perm rows) (k : κ) : before key k order = before key k rows :=
  h.countP_eq _

theorem atLeast_perm (h : order.Perm rows) (k : κ) : atLeast key k order = atLeast key k rows :=
  h.countP_eq _

theorem atLeast_le_before {k k' : κ} (h : k < k') : atLeast key k' rows ≤ before key k rows :=
  List.countP_mono_left fun _ _ ha => decide_eq_true (lt_of_lt_of_le h (of_decide_eq_true ha))

variable {back front : List α}

/-- Where a row can stand: after those of greater keys, and not after its own. -/
theorem position_bounds {a : α} (h : IsOrder key rows (front ++ a :: back)) :
    before key (key a) rows ≤ front.length ∧ front.length < atLeast key (key a) rows := by
  obtain ⟨hperm, hsorted⟩ := h
  rw [← before_perm hperm, ← atLeast_perm hperm]
  obtain ⟨-, hback, hfront⟩ := List.pairwise_append.1 hsorted
  unfold before atLeast
  rw [List.countP_append, List.countP_append]
  constructor
  · have hzero : (a :: back).countP (fun b => decide (key a < key b)) = 0 := by
      rw [List.countP_eq_zero]
      intro b hb
      rw [decide_eq_true_eq, not_lt]
      rcases List.mem_cons.1 hb with rfl | hb
      · exact le_refl _
      · exact (List.pairwise_cons.1 hback).1 b hb
    have hle := List.countP_le_length (p := fun b => decide (key a < key b)) (l := front)
    omega
  · have hall : front.countP (fun b => decide (key a ≤ key b)) = front.length := by
      rw [List.countP_eq_length]
      exact fun b hb => decide_eq_true (hfront b hb a List.mem_cons_self)
    have hself : 0 < (a :: back).countP fun b => decide (key a ≤ key b) :=
      List.countP_pos_iff.2 ⟨a, List.mem_cons_self, decide_eq_true (le_refl _)⟩
    omega

theorem take_eq_filter (h : IsOrder key rows order) (hm : ¬ Straddles key rows m) :
    order.take m = order.filter fun a => before key (key a) rows < m := by
  have htake : ∀ a ∈ order.take m, before key (key a) rows < m := by
    intro a ha
    obtain ⟨s, t, hsplit⟩ := List.append_of_mem ha
    have horder : order = s ++ a :: (t ++ order.drop m) := by
      rw [← List.cons_append, ← List.append_assoc, ← hsplit, List.take_append_drop]
    have hlt : s.length < m := by
      have hlength := congrArg List.length hsplit
      rw [List.length_append, List.length_cons] at hlength
      have hle := List.length_take_le m order
      omega
    exact Nat.lt_of_le_of_lt (position_bounds (horder ▸ h)).1 hlt
  have hdrop : ∀ a ∈ order.drop m, ¬ before key (key a) rows < m := by
    intro a ha hlt
    obtain ⟨s, t, hsplit⟩ := List.append_of_mem ha
    have horder : order = order.take m ++ s ++ a :: t := by
      rw [List.append_assoc, ← hsplit, List.take_append_drop]
    have hbounds := (position_bounds (horder ▸ h)).2
    refine hm ⟨key a, hlt, Nat.lt_of_le_of_lt ?_ hbounds⟩
    have hlength : m ≤ order.length := by
      by_contra hlong
      rw [List.drop_eq_nil_of_le (by omega)] at ha
      cases ha
    rw [List.length_append, List.length_take]
    omega
  conv_rhs => rw [← List.take_append_drop m order]
  rw [List.filter_append, List.filter_eq_self.2 fun a ha => decide_eq_true (htake a ha),
    List.filter_eq_nil_iff.2 fun a ha => by simpa using hdrop a ha, List.append_nil]

theorem pages_succ (order : ℕ → List α) :
    pages limit (n + 1) order = pages limit n order ++ pageOf limit n (order n) := by
  unfold pages
  rw [List.range_succ, List.flatMap_append, List.flatMap_singleton]

theorem take_append_pageOf (order : List α) :
    order.take (n * limit) ++ pageOf limit n order = order.take ((n + 1) * limit) := by
  unfold pageOf
  rw [Nat.succ_mul, List.take_add]

theorem pages_const (order : List α) : pages limit n (fun _ => order) = order.take (n * limit) := by
  induction n with
  | zero => simp [pages]
  | succ n ih => rw [pages_succ, ih, take_append_pageOf]

theorem pages_perm (hm : ∀ q, ¬ Straddles key rows (q * limit)) {order : ℕ → List α}
    (horder : ∀ p, IsOrder key rows (order p)) (hn : rows.length ≤ n * limit) :
    (pages limit n order).Perm rows := by
  have hpages : ∀ n, (pages limit n order).Perm
      (rows.filter fun a => before key (key a) rows < n * limit) := by
    intro n
    induction n with
    | zero => simp [pages]
    | succ n ih =>
      have htake : ∀ q, ((order n).take (q * limit)).Perm
          (rows.filter fun a => before key (key a) rows < q * limit) := by
        intro q
        rw [take_eq_filter (horder n) (hm q)]
        exact (horder n).1.filter _
      rw [pages_succ]
      refine ((ih.trans (htake n).symm).append_right _).trans ?_
      rw [take_append_pageOf]
      exact htake (n + 1)
  refine (hpages n).trans ?_
  rw [List.filter_eq_self.2 fun a ha => decide_eq_true ?_]
  have hne : before key (key a) rows ≠ rows.length := by
    intro hall
    have hself := List.countP_eq_length.1 hall a ha
    exact lt_irrefl _ (of_decide_eq_true hself)
  have hle : before key (key a) rows ≤ rows.length := List.countP_le_length
  omega

theorem mem_pageOf {a : α} {p : ℕ} (hfirst : p * limit ≤ front.length)
    (hlast : front.length < (p + 1) * limit) : a ∈ pageOf limit p (front ++ a :: back) := by
  unfold pageOf
  rw [Nat.succ_mul] at hlast
  rw [List.drop_append_of_le_length hfirst, List.take_append, List.length_drop]
  refine List.mem_append_right _ ?_
  obtain ⟨k, hk⟩ := Nat.exists_eq_succ_of_ne_zero
    (show limit - (front.length - p * limit) ≠ 0 by omega)
  rw [hk, List.take_succ_cons]
  exact List.mem_cons_self

theorem IsOrder.swap {a b : α} (h : IsOrder key rows (front ++ a :: b :: back))
    (hkey : key a = key b) : IsOrder key rows (front ++ b :: a :: back) := by
  obtain ⟨hperm, hsorted⟩ := h
  refine ⟨((List.Perm.swap a b back).append_left front).trans hperm, ?_⟩
  obtain ⟨hfront, hback, hacross⟩ := List.pairwise_append.1 hsorted
  obtain ⟨ha, hback⟩ := List.pairwise_cons.1 hback
  obtain ⟨hb, hback⟩ := List.pairwise_cons.1 hback
  refine List.pairwise_append.2 ⟨hfront, ?_, fun x hx y hy => hacross x hx y ?_⟩
  · refine List.pairwise_cons.2 ⟨fun y hy => ?_, List.pairwise_cons.2 ⟨fun y hy => ?_, hback⟩⟩
    · rcases List.mem_cons.1 hy with rfl | hy
      · exact le_of_eq hkey
      · exact hb y hy
    · exact ha y (List.mem_cons_of_mem _ hy)
  · simp only [List.mem_cons] at hy ⊢
    rcases hy with rfl | rfl | hy
    · exact .inr (.inl rfl)
    · exact .inl rfl
    · exact .inr (.inr hy)

theorem not_straddles (hsorted : IsOrder key rows order) (hn : rows.length ≤ n * limit)
    (hpages : ∀ order : ℕ → List α, (∀ p, IsOrder key rows (order p)) →
      (pages limit n order).Nodup) (q : ℕ) : ¬ Straddles key rows (q * limit) := by
  rintro ⟨k, hbefore, hafter⟩
  set m := q * limit with hm
  have hlength : order.length = rows.length := hsorted.1.length_eq
  have hle : atLeast key k rows ≤ rows.length := List.countP_le_length
  -- The last row of the one page and the first of the next.
  have hsplit : order = order.take (m - 1) ++ order.drop (m - 1) := (List.take_append_drop ..).symm
  obtain ⟨a, rest, hrest⟩ := List.exists_cons_of_length_pos
    (l := order.drop (m - 1)) (by rw [List.length_drop]; omega)
  have hrestlength : rest.length = rows.length - m := by
    have h := congrArg List.length hrest
    rw [List.length_drop, List.length_cons] at h
    omega
  obtain ⟨b, back, rfl⟩ := List.exists_cons_of_length_pos (l := rest) (by omega)
  rw [hrest] at hsplit
  set front := order.take (m - 1) with hfront
  have hfrontlength : front.length = m - 1 := by
    rw [hfront, List.length_take]
    omega
  have horder : IsOrder key rows (front ++ a :: b :: back) := hsplit ▸ hsorted
  have hkey : ∀ {x : α} {i : ℕ}, m - 1 ≤ i → i ≤ m → before key (key x) rows ≤ i →
      i < atLeast key (key x) rows → key x = k := by
    intro x i hi hi' hx hx'
    rcases lt_trichotomy (key x) k with hlt | heq | hlt
    · have hk : atLeast key k rows ≤ before key (key x) rows := atLeast_le_before hlt
      omega
    · exact heq
    · have hk : atLeast key (key x) rows ≤ before key k rows := atLeast_le_before hlt
      omega
  have hbounds := position_bounds horder
  have hsecond : IsOrder key rows ((front ++ [a]) ++ b :: back) := by simpa using horder
  have hbounds' := position_bounds hsecond
  rw [List.length_append, List.length_singleton] at hbounds'
  have ha : key a = k := hkey (by omega) (by omega) hbounds.1 hbounds.2
  have hb : key b = k := hkey (by omega) (by omega) hbounds'.1 hbounds'.2
  have hswap := horder.swap (ha.trans hb.symm)
  -- One page of this order and the next of that.
  have hnodup := hpages (fun p => if p < q then front ++ a :: b :: back else front ++ b :: a :: back)
    fun p => by
      split
      · exact horder
      · exact hswap
  have hqn : q < n := by
    by_contra hge
    have hmul := Nat.mul_le_mul_right limit (Nat.le_of_not_lt hge)
    omega
  have hlimit : 0 < limit := by
    rcases Nat.eq_zero_or_pos limit with rfl | h
    · omega
    · exact h
  have hq : 0 < q := by
    rcases Nat.eq_zero_or_pos q with rfl | h
    · omega
    · exact h
  have hprevious : (q - 1) * limit + limit = m := by
    rw [← Nat.succ_mul, Nat.succ_eq_add_one, Nat.sub_add_cancel hq]
  have hone : a ∈ pageOf limit (q - 1) (front ++ a :: b :: back) :=
    mem_pageOf (by omega) (by rw [Nat.succ_mul]; omega)
  have htwo : a ∈ pageOf limit q (front ++ b :: a :: back) := by
    have hlist : front ++ b :: a :: back = (front ++ [b]) ++ a :: back := by simp
    have hlen : (front ++ [b]).length = m := by
      rw [List.length_append, List.length_singleton]
      omega
    rw [hlist]
    exact mem_pageOf (by omega) (by rw [Nat.succ_mul]; omega)
  obtain ⟨-, hdisjoint⟩ := List.nodup_flatMap.1 hnodup
  have hapart := List.pairwise_iff_getElem.1 hdisjoint (q - 1) q
    (by rw [List.length_range]; omega) (by rw [List.length_range]; omega) (by omega)
  simp only [List.getElem_range] at hapart
  rw [Function.onFun_apply, if_pos (by omega), if_neg (by omega)] at hapart
  exact hapart hone htwo

end Lib
