/-
Balances kept next to a log of changes.

A posting is a key and a signed amount. `net ps k` is what a list of postings
does to key `k` in total, and a `Book` is a balance per key next to the log of
all postings. A book is `Reconciled` when every balance is the net of the log:
posting keeps that, whatever is posted and in whichever order, so a program that
only ever posts (the same list to the balances and to the log) stays reconciled.
A posting list is `Affordable` when it leaves no balance below zero.

A program that needs the net per key collects it in a map, adding each amount to what
the map holds under its key.
-/
import Mathlib.Algebra.Order.BigOperators.Group.List
import Mathlib.Data.List.AList
import Mathlib.Tactic.Abel

namespace Lib

variable {κ M ι : Type} [DecidableEq κ] {ps : List (κ × M)}

section Net

variable [AddCommMonoid M]

/-- The total amount a posting list puts on key `k`. -/
def net (ps : List (κ × M)) (k : κ) : M :=
  ((ps.filter fun p => p.1 = k).map (·.2)).sum

@[simp] theorem net_nil (k : κ) : net ([] : List (κ × M)) k = 0 := rfl

theorem net_cons (p : κ × M) (ps : List (κ × M)) (k : κ) :
    net (p :: ps) k = (if p.1 = k then p.2 else 0) + net ps k := by
  by_cases h : p.1 = k <;> simp [net, h]

@[simp] theorem net_append (ps qs : List (κ × M)) (k : κ) :
    net (ps ++ qs) k = net ps k + net qs k := by
  simp [net]

@[simp] theorem net_singleton (j : κ) (a : M) (k : κ) :
    net [(j, a)] k = if j = k then a else 0 := by
  rw [net_cons, net_nil, add_zero]

theorem net_perm {qs : List (κ × M)} (h : ps.Perm qs) (k : κ) : net ps k = net qs k :=
  ((h.filter _).map _).sum_eq

theorem net_map_of_injective {κ' : Type} [DecidableEq κ'] (xs : List ι) (key : ι → κ)
    {g : κ → κ'} (hg : Function.Injective g) (f : ι → M) (k : κ) :
    net (xs.map fun x => (g (key x), f x)) (g k) = net (xs.map fun x => (key x, f x)) k := by
  induction xs with
  | nil => rfl
  | cons x xs ih =>
    rw [List.map_cons, List.map_cons, net_cons, net_cons, ih]
    simp only [hg.eq_iff]

theorem net_eq_zero {k : κ} (h : ∀ p ∈ ps, p.1 ≠ k) : net ps k = 0 := by
  have : ps.filter (fun p => p.1 = k) = [] := by
    rw [List.filter_eq_nil_iff]
    intro p hp
    simpa using h p hp
  rw [net, this, List.map_nil, List.sum_nil]

theorem forall_net_map_iff {κ' ι' : Type} [DecidableEq κ'] {xs : List ι} {ys : List ι'}
    {key : ι → κ} {key' : ι' → κ} {g : κ → κ'} (hg : Function.Injective g) {f : ι → M} {f' : ι' → M} :
    (∀ k, net (xs.map fun x => (g (key x), f x)) k = net (ys.map fun y => (g (key' y), f' y)) k) ↔
      ∀ k, net (xs.map fun x => (key x, f x)) k = net (ys.map fun y => (key' y, f' y)) k := by
  constructor
  · intro h k
    have hk := h (g k)
    rwa [net_map_of_injective _ _ hg, net_map_of_injective _ _ hg] at hk
  · intro h k
    by_cases hk : ∃ j, g j = k
    · obtain ⟨j, rfl⟩ := hk
      rw [net_map_of_injective _ _ hg, net_map_of_injective _ _ hg, h j]
    · -- Nothing is posted under another key.
      rw [net_eq_zero, net_eq_zero]
      all_goals
        intro p hp e
        obtain ⟨x, -, rfl⟩ := List.mem_map.1 hp
        exact hk ⟨_, e⟩

theorem net_flatMap_pair (xs : List ι) (f g : ι → κ × M) (k : κ) :
    net (xs.flatMap fun x => [f x, g x]) k = net (xs.map f) k + net (xs.map g) k := by
  induction xs with
  | nil => simp
  | cons x xs ih =>
    simp only [List.flatMap_cons, net_append, ih, List.map_cons, net_cons, net_nil, add_zero]
    abel

theorem net_filter_flatMap (xs : List ι) (p : ι → Bool) (f : ι → List (κ × M)) (k : κ) :
    net ((xs.filter p).flatMap f) k = (xs.map fun x => if p x then net (f x) k else 0).sum := by
  induction xs with
  | nil => rfl
  | cons x xs ih =>
    rw [List.map_cons, List.sum_cons, ← ih]
    by_cases hx : p x = true
    · rw [List.filter_cons_of_pos hx, List.flatMap_cons, net_append, if_pos hx]
    · rw [List.filter_cons_of_neg hx, if_neg hx, zero_add]

theorem sum_ite_key {ks : List κ} (hks : ks.Nodup) {k : κ} (hk : k ∈ ks) (a : M) :
    (ks.map fun j => if k = j then a else 0).sum = a := by
  induction ks with
  | nil => cases hk
  | cons j js ih =>
    obtain ⟨hj, hjs⟩ := List.nodup_cons.1 hks
    rw [List.map_cons, List.sum_cons]
    by_cases h : k = j
    · have hrest : (js.map fun i => if k = i then a else 0).sum = 0 := by
        refine List.sum_eq_zero fun b hb => ?_
        obtain ⟨i, hi, rfl⟩ := List.mem_map.1 hb
        refine if_neg fun e => hj ?_
        rw [← h, e]
        exact hi
      rw [if_pos h, hrest, add_zero]
    · rw [if_neg h, zero_add, ih hjs ((List.mem_cons.1 hk).resolve_left h)]

variable {xs : List ι}

theorem sum_ite_item {key : ι → κ} (hkeys : (xs.map key).Nodup) {x : ι} (hx : x ∈ xs)
    (f : ι → M) : (xs.map fun y => if key x = key y then f y else 0).sum = f x := by
  induction xs with
  | nil => cases hx
  | cons y ys ih =>
    obtain ⟨hy, hys⟩ := List.nodup_cons.1 hkeys
    rw [List.map_cons, List.sum_cons]
    rcases List.mem_cons.1 hx with rfl | hx
    · have hrest : (ys.map fun z => if key x = key z then f z else 0).sum = 0 := by
        refine List.sum_eq_zero fun b hb => ?_
        obtain ⟨z, hz, rfl⟩ := List.mem_map.1 hb
        refine if_neg fun e => hy ?_
        rw [e]
        exact List.mem_map_of_mem hz
      rw [if_pos rfl, hrest, add_zero]
    · have hne : key x ≠ key y := by
        intro e
        rw [← e] at hy
        exact hy (List.mem_map_of_mem hx)
      rw [if_neg hne, zero_add, ih hys hx]

/-- Summing by key. Over a list of keys without repetitions that has every key
posted to, the nets add up to the amounts posted. -/
theorem sum_net {ks : List κ} (hks : ks.Nodup) (hmem : ∀ p ∈ ps, p.1 ∈ ks) :
    (ks.map (net ps)).sum = (ps.map (·.2)).sum := by
  induction ps with
  | nil =>
    refine List.sum_eq_zero fun a ha => ?_
    obtain ⟨k, -, rfl⟩ := List.mem_map.1 ha
    rfl
  | cons p ps ih =>
    have hsplit : ks.map (net (p :: ps)) =
        ks.map fun k => (if p.1 = k then p.2 else 0) + net ps k :=
      List.map_congr_left fun k _ => net_cons p ps k
    rw [hsplit, List.sum_map_add, sum_ite_key hks (hmem p List.mem_cons_self),
      ih fun q hq => hmem q (List.mem_cons_of_mem p hq), List.map_cons, List.sum_cons]

/-- Summing by item. Where every amount posted is under a key that one item of the list has,
the nets of the items' keys add up to the amounts posted. -/
theorem sum_net_items (key : ι → Option κ) (hxs : xs.Nodup)
    (howner : ∀ p ∈ ps, p.2 ≠ 0 → ∃ x ∈ xs, ∀ y ∈ xs, key y = some p.1 ↔ x = y) :
    (xs.map fun x => (key x).elim 0 (net ps)).sum = (ps.map (·.2)).sum := by
  classical
  induction ps with
  | nil =>
    refine List.sum_eq_zero fun a ha => ?_
    obtain ⟨x, -, rfl⟩ := List.mem_map.1 ha
    cases key x <;> rfl
  | cons p ps ih =>
    have hsplit : (xs.map fun x => (key x).elim 0 (net (p :: ps))) =
        xs.map fun x => (if key x = some p.1 then p.2 else 0) + (key x).elim 0 (net ps) := by
      refine List.map_congr_left fun x _ => ?_
      cases key x with
      | none => simp
      | some k => simp only [Option.elim_some, net_cons, Option.some.injEq, eq_comm]
    have hpost : (xs.map fun x => if key x = some p.1 then p.2 else 0).sum = p.2 := by
      by_cases hzero : p.2 = 0
      · simp [hzero]
      · obtain ⟨x, hx, honly⟩ := howner p List.mem_cons_self hzero
        refine Eq.trans (congrArg List.sum (List.map_congr_left fun y hy => ?_))
          (sum_ite_key hxs hx p.2)
        simp only [honly y hy]
    rw [hsplit, List.sum_map_add, hpost, ih fun q hq => howner q (List.mem_cons_of_mem p hq),
      List.map_cons, List.sum_cons]

theorem net_map (xs : List ι) (key : ι → κ) (f : ι → M) (k : κ) :
    net (xs.map fun x => (key x, f x)) k = (xs.map fun x => if key x = k then f x else 0).sum := by
  induction xs with
  | nil => rfl
  | cons x xs ih => rw [List.map_cons, net_cons, ih, List.map_cons, List.sum_cons]

theorem net_map_add (xs : List ι) (key : ι → κ) (f g : ι → M) (k : κ) :
    net (xs.map fun x => (key x, f x + g x)) k =
      net (xs.map fun x => (key x, f x)) k + net (xs.map fun x => (key x, g x)) k := by
  rw [net_map, net_map, net_map, ← List.sum_map_add]
  refine congrArg List.sum (List.map_congr_left fun x _ => ?_)
  by_cases h : key x = k
  · simp only [if_pos h]
  · simp only [if_neg h, add_zero]

/-- Regrouping. Rows that each belong to an item post under a key of the row that
the item decides: the net of a group is the net of its items. -/
theorem net_regroup {ρ κ' : Type} [DecidableEq κ'] {rows : List ρ} {rowKey : ρ → κ}
    {rowGroup : ρ → κ'} {key : ι → κ} {group : ι → κ'} (amount : ρ → M)
    (hkeys : (xs.map key).Nodup)
    (hrows : ∀ r ∈ rows, ∃ x ∈ xs, rowKey r = key x ∧ rowGroup r = group x) (k : κ') :
    net (rows.map fun r => (rowGroup r, amount r)) k =
      net (xs.map fun x => (group x, net (rows.map fun r => (rowKey r, amount r)) (key x))) k := by
  induction rows with
  | nil =>
    simp only [List.map_nil, net_nil]
    rw [net_map]
    refine (List.sum_eq_zero fun a ha => ?_).symm
    obtain ⟨x, -, rfl⟩ := List.mem_map.1 ha
    exact ite_self 0
  | cons r rows ih =>
    obtain ⟨x, hx, hkey, hgroup⟩ := hrows r List.mem_cons_self
    have hsplit : (xs.map fun y =>
        (group y, net ((r :: rows).map fun r => (rowKey r, amount r)) (key y))) =
        xs.map fun y => (group y, (if key x = key y then amount r else 0) +
          net (rows.map fun r => (rowKey r, amount r)) (key y)) := by
      refine List.map_congr_left fun y _ => ?_
      rw [List.map_cons, net_cons, hkey]
    have hrow : net (xs.map fun y => (group y, if key x = key y then amount r else 0)) k =
        if group x = k then amount r else 0 := by
      rw [net_map, ← sum_ite_item hkeys hx fun y => if group y = k then amount r else 0]
      refine congrArg List.sum (List.map_congr_left fun y _ => ?_)
      by_cases hy : key x = key y
      · rw [if_pos hy, if_pos hy]
      · rw [if_neg hy, if_neg hy, ite_self]
    rw [hsplit, net_map_add, hrow, List.map_cons, net_cons, hgroup,
      ih fun r' hr' => hrows r' (List.mem_cons_of_mem r hr')]

end Net

section Order

variable [AddCommMonoid M] [PartialOrder M] [IsOrderedAddMonoid M]

theorem net_nonneg (h : ∀ p ∈ ps, 0 ≤ p.2) (k : κ) : 0 ≤ net ps k := by
  refine List.sum_nonneg fun a ha => ?_
  obtain ⟨p, hp, rfl⟩ := List.mem_map.1 ha
  exact h p (List.mem_of_mem_filter hp)

theorem net_pos (h : ∀ p ∈ ps, 0 ≤ p.2) {p : κ × M} (hp : p ∈ ps) {k : κ} (hk : p.1 = k)
    (hpos : 0 < p.2) : 0 < net ps k := by
  obtain ⟨before, rest, rfl⟩ := List.append_of_mem hp
  have hbefore := net_nonneg (fun q hq => h q (List.mem_append_left _ hq)) k
  have hrest := net_nonneg
    (fun q hq => h q (List.mem_append_right _ (List.mem_cons_of_mem p hq))) k
  rw [net_append, net_cons, if_pos hk]
  calc 0 < p.2 := hpos
    _ ≤ p.2 + net rest k := le_add_of_nonneg_right hrest
    _ ≤ net before k + (p.2 + net rest k) := le_add_of_nonneg_left hbefore

end Order

theorem net_map_mul {R : Type} [NonUnitalNonAssocSemiring R] (xs : List ι) (key : ι → κ) (f : ι → R)
    (c : R) (k : κ) :
    net (xs.map fun x => (key x, f x)) k * c = net (xs.map fun x => (key x, f x * c)) k := by
  induction xs with
  | nil => exact zero_mul c
  | cons x xs ih =>
    rw [List.map_cons, List.map_cons, net_cons, net_cons, add_mul, ih, ite_mul, zero_mul]

theorem net_map_neg [AddCommGroup M] (xs : List ι) (key : ι → κ) (f : ι → M) (k : κ) :
    net (xs.map fun x => (key x, -f x)) k = -net (xs.map fun x => (key x, f x)) k := by
  induction xs with
  | nil => simp
  | cons x xs ih =>
    rw [List.map_cons, List.map_cons, net_cons, net_cons, ih, neg_add]
    by_cases h : key x = k <;> simp [h]

/-! ## Totals per key -/

section Totals

variable [AddCommMonoid M]

def addTo (m : AList fun _ : κ => M) (p : κ × M) : AList fun _ : κ => M :=
  m.insert p.1 ((m.lookup p.1).getD 0 + p.2)

def totals (ps : List (κ × M)) : AList fun _ : κ => M :=
  ps.foldl addTo ∅

def entryPostings (m : AList fun _ : κ => M) : List (κ × M) :=
  m.entries.map fun e => (e.1, e.2)

theorem lookup_addTo (m : AList fun _ : κ => M) (p : κ × M) (k : κ) :
    ((addTo m p).lookup k).getD 0 = (m.lookup k).getD 0 + net [p] k := by
  rw [addTo, net_singleton]
  by_cases h : p.1 = k
  · subst h
    rw [AList.lookup_insert, Option.getD_some, if_pos rfl]
  · rw [AList.lookup_insert_ne (Ne.symm h), if_neg h, add_zero]

/-- The map holds the net of every key. -/
theorem lookup_totals (ps : List (κ × M)) (k : κ) : ((totals ps).lookup k).getD 0 = net ps k := by
  suffices H : ∀ (m : AList fun _ : κ => M),
      ((ps.foldl addTo m).lookup k).getD 0 = (m.lookup k).getD 0 + net ps k by
    rw [totals, H, AList.lookup_empty, Option.getD_none, zero_add]
  induction ps with
  | nil => intro m; rw [List.foldl_nil, net_nil, add_zero]
  | cons p ps ih =>
    intro m
    rw [List.foldl_cons, ih, lookup_addTo, add_assoc, ← net_append, List.singleton_append]

theorem mem_totals (ps : List (κ × M)) (k : κ) : k ∈ totals ps ↔ ∃ p ∈ ps, p.1 = k := by
  suffices H : ∀ (m : AList fun _ : κ => M),
      k ∈ ps.foldl addTo m ↔ k ∈ m ∨ ∃ p ∈ ps, p.1 = k by
    rw [totals, H]
    simp
  induction ps with
  | nil => simp
  | cons p ps ih =>
    intro m
    rw [List.foldl_cons, ih, addTo, AList.mem_insert]
    simp only [List.mem_cons, exists_eq_or_imp]
    constructor
    · rintro ((rfl | h) | h)
      · exact .inr (.inl rfl)
      · exact .inl h
      · exact .inr (.inr h)
    · rintro (h | rfl | h)
      · exact .inl (.inr h)
      · exact .inl (.inl rfl)
      · exact .inr h

theorem net_map_keys {ks : List κ} (hks : ks.Nodup) (f : κ → M) (k : κ) :
    net (ks.map fun j => (j, f j)) k = if k ∈ ks then f k else 0 := by
  induction ks with
  | nil => rfl
  | cons j ks ih =>
    rw [List.nodup_cons] at hks
    rw [List.map_cons, net_cons, ih hks.2]
    by_cases h : j = k
    · subst h
      rw [if_pos rfl, if_neg hks.1, if_pos List.mem_cons_self, add_zero]
    · have hk : k ∈ j :: ks ↔ k ∈ ks := by
        rw [List.mem_cons]
        exact or_iff_right fun e => h e.symm
      simp only [if_neg h, zero_add, hk]

theorem net_entryPostings (m : AList fun _ : κ => M) (k : κ) :
    net (entryPostings m) k = (m.lookup k).getD 0 := by
  have hentries : entryPostings m = m.keys.map fun j => (j, (m.lookup j).getD 0) := by
    rw [entryPostings, AList.keys, List.keys, List.map_map]
    refine List.map_congr_left fun e he => ?_
    have hlookup : m.lookup e.1 = some e.2 :=
      AList.mem_lookup_iff.2 he
    rw [Function.comp_apply, hlookup, Option.getD_some]
  rw [hentries, net_map_keys m.keys_nodup]
  split
  · rfl
  · rename_i h
    rw [AList.lookup_eq_none.2 (by rwa [AList.mem_keys]), Option.getD_none]

theorem net_totals (ps : List (κ × M)) (k : κ) : net (entryPostings (totals ps)) k = net ps k := by
  rw [net_entryPostings, lookup_totals]

theorem net_totals_of_keys (ps : List (κ × M)) {ks : List κ} (hks : ks.Nodup)
    (hmem : ∀ p ∈ ps, p.1 ∈ ks) (k : κ) :
    net (ks.map fun j => (j, ((totals ps).lookup j).getD 0)) k = net ps k := by
  rw [net_map_keys hks, lookup_totals]
  split
  · rfl
  · rename_i h
    refine (net_eq_zero fun p hp hk => ?_).symm
    exact h (hk ▸ hmem p hp)

end Totals

/-! ## Books -/

structure Book (κ M : Type) where
  balance : κ → M
  log : List (κ × M)

namespace Book

variable [AddCommMonoid M]

def post (b : Book κ M) (ps : List (κ × M)) : Book κ M where
  balance k := b.balance k + net ps k
  log := b.log ++ ps

@[simp] theorem post_balance (b : Book κ M) (ps : List (κ × M)) (k : κ) :
    (b.post ps).balance k = b.balance k + net ps k := rfl

@[simp] theorem post_log (b : Book κ M) (ps : List (κ × M)) : (b.post ps).log = b.log ++ ps := rfl

def Reconciled (b : Book κ M) : Prop :=
  ∀ k, b.balance k = net b.log k

theorem Reconciled.post {b : Book κ M} (h : b.Reconciled) (ps : List (κ × M)) :
    (b.post ps).Reconciled := by
  intro k
  rw [post_balance, post_log, net_append, h k]

theorem post_post (b : Book κ M) (ps qs : List (κ × M)) :
    (b.post ps).post qs = b.post (ps ++ qs) := by
  simp only [post, net_append, List.append_assoc, Book.mk.injEq, and_true]
  funext k
  rw [add_assoc]

def Nonneg [LE M] (b : Book κ M) : Prop :=
  ∀ k, 0 ≤ b.balance k

def Affordable [LE M] (b : Book κ M) (ps : List (κ × M)) : Prop :=
  ∀ k, 0 ≤ b.balance k + net ps k

theorem nonneg_post_iff [LE M] (b : Book κ M) (ps : List (κ × M)) :
    (b.post ps).Nonneg ↔ b.Affordable ps := Iff.rfl

end Book

end Lib
