/-
JSON values, and their texts.

A value is read through paths of keys and indices: two values are deeply equal if they show
the same at every path (`DeepEq`), so the order of the properties of an object is nothing
to them.
-/
import Mathlib.Data.List.Dedup
import Mathlib.Data.List.Sort
import Mathlib.Data.String.Basic
import Mathlib.Tactic.IntervalCases

namespace Lib

def isNumeric (c : Char) : Bool := c.isDigit || c = '-' || c = '+' || c = '.' || c = 'e'

class NumberText (ν : Type) where
  isZero : ν → Bool
  text : ν → List Char
  text_ne_nil : ∀ n, text n ≠ []
  text_numeric : ∀ n, ∀ c ∈ text n, isNumeric c = true
  text_injective : Function.Injective text

inductive Json (ν : Type) where
  | null
  | bool (b : Bool)
  | number (n : ν)
  | string (s : String)
  | array (elements : List (Json ν))
  | object (properties : List (String × Json ν))

namespace Json

variable {ν : Type}

/-! ## Deep equality -/

inductive Kind (ν : Type) where
  | null
  | bool (b : Bool)
  | number (n : ν)
  | string (s : String)
  | array
  | object

def kind : Json ν → Kind ν
  | null => .null
  | bool b => .bool b
  | number n => .number n
  | string s => .string s
  | array _ => .array
  | object _ => .object

inductive Access
  | index (i : ℕ)
  | key (k : String)

def child : Json ν → Access → Option (Json ν)
  | array elements, .index i => elements[i]?
  | object properties, .key k => properties.lookup k
  | _, _ => none

def get? : Json ν → List Access → Option (Json ν)
  | v, [] => some v
  | v, a :: path => (v.child a).bind fun u => u.get? path

/-- Deep equality: the same at every path. -/
def DeepEq (v w : Json ν) : Prop := ∀ path, (v.get? path).map kind = (w.get? path).map kind

theorem DeepEq.refl (v : Json ν) : DeepEq v v := fun _ => rfl

variable {v w : Json ν}

theorem DeepEq.symm (h : DeepEq v w) : DeepEq w v := fun path => (h path).symm

theorem DeepEq.kind (h : DeepEq v w) : v.kind = w.kind :=
  Option.some.inj (h [])

theorem DeepEq.child {u : Json ν} (h : DeepEq v w) {a : Access} (hu : v.child a = some u) :
    ∃ u', w.child a = some u' ∧ DeepEq u u' := by
  cases hw : w.child a with
  | none =>
    have hstep := h [a]
    simp [get?, hu, hw] at hstep
  | some u' =>
    refine ⟨u', rfl, fun path => ?_⟩
    have hpath := h (a :: path)
    simpa [get?, hu, hw] using hpath

theorem DeepEq.child_none (h : DeepEq v w) {a : Access} (hv : v.child a = none) :
    w.child a = none := by
  cases hw : w.child a with
  | none => rfl
  | some u =>
    obtain ⟨u', hu', -⟩ := h.symm.child hw
    rw [hv] at hu'
    cases hu'

theorem DeepEq.of_array {xs : List (Json ν)} (h : DeepEq (.array xs) w) :
    ∃ ys, w = .array ys ∧ DeepEq (.array xs) (.array ys) := by
  have hkind := h.kind
  cases w with
  | array ys => exact ⟨ys, rfl, h⟩
  | _ => cases hkind

variable {ps : List (String × Json ν)}

theorem DeepEq.of_object (h : DeepEq (.object ps) w) :
    ∃ qs, w = .object qs ∧ DeepEq (.object ps) (.object qs) := by
  have hkind := h.kind
  cases w with
  | object qs => exact ⟨qs, rfl, h⟩
  | _ => cases hkind

theorem DeepEq.forall₂ {xs ys : List (Json ν)} (h : DeepEq (.array xs) (.array ys)) :
    List.Forall₂ DeepEq xs ys := by
  rw [List.forall₂_iff_get]
  have hlength : xs.length = ys.length := by
    apply le_antisymm
    · by_contra hlt
      have hnone : (Json.array ys).child (.index ys.length) = none := List.getElem?_eq_none le_rfl
      have hx := h.symm.child_none hnone
      rw [Json.child, List.getElem?_eq_none_iff] at hx
      omega
    · by_contra hlt
      have hnone : (Json.array xs).child (.index xs.length) = none := List.getElem?_eq_none le_rfl
      have hy := h.child_none hnone
      rw [Json.child, List.getElem?_eq_none_iff] at hy
      omega
  refine ⟨hlength, fun i hi hi' => ?_⟩
  have hx : (Json.array xs).child (.index i) = some xs[i] := List.getElem?_eq_getElem hi
  obtain ⟨u', hu', heq⟩ := h.child hx
  rw [Json.child, List.getElem?_eq_getElem hi'] at hu'
  cases hu'
  exact heq

/-! ## The texts in a value -/

mutual

/-- The strings in a value, however deep; the keys are not among them. -/
def texts : Json ν → List String
  | string s => [s]
  | array elements => textsAll elements
  | object properties => textsProperties properties
  | null => []
  | bool _ => []
  | number _ => []

def textsAll : List (Json ν) → List String
  | [] => []
  | v :: vs => texts v ++ textsAll vs

def textsProperties : List (String × Json ν) → List String
  | [] => []
  | (_, v) :: ps => texts v ++ textsProperties ps

end

theorem mem_textsAll {vs : List (Json ν)} (hv : v ∈ vs) {s : String} (hs : s ∈ v.texts) :
    s ∈ textsAll vs := by
  induction vs with
  | nil => cases hv
  | cons w ws ih =>
    rw [textsAll, List.mem_append]
    rcases List.mem_cons.1 hv with rfl | hv
    · exact .inl hs
    · exact .inr (ih hv)

theorem mem_textsProperties {k : String} (hv : ps.lookup k = some v)
    {s : String} (hs : s ∈ v.texts) : s ∈ textsProperties ps := by
  induction ps with
  | nil => cases hv
  | cons p ps ih =>
    obtain ⟨k', w⟩ := p
    rw [textsProperties, List.mem_append]
    rw [List.lookup_cons] at hv
    split at hv
    · cases hv
      exact .inl hs
    · exact .inr (ih hv)

/-! ## Selecting properties -/

def pick (keys : List String) (properties : List (String × Json ν)) : List (String × Json ν) :=
  keys.filterMap fun k => (properties.lookup k).map fun v => (k, v)

variable {keys : List String}

theorem lookup_of_pick {properties : List (String × Json ν)} {k : String}
    (h : (pick keys properties).lookup k = some v) : properties.lookup k = some v := by
  have hmem : (k, v) ∈ pick keys properties := by
    obtain ⟨l₁, l₂, heq, -⟩ := List.lookup_eq_some_iff.1 h
    rw [heq]
    exact List.mem_append_right _ List.mem_cons_self
  obtain ⟨key, -, hpicked⟩ := List.mem_filterMap.1 hmem
  obtain ⟨w, hw, hpair⟩ := Option.map_eq_some_iff.1 hpicked
  obtain ⟨rfl, rfl⟩ := Prod.mk.inj hpair
  exact hw

mutual

def select (keys : List String) : Json ν → Json ν
  | array elements => array (selectAll keys elements)
  | object properties => object (pick keys (selectProperties keys properties))
  | null => null
  | bool b => bool b
  | number n => number n
  | string s => string s

def selectAll (keys : List String) : List (Json ν) → List (Json ν)
  | [] => []
  | v :: vs => select keys v :: selectAll keys vs

def selectProperties (keys : List String) : List (String × Json ν) → List (String × Json ν)
  | [] => []
  | (k, v) :: ps => (k, select keys v) :: selectProperties keys ps

end

theorem lookup_selectProperties (keys : List String) (ps : List (String × Json ν)) (k : String) :
    (selectProperties keys ps).lookup k = (ps.lookup k).map (select keys) := by
  induction ps with
  | nil => rfl
  | cons p ps ih =>
    obtain ⟨k', v⟩ := p
    rw [selectProperties, List.lookup_cons, List.lookup_cons]
    cases k == k' with
    | true => rfl
    | false => exact ih

mutual

/-- Equal values have equal selections. -/
theorem select_congr (keys : List String) :
    ∀ (v w : Json ν), DeepEq v w → select keys v = select keys w
  | array xs, w, h => by
    obtain ⟨ys, rfl, h⟩ := h.of_array
    rw [select, select, selectAll_congr keys xs ys h.forall₂]
  | object ps, w, h => by
    obtain ⟨qs, rfl, h⟩ := h.of_object
    rw [select, select]
    refine congrArg object (List.filterMap_congr fun k _ => ?_)
    rw [lookup_selectProperties, lookup_selectProperties]
    cases hp : ps.lookup k with
    | none =>
      have hq : qs.lookup k = none := h.child_none (a := .key k) hp
      rw [hq]
    | some u =>
      obtain ⟨u', hchild, heq⟩ := h.child (a := .key k) hp
      have hq : qs.lookup k = some u' := hchild
      rw [hq, Option.map_some, Option.map_some, Option.map_some, Option.map_some,
        lookup_select_congr keys ps k u hp u' heq]
  | null, w, h => by cases w <;> first | rfl | cases h.kind
  | bool b, w, h => by cases w <;> cases h.kind; rfl
  | number n, w, h => by cases w <;> cases h.kind; rfl
  | string s, w, h => by cases w <;> cases h.kind; rfl

theorem selectAll_congr (keys : List String) :
    ∀ (vs ws : List (Json ν)), List.Forall₂ DeepEq vs ws → selectAll keys vs = selectAll keys ws
  | [], _, .nil => rfl
  | v :: vs, w :: ws, .cons h hs => by
    rw [selectAll, selectAll, select_congr keys v w h, selectAll_congr keys vs ws hs]

theorem lookup_select_congr (keys : List String) :
    ∀ (ps : List (String × Json ν)) (k : String) (u : Json ν), ps.lookup k = some u →
      ∀ u', DeepEq u u' → select keys u = select keys u'
  | (k', v) :: ps, k, u, hu, u', h => by
    rw [List.lookup_cons] at hu
    split at hu
    · cases hu
      exact select_congr keys v u' h
    · exact lookup_select_congr keys ps k u hu u' h

end

/-! ## Sorted keys -/

def units (c : Char) : List ℕ :=
  if c.toNat < 0x10000 then [c.toNat]
  else [0xD800 + (c.toNat - 0x10000) / 1024, 0xDC00 + (c.toNat - 0x10000) % 1024]

def codeUnits (s : String) : List ℕ := s.toList.flatMap units

theorem units_append_inj {c d : Char} {s t : List ℕ} (h : units c ++ s = units d ++ t) :
    c = d ∧ s = t := by
  have hc : c.toNat < 0xD800 ∨ 0xDFFF < c.toNat ∧ c.toNat < 0x110000 := c.valid
  have hd : d.toNat < 0xD800 ∨ 0xDFFF < d.toNat ∧ d.toNat < 0x110000 := d.valid
  have hchar : c.toNat = d.toNat → c = d := fun h => Char.toNat_inj.1 h
  unfold units at h
  split at h <;> split at h
  · obtain ⟨hunit, hrest⟩ := List.cons.inj h
    exact ⟨hchar hunit, hrest⟩
  · have hunit := (List.cons.inj h).1
    omega
  · have hunit := (List.cons.inj h).1
    omega
  · obtain ⟨hhigh, hlow⟩ := List.cons.inj h
    obtain ⟨hlow, hrest⟩ := List.cons.inj hlow
    exact ⟨hchar (by omega), hrest⟩

theorem flatMap_units_inj : ∀ {xs ys : List Char}, xs.flatMap units = ys.flatMap units → xs = ys
  | [], [], _ => rfl
  | [], y :: ys, h => by
    unfold List.flatMap at h
    rw [List.map_cons, List.flatten_cons, units] at h
    split at h <;> cases h
  | x :: xs, [], h => by
    unfold List.flatMap at h
    rw [List.map_cons, List.flatten_cons, units] at h
    split at h <;> cases h
  | x :: xs, y :: ys, h => by
    rw [List.flatMap_cons, List.flatMap_cons] at h
    obtain ⟨rfl, hrest⟩ := units_append_inj h
    rw [flatMap_units_inj hrest]

theorem codeUnits_injective : Function.Injective codeUnits :=
  fun _ _ h => String.toList_inj.1 (flatMap_units_inj h)

/-- `sort()` of keys, each once: by their code units. -/
def sortKeys (keys : List String) : List String :=
  keys.dedup.insertionSort fun k l => codeUnits k ≤ codeUnits l

theorem insertionSort_codeUnits_perm {xs ys : List String} (h : xs.Perm ys) :
    xs.insertionSort (fun k l => codeUnits k ≤ codeUnits l) =
      ys.insertionSort fun k l => codeUnits k ≤ codeUnits l := by
  have hanti : Std.Antisymm fun k l : String => codeUnits k ≤ codeUnits l :=
    ⟨fun _ _ hkl hlk => codeUnits_injective (le_antisymm hkl hlk)⟩
  have htotal : Std.Total fun k l : String => codeUnits k ≤ codeUnits l :=
    ⟨fun _ _ => le_total _ _⟩
  have htrans : IsTrans String fun k l : String => codeUnits k ≤ codeUnits l :=
    ⟨fun _ _ _ => le_trans⟩
  refine List.Perm.eq_of_pairwise' (List.pairwise_insertionSort _ _)
    (List.pairwise_insertionSort _ _) ?_
  exact ((List.perm_insertionSort _ _).trans h).trans (List.perm_insertionSort _ _).symm

theorem sortKeys_congr {keys' : List String} (h : ∀ k, k ∈ keys ↔ k ∈ keys') :
    sortKeys keys = sortKeys keys' := by
  have hperm : keys.dedup.Perm keys'.dedup := by
    rw [List.perm_ext_iff_of_nodup keys.nodup_dedup keys'.nodup_dedup]
    intro k
    rw [List.mem_dedup, List.mem_dedup, h]
  exact insertionSort_codeUnits_perm hperm

/-! ## Texts -/

def escape (c : Char) : List Char :=
  if c = '"' then ['\\', '"']
  else if c = '\\' then ['\\', '\\']
  else if c.toNat < 32 then
    match c.toNat with
    | 8 => ['\\', 'b']
    | 9 => ['\\', 't']
    | 10 => ['\\', 'n']
    | 12 => ['\\', 'f']
    | 13 => ['\\', 'r']
    | n => ['\\', 'u', '0', '0', Nat.digitChar (n / 16), Nat.digitChar (n % 16)]
  else [c]

def quote (s : String) : List Char := '"' :: s.toList.flatMap escape ++ ['"']

def separator (first : Bool) : List Char := if first then [] else [',']

section Text

variable [NumberText ν]

mutual

def chars : Json ν → List Char
  | null => ['n', 'u', 'l', 'l']
  | bool true => ['t', 'r', 'u', 'e']
  | bool false => ['f', 'a', 'l', 's', 'e']
  | number n => NumberText.text n
  | string s => quote s
  | array elements => '[' :: charsAll true elements ++ [']']
  | object properties => '\x7b' :: charsProperties true properties ++ ['\x7d']

def charsAll (first : Bool) : List (Json ν) → List Char
  | [] => []
  | v :: vs => separator first ++ chars v ++ charsAll false vs

def charsProperties (first : Bool) : List (String × Json ν) → List Char
  | [] => []
  | (k, v) :: ps => separator first ++ quote k ++ ':' :: chars v ++ charsProperties false ps

end

def stringify (v : Json ν) (keys : Option (List String)) : String :=
  match keys with
  | none => String.ofList (chars v)
  | some keys => String.ofList (chars (select keys v))

end Text

/-! ## Reading back -/

def hexValue (c : Char) : ℕ := if c.isDigit then c.toNat - 48 else c.toNat - 87

def unescape : List Char → Option (Char × List Char)
  | '\\' :: 'u' :: _ :: _ :: a :: b :: s =>
    some (Char.ofNat (16 * hexValue a + hexValue b), s)
  | '\\' :: 'b' :: s => some (Char.ofNat 8, s)
  | '\\' :: 't' :: s => some (Char.ofNat 9, s)
  | '\\' :: 'n' :: s => some (Char.ofNat 10, s)
  | '\\' :: 'f' :: s => some (Char.ofNat 12, s)
  | '\\' :: 'r' :: s => some (Char.ofNat 13, s)
  | '\\' :: c :: s => some (c, s)
  | c :: s => some (c, s)
  | [] => none

theorem unescape_control (s : List Char) : ∀ n < 32, unescape (escape (Char.ofNat n) ++ s) =
    some (Char.ofNat n, s) := by
  intro n hn
  interval_cases n <;> rfl

theorem unescape_escape (c : Char) (s : List Char) : unescape (escape c ++ s) = some (c, s) := by
  by_cases hc : c.toNat < 32
  · have h := unescape_control s c.toNat hc
    rwa [Char.ofNat_toNat] at h
  · unfold escape
    split
    · rename_i hquote
      subst hquote
      rfl
    · split
      · rename_i hslash
        subst hslash
        rfl
      · rename_i hslash
        rw [List.singleton_append]
        unfold unescape
        split <;> simp_all

variable {s t : List Char}

theorem escape_append_inj {c d : Char} (h : escape c ++ s = escape d ++ t) : c = d ∧ s = t := by
  have hread := congrArg unescape h
  rw [unescape_escape, unescape_escape] at hread
  exact Prod.mk.inj (Option.some.inj hread)

theorem escape_ne_quote (c : Char) (s t : List Char) : escape c ++ s ≠ '"' :: t := by
  intro h
  have hread := unescape_escape c s
  rw [h] at hread
  have hc : c = '"' := by
    have hq : unescape ('"' :: t) = some ('"', t) := rfl
    rw [hq] at hread
    exact (Prod.mk.inj (Option.some.inj hread)).1.symm
  subst hc
  cases h

theorem flatMap_escape_inj : ∀ {xs ys s t : List Char},
    xs.flatMap escape ++ '"' :: s = ys.flatMap escape ++ '"' :: t → xs = ys ∧ s = t
  | [], [], _, _, h => ⟨rfl, (List.cons.inj h).2⟩
  | [], y :: ys, s, t, h => by
    rw [List.flatMap_cons, List.append_assoc] at h
    exact absurd h.symm (escape_ne_quote y _ _)
  | x :: xs, [], s, t, h => by
    rw [List.flatMap_cons, List.append_assoc] at h
    exact absurd h (escape_ne_quote x _ _)
  | x :: xs, y :: ys, s, t, h => by
    rw [List.flatMap_cons, List.flatMap_cons, List.append_assoc, List.append_assoc] at h
    obtain ⟨rfl, hrest⟩ := escape_append_inj h
    obtain ⟨rfl, rfl⟩ := flatMap_escape_inj hrest
    exact ⟨rfl, rfl⟩

theorem quote_append_inj {k l : String} (h : quote k ++ s = quote l ++ t) : k = l ∧ s = t := by
  unfold quote at h
  rw [List.append_assoc, List.append_assoc] at h
  obtain ⟨hlist, rfl⟩ := flatMap_escape_inj (List.cons.inj h).2
  exact ⟨String.toList_inj.1 hlist, rfl⟩

def opens (c : Char) : Option (Kind Unit) :=
  if c = 'n' then some .null
  else if c = 't' then some (.bool true)
  else if c = 'f' then some (.bool false)
  else if c = '"' then some (.string "")
  else if c = '[' then some .array
  else if c = '\x7b' then some .object
  else if isNumeric c then some (.number ())
  else none

def Kind.shape : Kind ν → Kind Unit
  | .null => .null
  | .bool b => .bool b
  | .number _ => .number ()
  | .string _ => .string ""
  | .array => .array
  | .object => .object

theorem opens_numeric {c : Char} (h : isNumeric c = true) : opens c = some (.number ()) := by
  unfold opens
  split_ifs <;> rename_i h₁ <;> first | (subst h₁; exact absurd h (by decide)) | rfl

section Text

variable [NumberText ν]

theorem chars_cons (v : Json ν) : ∃ c s, chars v = c :: s ∧ opens c = some v.kind.shape := by
  cases v with
  | number n =>
    obtain ⟨c, s, htext⟩ := List.exists_cons_of_ne_nil (NumberText.text_ne_nil n)
    have hnumeric : isNumeric c = true := by
      apply NumberText.text_numeric n
      rw [htext]
      exact List.mem_cons_self
    exact ⟨c, s, htext, opens_numeric hnumeric⟩
  | bool b =>
    cases b
    · exact ⟨_, _, rfl, rfl⟩
    · exact ⟨_, _, rfl, rfl⟩
  | _ => exact ⟨_, _, rfl, rfl⟩

theorem shape_eq (h : chars v ++ s = chars w ++ t) : v.kind.shape = w.kind.shape := by
  obtain ⟨c, _, hv, hc⟩ := chars_cons v
  obtain ⟨d, _, hw, hd⟩ := chars_cons w
  rw [hv, hw] at h
  obtain rfl := (List.cons.inj h).1
  exact Option.some.inj (hc.symm.trans hd)

def Stops (s : List Char) : Prop := ∀ c ∈ s.head?, isNumeric c = false

theorem text_append_inj {n m : ν} (hs : Stops s) (ht : Stops t)
    (h : NumberText.text n ++ s = NumberText.text m ++ t) : n = m ∧ s = t := by
  have htake : ∀ (n : ν) (s : List Char), Stops s →
      (NumberText.text n ++ s).takeWhile isNumeric = NumberText.text n := by
    intro n s hs
    rw [List.takeWhile_append_of_pos (NumberText.text_numeric n)]
    cases s with
    | nil => simp
    | cons c s => simp [hs c rfl]
  have htext : NumberText.text n = NumberText.text m := by
    rw [← htake n s hs, ← htake m t ht, h]
  rw [htext] at h
  exact ⟨NumberText.text_injective htext, List.append_cancel_left h⟩

theorem stops_all (vs : List (Json ν)) (s : List Char) :
    Stops (charsAll false vs ++ ']' :: s) := by
  cases vs with
  | nil =>
    rintro c ⟨⟩
    decide
  | cons v vs =>
    rintro c ⟨⟩
    decide

theorem stops_properties (ps : List (String × Json ν)) (s : List Char) :
    Stops (charsProperties false ps ++ '\x7d' :: s) := by
  cases ps with
  | nil =>
    rintro c ⟨⟩
    decide
  | cons p ps =>
    rintro c ⟨⟩
    decide

theorem charsAll_ne_end (v : Json ν) (vs : List (Json ν)) (first : Bool) (s t : List Char) :
    charsAll first (v :: vs) ++ s ≠ ']' :: t := by
  intro h
  cases first with
  | false => cases h
  | true =>
    obtain ⟨c, rest, hchars, hopens⟩ := chars_cons v
    rw [charsAll, hchars] at h
    obtain rfl := (List.cons.inj h).1
    cases hopens

theorem charsProperties_ne_end (p : String × Json ν) (ps : List (String × Json ν)) (first : Bool)
    (s t : List Char) : charsProperties first (p :: ps) ++ s ≠ '\x7d' :: t := by
  intro h
  cases first with
  | false => cases h
  | true => cases h

mutual

/-- A text is read back in one way. -/
theorem chars_append_inj : ∀ (v w : Json ν) {s t : List Char}, Stops s → Stops t →
    chars v ++ s = chars w ++ t → v = w ∧ s = t
  | array xs, w, s, t, _, _, h => by
    have hshape := shape_eq h
    cases w <;> cases hshape
    rename_i ys
    simp only [chars, List.cons_append, List.append_assoc, List.nil_append, List.cons.injEq,
      true_and] at h
    obtain ⟨rfl, rfl⟩ := charsAll_append_inj xs ys true h
    exact ⟨rfl, rfl⟩
  | object ps, w, s, t, _, _, h => by
    have hshape := shape_eq h
    cases w <;> cases hshape
    rename_i qs
    simp only [chars, List.cons_append, List.append_assoc, List.nil_append, List.cons.injEq,
      true_and] at h
    obtain ⟨rfl, rfl⟩ := charsProperties_append_inj ps qs true h
    exact ⟨rfl, rfl⟩
  | null, w, s, t, _, _, h => by
    have hshape := shape_eq h
    cases w <;> cases hshape
    exact ⟨rfl, List.append_cancel_left h⟩
  | bool b, w, s, t, _, _, h => by
    have hshape := shape_eq h
    cases w <;> cases hshape
    exact ⟨rfl, List.append_cancel_left h⟩
  | number n, w, s, t, hs, ht, h => by
    have hshape := shape_eq h
    cases w <;> cases hshape
    simp only [chars] at h
    obtain ⟨rfl, rfl⟩ := text_append_inj hs ht h
    exact ⟨rfl, rfl⟩
  | string k, w, s, t, _, _, h => by
    have hshape := shape_eq h
    cases w <;> cases hshape
    simp only [chars] at h
    obtain ⟨rfl, rfl⟩ := quote_append_inj h
    exact ⟨rfl, rfl⟩

theorem charsAll_append_inj : ∀ (vs ws : List (Json ν)) (first : Bool) {s t : List Char},
    charsAll first vs ++ ']' :: s = charsAll first ws ++ ']' :: t → vs = ws ∧ s = t
  | [], [], _, _, _, h => ⟨rfl, (List.cons.inj h).2⟩
  | [], w :: ws, first, _, _, h => absurd h.symm (charsAll_ne_end w ws first _ _)
  | v :: vs, [], first, _, _, h => absurd h (charsAll_ne_end v vs first _ _)
  | v :: vs, w :: ws, first, s, t, h => by
    simp only [charsAll, List.append_assoc, List.append_cancel_left_eq] at h
    obtain ⟨rfl, hrest⟩ := chars_append_inj v w (stops_all vs s) (stops_all ws t) h
    obtain ⟨rfl, rfl⟩ := charsAll_append_inj vs ws false hrest
    exact ⟨rfl, rfl⟩

theorem charsProperties_append_inj : ∀ (ps qs : List (String × Json ν)) (first : Bool)
    {s t : List Char}, charsProperties first ps ++ '\x7d' :: s =
      charsProperties first qs ++ '\x7d' :: t → ps = qs ∧ s = t
  | [], [], _, _, _, h => ⟨rfl, (List.cons.inj h).2⟩
  | [], q :: qs, first, _, _, h => absurd h.symm (charsProperties_ne_end q qs first _ _)
  | p :: ps, [], first, _, _, h => absurd h (charsProperties_ne_end p ps first _ _)
  | (k, v) :: ps, (l, w) :: qs, first, s, t, h => by
    simp only [charsProperties, List.append_assoc, List.append_cancel_left_eq] at h
    obtain ⟨rfl, hvalue⟩ := quote_append_inj h
    simp only [List.cons_append, List.cons.injEq, true_and] at hvalue
    obtain ⟨rfl, hrest⟩ :=
      chars_append_inj v w (stops_properties ps s) (stops_properties qs t) hvalue
    obtain ⟨rfl, rfl⟩ := charsProperties_append_inj ps qs false hrest
    exact ⟨rfl, rfl⟩

end

theorem chars_inj (h : chars v = chars w) : v = w := by
  have hend : Stops [] := by
    rintro c ⟨⟩
  refine (chars_append_inj v w hend hend ?_).1
  rw [h]

/-- With a list of properties, the text says what the selection says. -/
theorem stringify_some_eq_iff {keys' : List String} :
    stringify v (some keys) = stringify w (some keys') ↔ select keys v = select keys' w := by
  constructor
  · intro h
    have hchars : chars (select keys v) = chars (select keys' w) := by
      have hlist := congrArg String.toList h
      simpa [stringify] using hlist
    exact chars_inj hchars
  · intro h
    exact congrArg (fun v => String.ofList (chars v)) h

end Text

end Json

/-! ## Integers -/

def intText (z : ℤ) : List Char :=
  if z < 0 then '-' :: Nat.toDigits 10 z.natAbs else Nat.toDigits 10 z.natAbs

theorem isDigit_toDigits {n : ℕ} {c : Char} (h : c ∈ Nat.toDigits 10 n) : c.isDigit = true :=
  Nat.isDigit_of_mem_toDigits (by decide) (by decide) h

instance : NumberText ℤ where
  isZero z := z = 0
  text := intText
  text_ne_nil z := by
    unfold intText
    split
    · exact List.cons_ne_nil _ _
    · exact Nat.toDigits_ne_nil
  text_numeric z c hc := by
    unfold intText at hc
    unfold isNumeric
    split at hc
    · rcases List.mem_cons.1 hc with rfl | hc
      · rfl
      · rw [isDigit_toDigits hc]
        rfl
    · rw [isDigit_toDigits hc]
      rfl
  text_injective y z h := by
    have hdash : ∀ n : ℕ, '-' ∉ Nat.toDigits 10 n := fun n hmem =>
      absurd (isDigit_toDigits hmem) (by decide)
    have habs : ∀ {m n : ℕ}, Nat.toDigits 10 m = Nat.toDigits 10 n → m = n := by
      intro m n h
      have hread := congrArg (Nat.ofDigitChars 10 · 0) h
      simpa using hread
    unfold intText at h
    split at h <;> split at h
    · have hn := habs (List.cons.inj h).2
      omega
    · exact absurd (h ▸ List.mem_cons_self) (hdash _)
    · exact absurd (h ▸ List.mem_cons_self) (hdash _)
    · have hn := habs h
      omega

end Lib
