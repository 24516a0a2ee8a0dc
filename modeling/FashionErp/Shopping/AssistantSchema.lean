/-
`assistant.js`: `validate` over any JSON value.

The loop looks each key of the value up in the object `schema.properties`, which finds what every
object has besides its own keys.
-/
import FashionErp.Lib.Json
import FashionErp.Shopping.Discovery

namespace FashionErp.Shopping.AssistantSchema

open Lib

/-! ## `schema` -/

inductive Rule
  | string (maxLength : Option ℕ) (enum : Option (List String))
  | integer (minimum maximum : ℤ)

def actions : List String :=
  ["search", "popular", "buy", "options", "pick", "quantity", "cart", "more", "cheaper", "reset",
    "reply", "handoff"]

def properties : List (String × Rule) :=
  [("action", .string none (some actions)), ("query", .string (some 100) none),
    ("productId", .string (some 36) none), ("kind", .string none (some ["COLOR", "SIZE"])),
    ("value", .string (some 40) none), ("quantity", .integer 1 999),
    ("text", .string (some 1200) none)]

def requiredField : String → Option String
  | "search" => some "query"
  | "buy" => some "productId"
  | "options" => some "kind"
  | "pick" => some "value"
  | "quantity" => some "quantity"
  | "reply" => some "text"
  | "handoff" => some "text"
  | _ => none

/-! ## `validate` -/

section

variable {ν : Type} (integer : ν → Option ℤ)

/-- The checks of a value by its rule; `integer` is `Number.isInteger`, with the integer it is. -/
def Rule.allows : Rule → Json ν → Bool
  | .integer minimum maximum, .number n => (integer n).any fun k => minimum ≤ k ∧ k ≤ maximum
  | .string maxLength enum, .string s =>
    maxLength.all (jsLength s ≤ ·) && enum.all (s ∈ ·)
  | _, _ => false

def passes (key : String) (value : Json ν) : Bool :=
  match properties.lookup key with
  | some rule => rule.allows integer value
  | none => key ∈ objectProperties && (match value with | .string _ => true | _ => false)

/-- A value that `!` turns into `false`. -/
def truthyJson : Json ν → Bool
  | .null => false
  | .bool b => b
  | .number n => integer n ≠ some 0
  | .string s => s ≠ ""
  | .array _ | .object _ => true

def Passes (ps : List (String × Json ν)) : Prop :=
  ∀ key ∈ ps.map Prod.fst, ∀ value ∈ ps.lookup key, passes integer key value = true

instance (ps : List (String × Json ν)) : Decidable (Passes integer ps) :=
  inferInstanceAs (Decidable (∀ key ∈ _, ∀ value ∈ _, _))

def validate (v : Json ν) : Option (Json ν) :=
  match v with
  | .object ps =>
    match ps.lookup "action" with
    | some (.string action) =>
      if action ∉ actions then none
      else if ¬ Passes integer ps then none
      else
        match requiredField action with
        | some field => if (ps.lookup field).any (truthyJson integer) then some v else none
        | none => some v
    | _ => none
  | _ => none

/-! ## What the schema says -/

def Declared (ps : List (String × Json ν)) : Prop :=
  ∀ key ∈ ps.map Prod.fst, ∃ rule, properties.lookup key = some rule ∧
    ∀ value ∈ ps.lookup key, rule.allows integer value = true

def Complete (ps : List (String × Json ν)) : Prop :=
  ∃ action ∈ actions, ps.lookup "action" = some (.string action) ∧
    ∀ field ∈ requiredField action, ∃ value, ps.lookup field = some value ∧ value ≠ .string ""

/-- The value is one of the schema. -/
def Valid (v : Json ν) : Prop := ∃ ps, v = .object ps ∧ Declared integer ps ∧ Complete ps

/-- `validate` returns the value if it is one of the schema, and `null` otherwise. -/
def Exact (v : Json ν) : Prop :=
  (Valid integer v → validate integer v = some v) ∧ (¬ Valid integer v → validate integer v = none)

def isDeclared (p : String × Json ν) : Bool := (properties.lookup p.1).isSome

/-- The value hides texts under keys that every object has: without them it is one of the
schema, and there are some. -/
def Smuggles (v : Json ν) : Prop :=
  ∃ ps, v = .object ps ∧ Valid integer (.object (ps.filter isDeclared)) ∧
    (∃ key ∈ ps.map Prod.fst, properties.lookup key = none) ∧
    ∀ key ∈ ps.map Prod.fst, properties.lookup key = none →
      key ∈ objectProperties ∧ ∃ text, ps.lookup key = some (.string text)

variable {integer} {ps : List (String × Json ν)} {key : String}

theorem exists_lookup (h : key ∈ ps.map Prod.fst) : ∃ value, ps.lookup key = some value := by
  obtain ⟨p, hp, rfl⟩ := List.mem_map.1 h
  cases hlookup : ps.lookup p.1 with
  | none =>
    have hne := List.lookup_eq_none_iff.1 hlookup p hp
    rw [bne_self_eq_false] at hne
    cases hne
  | some value => exact ⟨value, rfl⟩

theorem mem_keys_of_lookup {value : Json ν} (h : ps.lookup key = some value) :
    key ∈ ps.map Prod.fst := by
  obtain ⟨earlier, later, rfl, -⟩ := List.lookup_eq_some_iff.1 h
  simp

theorem lookup_filter_isDeclared (h : (properties.lookup key).isSome) :
    (ps.filter isDeclared).lookup key = ps.lookup key := by
  induction ps with
  | nil => rfl
  | cons p rest ih =>
    by_cases hkey : key = p.1
    · subst hkey
      rw [List.filter_cons_of_pos (by exact h), List.lookup_cons, List.lookup_cons, beq_self_eq_true]
    · have hne : (key == p.1) = false := beq_eq_false_iff_ne.2 hkey
      rw [List.lookup_cons, hne, ← ih, List.filter_cons]
      split
      · rw [List.lookup_cons, hne]
      · rfl

theorem requiredField_declared {action field : String} (h : requiredField action = some field) :
    (properties.lookup field).isSome := by
  unfold requiredField at h
  split at h
  all_goals cases h
  all_goals decide

theorem truthyJson_of_allows {rule : Rule} {value : Json ν}
    (hrule : properties.lookup key = some rule) (h : rule.allows integer value = true) :
    truthyJson integer value = true ↔ value ≠ .string "" := by
  cases value with
  | string s => simp only [truthyJson, ne_eq, decide_not, Bool.not_eq_true', decide_eq_false_iff_not,
      Json.string.injEq]
  | number n =>
    refine iff_of_true ?_ nofun
    cases rule with
    | string maxLength enum => cases h
    | integer minimum maximum =>
      -- The one integer there is, the quantity, is at least `1`.
      have hmin : minimum = 1 := by
        have hall : ∀ p ∈ properties, ∀ a b, p.2 = Rule.integer a b → a = 1 := by
          intro p hp a b heq
          simp only [properties, List.mem_cons, List.not_mem_nil, or_false] at hp
          rcases hp with rfl | rfl | rfl | rfl | rfl | rfl | rfl
          all_goals cases heq
          rfl
        obtain ⟨earlier, later, hsplit, -⟩ := List.lookup_eq_some_iff.1 hrule
        exact hall (key, .integer minimum maximum) (by rw [hsplit]; simp) _ _ rfl
      obtain ⟨k, hk, hbounds⟩ := Option.any_eq_true _ _ |>.1 h
      have hpos : 1 ≤ k := hmin ▸ (of_decide_eq_true hbounds).1
      have hne : integer n ≠ some 0 := by
        intro hzero
        obtain rfl := Option.some.inj (hk.symm.trans hzero)
        omega
      exact decide_eq_true hne
  | null => cases rule <;> cases h
  | bool b => cases rule <;> cases h
  | array elements => cases rule <;> cases h
  | object properties => cases rule <;> cases h

theorem passes_of_rule {rule : Rule} (h : properties.lookup key = some rule)
    (value : Json ν) : passes integer key value = rule.allows integer value := by
  unfold passes
  rw [h]

theorem validate_cases : (validate integer (.object ps) = some (.object ps) ∧ Passes integer ps ∧
      Complete ps) ∨
    (validate integer (.object ps) = none ∧ ¬ (Passes integer ps ∧ Complete ps)) := by
  have hnone : ∀ {o : Option (Json ν)}, o = none → ¬ (Passes integer ps ∧ Complete ps) →
      (o = some (.object ps) ∧ Passes integer ps ∧ Complete ps) ∨
        (o = none ∧ ¬ (Passes integer ps ∧ Complete ps)) := fun h h' => .inr ⟨h, h'⟩
  unfold validate
  dsimp only
  split
  · rename_i action haction
    have hcomplete : Complete ps ↔ action ∈ actions ∧
        ∀ field ∈ requiredField action, ∃ value, ps.lookup field = some value ∧ value ≠ .string "" := by
      unfold Complete
      rw [haction]
      constructor
      · rintro ⟨other, hmem, heq, hfields⟩
        cases heq
        exact ⟨hmem, hfields⟩
      · rintro ⟨hmem, hfields⟩
        exact ⟨action, hmem, rfl, hfields⟩
    split
    · rename_i hnot
      exact hnone rfl fun h => hnot (hcomplete.1 h.2).1
    rename_i hmem
    split
    · rename_i hnot
      exact hnone rfl fun h => hnot h.1
    rename_i hpasses
    rw [not_not] at hmem hpasses
    split
    · rename_i field hfield
      have htruthy : (ps.lookup field).any (truthyJson integer) = true ↔
          ∃ value, ps.lookup field = some value ∧ value ≠ .string "" := by
        rw [Option.any_eq_true]
        refine exists_congr fun value => and_congr_right fun hvalue => ?_
        obtain ⟨rule, hrule⟩ := Option.isSome_iff_exists.1 (requiredField_declared hfield)
        have hpass := hpasses field (mem_keys_of_lookup hvalue) value hvalue
        rw [passes_of_rule hrule] at hpass
        exact truthyJson_of_allows hrule hpass
      split
      · rename_i hany
        refine .inl ⟨rfl, hpasses, hcomplete.2 ⟨hmem, fun other hother => ?_⟩⟩
        obtain rfl := Option.some.inj (hfield.symm.trans hother)
        exact htruthy.1 hany
      · rename_i hany
        exact hnone rfl fun h => hany (htruthy.2 ((hcomplete.1 h.2).2 field hfield))
    · rename_i hfield
      refine .inl ⟨rfl, hpasses, hcomplete.2 ⟨hmem, fun other hother => ?_⟩⟩
      rw [hfield] at hother
      cases hother
  · rename_i hother
    refine hnone rfl fun h => ?_
    obtain ⟨action, -, haction, -⟩ := h.2
    exact hother action haction

/-- A value is one of the schema exactly when it passes and has no other keys. -/
theorem valid_iff : Valid integer (.object ps) ↔
    (Passes integer ps ∧ Complete ps) ∧ ∀ key ∈ ps.map Prod.fst, properties.lookup key ≠ none := by
  constructor
  · rintro ⟨_, heq, hdeclared, hcomplete⟩
    obtain rfl := Json.object.inj heq
    refine ⟨⟨fun key hkey value hvalue => ?_, hcomplete⟩, fun key hkey => ?_⟩
    · obtain ⟨rule, hrule, hallows⟩ := hdeclared key hkey
      rw [passes_of_rule hrule]
      exact hallows value hvalue
    · obtain ⟨rule, hrule, -⟩ := hdeclared key hkey
      rw [hrule]
      exact Option.some_ne_none _
  · rintro ⟨⟨hpasses, hcomplete⟩, hall⟩
    refine ⟨ps, rfl, fun key hkey => ?_, hcomplete⟩
    obtain ⟨rule, hrule⟩ := Option.ne_none_iff_exists'.1 (hall key hkey)
    refine ⟨rule, hrule, fun value hvalue => ?_⟩
    rw [← passes_of_rule hrule]
    exact hpasses key hkey value hvalue

theorem complete_filter : Complete (ps.filter isDeclared) ↔ Complete ps := by
  unfold Complete
  refine exists_congr fun action => and_congr_right fun _ => ?_
  rw [lookup_filter_isDeclared (by decide)]
  refine and_congr_right fun _ => forall₂_congr fun field hfield => ?_
  rw [lookup_filter_isDeclared (requiredField_declared hfield)]

/-- What passes and is none of the schema hides something. -/
theorem smuggles_iff : Smuggles integer (.object ps) ↔
    (Passes integer ps ∧ Complete ps) ∧ ¬ ∀ key ∈ ps.map Prod.fst, properties.lookup key ≠ none := by
  constructor
  · rintro ⟨_, heq, hvalid, ⟨key₀, hkey₀, hnone₀⟩, hothers⟩
    obtain rfl := Json.object.inj heq
    obtain ⟨⟨hpasses, hcomplete⟩, -⟩ := valid_iff.1 hvalid
    refine ⟨⟨fun key hkey value hvalue => ?_, complete_filter.1 hcomplete⟩,
      fun hall => hall key₀ hkey₀ hnone₀⟩
    cases hrule : properties.lookup key with
    | none =>
      obtain ⟨hobject, text, htext⟩ := hothers key hkey hrule
      obtain rfl := Option.some.inj (htext.symm.trans hvalue)
      unfold passes
      rw [hrule]
      simp [hobject]
    | some rule =>
      have hsame : (ps.filter isDeclared).lookup key = ps.lookup key :=
        lookup_filter_isDeclared (by rw [hrule]; rfl)
      exact hpasses key (mem_keys_of_lookup (hsame.trans hvalue)) value (hsame.trans hvalue)
  · rintro ⟨⟨hpasses, hcomplete⟩, hnot⟩
    refine ⟨ps, rfl, valid_iff.2 ⟨⟨fun key hkey value hvalue => ?_, complete_filter.2 hcomplete⟩,
      fun key hkey => ?_⟩, ?_, fun key hkey hnone => ?_⟩
    · obtain ⟨p, hp, rfl⟩ := List.mem_map.1 hkey
      obtain ⟨hmem, hdeclared⟩ := List.mem_filter.1 hp
      rw [lookup_filter_isDeclared hdeclared] at hvalue
      exact hpasses p.1 (List.mem_map_of_mem hmem) value hvalue
    · obtain ⟨p, hp, rfl⟩ := List.mem_map.1 hkey
      exact Option.isSome_iff_ne_none.1 (List.mem_filter.1 hp).2
    · by_contra hnone
      exact hnot fun key hkey hlookup => hnone ⟨key, hkey, hlookup⟩
    · obtain ⟨value, hvalue⟩ := exists_lookup hkey
      have hpass := hpasses key hkey value hvalue
      unfold passes at hpass
      rw [hnone] at hpass
      rw [Bool.and_eq_true, decide_eq_true_eq] at hpass
      refine ⟨hpass.1, ?_⟩
      cases value with
      | string text => exact ⟨text, hvalue⟩
      | _ => cases hpass.2

/-- `validate` is exact for a value exactly when the value does not smuggle. -/
theorem validate_exact_iff (v : Json ν) : Exact integer v ↔ ¬ Smuggles integer v := by
  cases v with
  | object ps =>
    rw [smuggles_iff]
    unfold Exact
    rw [valid_iff]
    rcases @validate_cases _ integer ps with ⟨hsome, hpasses⟩ | ⟨hnone, hnot⟩
    · rw [hsome]
      simp [hpasses]
    · rw [hnone]
      simp [hnot]
  | _ =>
    refine iff_of_true ⟨?_, fun _ => rfl⟩ ?_
    · rintro ⟨ps, heq, -⟩
      cases heq
    · rintro ⟨ps, heq, -⟩
      cases heq

end

def smuggled : Json ℤ := .object [("action", .string "cart"), ("constructor", .string "x")]

theorem constructor_passes :
    validate some smuggled = some smuggled ∧ ¬ Valid some smuggled := by
  refine ⟨rfl, ?_⟩
  rw [smuggled, valid_iff]
  rintro ⟨-, hall⟩
  exact hall "constructor" (by decide) (by decide)

end FashionErp.Shopping.AssistantSchema
