/-
`strict-output-schema.ts`: a schema with optional fields, on a wire that has none.

A field that is absent goes over the wire as `null`, and comes back as absent.
-/
import Mathlib.Data.List.Nodup

namespace FashionErp.StrictOutput

inductive Entry (β : Type)
  | null
  | value (b : β)
  deriving DecidableEq

/-- The schema of a property: which values it takes, with `.optional()` and `.nullable()`. -/
structure Field (β : Type) where
  takes : β → Bool
  optional : Bool := false
  nullable : Bool := false

abbrev Properties (β : Type) := List (String × Entry β)

variable {β : Type}

/-- `undefined` is `none`. -/
def Field.accepts (f : Field β) : Option (Entry β) → Bool
  | none => f.optional
  | some .null => f.nullable
  | some (.value b) => f.takes b

/-- A flat `z.object`, strict or not. -/
structure ObjectSchema (β : Type) where
  shape : List (String × Field β)
  strict : Bool
  nodup : (shape.map Prod.fst).Nodup

def pick (shape : List (String × Field β)) (get : String × Field β → Option (Entry β)) :
    Properties β :=
  shape.filterMap fun field => (get field).map fun entry => (field.1, entry)

def ObjectSchema.Accepts (schema : ObjectSchema β) (v : Properties β) : Prop :=
  (∀ field ∈ schema.shape, field.2.accepts (v.lookup field.1) = true) ∧
    (schema.strict = true → ∀ property ∈ v, property.1 ∈ schema.shape.map Prod.fst)

instance (schema : ObjectSchema β) (v : Properties β) : Decidable (schema.Accepts v) :=
  inferInstanceAs (Decidable (_ ∧ _))

def ObjectSchema.parse (schema : ObjectSchema β) (v : Properties β) : Option (Properties β) :=
  if schema.Accepts v then some (pick schema.shape fun field => v.lookup field.1) else none

/-! ## `strictOutputSchema` -/

/-- `field.nonoptional().nullable()` of an optional field. -/
def Field.wire (f : Field β) : Field β :=
  if f.optional then { f with optional := false, nullable := true } else f

theorem map_fst_wire (shape : List (String × Field β)) :
    (shape.map fun field => (field.1, field.2.wire)).map Prod.fst = shape.map Prod.fst := by
  rw [List.map_map]
  rfl

def ObjectSchema.wire (original : ObjectSchema β) : ObjectSchema β where
  shape := original.shape.map fun field => (field.1, field.2.wire)
  strict := true
  nodup := by
    rw [map_fst_wire]
    exact original.nodup

/-- The set `optional` has the key. -/
def ObjectSchema.hasOptional (original : ObjectSchema β) (key : String) : Bool :=
  original.shape.any fun field => field.1 = key && field.2.optional

def ObjectSchema.decode [DecidableEq β] (original : ObjectSchema β) (value : Properties β) :
    Option (Properties β) :=
  (original.wire.parse value).bind fun parsed =>
    original.parse (parsed.filter fun (key, entry) => entry ≠ .null || !original.hasOptional key)

/-! ## The wire -/

def ObjectSchema.encode (original : ObjectSchema β) (v : Properties β) : Properties β :=
  pick original.shape fun field => some ((v.lookup field.1).getD .null)

variable [DecidableEq β] {original : ObjectSchema β} {v v' : Properties β}

/-- The wire loses nothing of a value. -/
def RoundTrips (original : ObjectSchema β) (v : Properties β) : Prop :=
  original.wire.Accepts (original.encode v) ∧
    original.decode (original.encode v) = original.parse v

section Pick

variable {shape : List (String × Field β)} {get get' : String × Field β → Option (Entry β)}

omit [DecidableEq β] in
theorem key_mem_of_mem_pick {property : String × Entry β} (h : property ∈ pick shape get) :
    property.1 ∈ shape.map Prod.fst := by
  obtain ⟨field, hfield, hget⟩ := List.mem_filterMap.1 h
  obtain ⟨entry, -, rfl⟩ := Option.map_eq_some_iff.1 hget
  exact List.mem_map_of_mem hfield

omit [DecidableEq β] in
theorem lookup_pick_of_notMem {key : String} (h : key ∉ shape.map Prod.fst) :
    (pick shape get).lookup key = none := by
  rw [List.lookup_eq_none_iff]
  intro property hproperty
  rw [bne_iff_ne]
  rintro rfl
  exact h (key_mem_of_mem_pick hproperty)

omit [DecidableEq β] in
theorem lookup_pick (hnodup : (shape.map Prod.fst).Nodup) {field : String × Field β}
    (hfield : field ∈ shape) : (pick shape get).lookup field.1 = get field := by
  induction shape with
  | nil => cases hfield
  | cons first rest ih =>
    obtain ⟨hfirst, hrest⟩ := List.nodup_cons.1 hnodup
    have hpick : pick (first :: rest) get =
        ((get first).map fun entry => (first.1, entry)).toList ++ pick rest get := by
      unfold pick
      rw [List.filterMap_cons]
      cases get first with
      | none => rfl
      | some entry => rfl
    rw [hpick]
    rcases List.mem_cons.1 hfield with rfl | hfield
    · cases hget : get field with
      | none => exact lookup_pick_of_notMem hfirst
      | some entry => simp
    · have hne : field.1 ≠ first.1 := by
        intro heq
        exact hfirst (heq ▸ List.mem_map_of_mem hfield)
      rw [← ih hrest hfield]
      cases get first with
      | none => rfl
      | some entry => simp [List.lookup_cons, beq_eq_false_iff_ne.2 hne]

omit [DecidableEq β] in
theorem pick_eq_iff (hnodup : (shape.map Prod.fst).Nodup) :
    pick shape get = pick shape get' ↔ ∀ field ∈ shape, get field = get' field := by
  constructor
  · intro heq field hfield
    have hleft : (pick shape get).lookup field.1 = get field := lookup_pick hnodup hfield
    rw [← hleft, heq, lookup_pick hnodup hfield]
  · intro hall
    unfold pick
    refine List.filterMap_congr fun field hfield => ?_
    rw [hall field hfield]

end Pick

omit [DecidableEq β] in
theorem lookup_encode {field : String × Field β} (h : field ∈ original.shape) :
    (original.encode v).lookup field.1 = some ((v.lookup field.1).getD .null) :=
  lookup_pick original.nodup h

omit [DecidableEq β] in
theorem parse_of_accepts (h : original.Accepts v) :
    original.parse v = some (pick original.shape fun field => v.lookup field.1) :=
  if_pos h

omit [DecidableEq β] in
theorem hasOptional_eq {field : String × Field β} (h : field ∈ original.shape) :
    original.hasOptional field.1 = field.2.optional := by
  unfold ObjectSchema.hasOptional
  rw [Bool.eq_iff_iff, List.any_eq_true]
  constructor
  · rintro ⟨other, hother, hsame⟩
    rw [Bool.and_eq_true, decide_eq_true_eq] at hsame
    obtain rfl := List.inj_on_of_nodup_map original.nodup hother h hsame.1
    exact hsame.2
  · intro hoptional
    exact ⟨field, h, by simp [hoptional]⟩

omit [DecidableEq β] in
theorem wire_accepts_encode (h : original.Accepts v) :
    original.wire.Accepts (original.encode v) := by
  refine ⟨fun wired hwired => ?_, fun _ property hproperty => ?_⟩
  · obtain ⟨field, hfield, rfl⟩ := List.mem_map.1 hwired
    have haccepts := h.1 field hfield
    rw [lookup_encode hfield]
    unfold Field.wire
    cases hoptional : field.2.optional with
    | true =>
      rw [if_pos rfl]
      cases hvalue : v.lookup field.1 with
      | none => rfl
      | some entry =>
        cases entry with
        | null => rfl
        | value b =>
          rw [hvalue] at haccepts
          exact haccepts
    | false =>
      rw [if_neg Bool.false_ne_true]
      cases hvalue : v.lookup field.1 with
      | none =>
        rw [hvalue, Field.accepts, hoptional] at haccepts
        cases haccepts
      | some entry =>
        rw [hvalue] at haccepts
        exact haccepts
  · show property.1 ∈ (original.shape.map fun field => (field.1, field.2.wire)).map Prod.fst
    rw [map_fst_wire]
    exact key_mem_of_mem_pick hproperty

omit [DecidableEq β] in
theorem parse_encode (h : original.Accepts v) :
    original.wire.parse (original.encode v) = some (original.encode v) := by
  rw [parse_of_accepts (wire_accepts_encode h)]
  refine congrArg some ?_
  unfold pick ObjectSchema.wire
  dsimp only
  rw [List.filterMap_map]
  refine List.filterMap_congr fun field hfield => ?_
  rw [Function.comp_apply, lookup_encode hfield]

def kept (v : Properties β) (field : String × Field β) :
    Option (Entry β) :=
  some ((v.lookup field.1).getD .null) |>.filter fun entry => entry ≠ .null || !field.2.optional

theorem filter_encode (original : ObjectSchema β) (v : Properties β) :
    ((original.encode v).filter fun (key, entry) =>
      entry ≠ .null || !original.hasOptional key) = pick original.shape (kept v) := by
  unfold ObjectSchema.encode pick
  rw [List.filter_filterMap]
  refine List.filterMap_congr fun field hfield => ?_
  unfold kept
  simp only [Option.map_some, Option.filter_some, hasOptional_eq hfield]
  split <;> rfl

theorem kept_eq_iff (h : original.Accepts v) {field : String × Field β}
    (hfield : field ∈ original.shape) :
    kept v field = v.lookup field.1 ↔
      ¬ (field.2.optional = true ∧ v.lookup field.1 = some .null) := by
  have haccepts := h.1 field hfield
  unfold kept
  cases hvalue : v.lookup field.1 with
  | none =>
    rw [hvalue] at haccepts
    have hoptional : field.2.optional = true := haccepts
    simp [hoptional]
  | some entry => cases entry <;> simp

theorem accepts_kept (h : original.Accepts v) :
    original.Accepts (pick original.shape (kept v)) := by
  refine ⟨fun field hfield => ?_, fun _ property hproperty => key_mem_of_mem_pick hproperty⟩
  rw [lookup_pick original.nodup hfield]
  by_cases hnull : field.2.optional = true ∧ v.lookup field.1 = some .null
  · have hnone : kept v field = none := by
      unfold kept
      rw [hnull.2]
      simp [hnull.1]
    rw [hnone]
    exact hnull.1
  · rw [(kept_eq_iff h hfield).2 hnull]
    exact h.1 field hfield

/-- The wire loses nothing of a value exactly when no optional field of it is `null`, and two
such values of one wire form are one. -/
theorem round_trips_iff (h : original.Accepts v) :
    (RoundTrips original v ↔
      ∀ field ∈ original.shape, field.2.optional = true → v.lookup field.1 ≠ some .null) ∧
    ∀ v', original.Accepts v' → RoundTrips original v → RoundTrips original v' →
      original.encode v = original.encode v' → original.parse v = original.parse v' := by
  have hdecode : original.decode (original.encode v) =
      some (pick original.shape (kept v) |> fun w =>
        pick original.shape fun field => w.lookup field.1) := by
    unfold ObjectSchema.decode
    rw [parse_encode h, Option.bind_some, filter_encode, parse_of_accepts (accepts_kept h)]
  constructor
  · unfold RoundTrips
    rw [hdecode, parse_of_accepts h, Option.some_inj, pick_eq_iff original.nodup]
    constructor
    · rintro ⟨-, hsame⟩ field hfield hoptional hnull
      have hkept := hsame field hfield
      rw [lookup_pick original.nodup hfield] at hkept
      exact (kept_eq_iff h hfield).1 hkept ⟨hoptional, hnull⟩
    · intro hno
      refine ⟨wire_accepts_encode h, fun field hfield => ?_⟩
      rw [lookup_pick original.nodup hfield]
      exact (kept_eq_iff h hfield).2 fun hnull => hno field hfield hnull.1 hnull.2
  · intro v' _ htrip htrip' hwire
    rw [← htrip.2, hwire, htrip'.2]

/-! A route, and a note that may be left out and may be `null`. -/

def noteSchema : ObjectSchema String where
  shape := [("route", { takes := fun route => route = "sales" || route = "direct" }),
    ("note", { takes := fun _ => true, optional := true, nullable := true })]
  strict := true
  nodup := by decide

theorem round_trips_iff_absent : RoundTrips noteSchema [("route", .value "sales")] :=
  ((round_trips_iff (by decide)).1).2 (by decide)

theorem null_is_lost :
    noteSchema.Accepts [("route", .value "sales"), ("note", .null)] ∧
      ¬ RoundTrips noteSchema [("route", .value "sales"), ("note", .null)] ∧
      noteSchema.encode [("route", .value "sales"), ("note", .null)] =
        noteSchema.encode [("route", .value "sales")] ∧
      noteSchema.parse [("route", .value "sales"), ("note", .null)] ≠
        noteSchema.parse [("route", .value "sales")] := by
  refine ⟨by decide, fun h => ?_, by decide, by decide⟩
  exact absurd h.2 (by decide)

end FashionErp.StrictOutput
