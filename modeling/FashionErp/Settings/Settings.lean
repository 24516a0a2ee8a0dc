/-
`settings/services/settings.service.ts`: settings by scope, and the cache before them.

A read goes through its scopes; at each it asks the cache, then the table, and stores what it
finds there in the cache.
-/
import FashionErp.Core.Basic
import FashionErp.Lib.CacheAside
import FashionErp.Lib.Column
import FashionErp.Lib.Concurrent
import FashionErp.Lib.Json

namespace FashionErp

open Lib

inductive SettingScopeType
  | System
  | Company
  | Branch
  | User
  deriving DecidableEq

def SettingScopeType.value : SettingScopeType → String
  | .System => "SYSTEM"
  | .Company => "COMPANY"
  | .Branch => "BRANCH"
  | .User => "USER"

inductive SettingDataType
  | String
  | Integer
  | Boolean
  | Decimal
  | Json

structure ScopeTarget where
  scopeType : SettingScopeType
  scopeId : String
  deriving DecidableEq

/-- What a value is kept under, in the table and, as `CacheKeys.settingValue`, in the cache. -/
structure SettingSlot where
  scope : ScopeTarget
  key : String
  deriving DecidableEq

section

variable (ν : Type)

abbrev SettingStoredValue := Json ν

structure SettingDefinition where
  key : String
  category : String
  dataType : SettingDataType
  defaultValue : SettingStoredValue ν
  allowedScopes : List SettingScopeType
  isActive : Bool

variable {ν} in
def SettingDefinition.slot (definition : SettingDefinition ν) (scope : ScopeTarget) : SettingSlot :=
  ⟨scope, definition.key⟩

/-- `ResolvedSettingResponseDto`; the source is `none` for `DEFAULT`. -/
structure ResolvedSetting where
  key : String
  category : String
  dataType : SettingDataType
  value : SettingStoredValue ν
  source : Option ScopeTarget

structure SettingsDb where
  definitions : List (SettingDefinition ν)
  values : CacheAside SettingSlot (SettingStoredValue ν)

structure Platform where
  isInteger : ν → Bool
  /-- `!Number.isNaN(Number(value))` of a string. -/
  isDecimal : String → Bool
  /-- Whether `save` finds two values of a JSON column equal. -/
  deepCompare : SettingStoredValue ν → SettingStoredValue ν → Bool

end

namespace SettingsService

section

variable {ν : Type} (platform : Platform ν)

/-! ## The service -/

def expected (type : String) : Failure := appException .ValidationError s!"Expected {type} value"

def assertValueMatchesType (dataType : SettingDataType) (value : SettingStoredValue ν) :
    Except Failure Unit :=
  match dataType, value with
  | _, .null => .ok ()
  | .String, .string _ => .ok ()
  | .String, _ => .error (expected "a string")
  | .Boolean, .bool _ => .ok ()
  | .Boolean, _ => .error (expected "a boolean")
  | .Integer, .number n => if platform.isInteger n then .ok () else .error (expected "an integer")
  | .Integer, _ => .error (expected "an integer")
  | .Decimal, .number _ => .ok ()
  | .Decimal, .string s => if platform.isDecimal s then .ok () else .error (expected "a decimal")
  | .Decimal, _ => .error (expected "a decimal")
  | .Json, .array _ => .ok ()
  | .Json, .object _ => .ok ()
  | .Json, _ => .error (expected "a JSON")

/-- The checks of `updateValue`. -/
def findWritable (key : String) (scope : ScopeTarget) (value : SettingStoredValue ν)
    (db : SettingsDb ν) : Except Failure (SettingDefinition ν) :=
  match db.definitions.find? fun d => d.key = key && d.isActive with
  | none => .error (appException .ValidationError "Invalid setting key")
  | some definition =>
    if scope.scopeType ∈ definition.allowedScopes then
      (assertValueMatchesType platform definition.dataType value).map fun _ => definition
    else
      let scopeType := scope.scopeType.value
      .error (appException .ValidationError s!"Setting {key} cannot be written at {scopeType} scope")

def resolved (definition : SettingDefinition ν) (value : SettingStoredValue ν)
    (source : Option ScopeTarget) : ResolvedSetting ν :=
  ⟨definition.key, definition.category, definition.dataType, value, source⟩

/-! ## Requests beside each other -/

/-- `updateValue`, `resolveDefinition`, or an entry of the cache that comes to its end. -/
inductive Call (ν : Type)
  | update (key : String) (scope : ScopeTarget) (value : SettingStoredValue ν)
  | read (definition : SettingDefinition ν) (scopes : List ScopeTarget)
  | expire (slot : SettingSlot)

abbrev Seen := List (SettingSlot × ℕ)

/-- Where a request stands. `floor` says of each slot which version it had when the read
began. -/
inductive Phase (ν : Type)
  | called
  /-- The update is allowed. -/
  | writable (definition : SettingDefinition ν)
  | found (definition : SettingDefinition ν) (existing : Bool)
  /-- `save` has read the row again. -/
  | saving (definition : SettingDefinition ν) (seen : Versioned (SettingStoredValue ν))
  | saved (definition : SettingDefinition ν) (slot : SettingSlot) (version : ℕ)
  /-- The update has returned. -/
  | updated (slot : SettingSlot) (version : ℕ) (answer : ResolvedSetting ν)
  | looking (floor : SettingSlot → ℕ) (scopes : List ScopeTarget) (seen : Seen)
  | missed (floor : SettingSlot → ℕ) (scope : ScopeTarget) (scopes : List ScopeTarget) (seen : Seen)
  | filling (floor : SettingSlot → ℕ) (scope : ScopeTarget)
      (entry : Versioned (SettingStoredValue ν)) (seen : Seen)
  /-- The read has returned. -/
  | answered (floor : SettingSlot → ℕ) (seen : Seen) (answer : ResolvedSetting ν)
  | expired
  | failed (error : Failure)

inductive Label
  | define
  | find
  | reread
  | write
  | delete
  | start
  | get
  | load
  | fill

/-- The moves of `updateValue`. -/
def updateMove (key : String) (scope : ScopeTarget) (value : SettingStoredValue ν) :
    Label → Phase ν → SettingsDb ν → Option (Move (SettingsDb ν) Unit (Phase ν))
  | .define, .called, db =>
    match findWritable platform key scope value db with
    | .ok definition => some (.goto (.writable definition))
    | .error error => some (.leave (.failed error))
  | .find, .writable definition, db =>
    some (.goto (.found definition (db.values.rows (definition.slot scope)).isSome))
  | .write, .found definition false, db =>
    match db.values.rows (definition.slot scope) with
    | some _ => some (.leave (.failed (.duplicateEntry "setting_values")))
    | none =>
      some (.commit { db with values := db.values.put (definition.slot scope) value }
        (.saved definition (definition.slot scope) (db.values.version (definition.slot scope) + 1)))
  | .reread, .found definition true, db =>
    (db.values.rows (definition.slot scope)).map fun seen => .goto (.saving definition seen)
  | .write, .saving definition seen, db =>
    if platform.deepCompare value seen.value then
      some (.goto (.saved definition (definition.slot scope) seen.version))
    else
      some (.commit { db with values := db.values.put (definition.slot scope) value }
        (.saved definition (definition.slot scope) (db.values.version (definition.slot scope) + 1)))
  | .delete, .saved definition slot version, db =>
    some (.commit { db with values := db.values.drop slot }
      (.updated slot version (resolved definition value (some scope))))
  | _, _, _ => none

/-- The moves of `resolveDefinition`. -/
def readMove (definition : SettingDefinition ν) (scopes : List ScopeTarget) :
    Label → Phase ν → SettingsDb ν → Option (Move (SettingsDb ν) Unit (Phase ν))
  | .start, .called, db =>
    let allowed := scopes.filter fun scope => scope.scopeType ∈ definition.allowedScopes
    some (.goto (.looking db.values.version allowed []))
  | .get, .looking floor (scope :: rest) seen, db =>
    match db.values.cache (definition.slot scope) with
    | some entry =>
      some (.goto (.answered floor ((definition.slot scope, entry.version) :: seen)
        (resolved definition entry.value (some scope))))
    | none => some (.goto (.missed floor scope rest seen))
  | .get, .looking floor [] seen, _ =>
    some (.goto (.answered floor seen (resolved definition definition.defaultValue none)))
  | .load, .missed floor scope rest seen, db =>
    match db.values.rows (definition.slot scope) with
    | some entry => some (.goto (.filling floor scope entry seen))
    | none => some (.goto (.looking floor rest ((definition.slot scope, 0) :: seen)))
  | .fill, .filling floor scope entry seen, db =>
    some (.commit { db with values := db.values.fill (definition.slot scope) entry }
      (.answered floor ((definition.slot scope, entry.version) :: seen)
        (resolved definition entry.value (some scope))))
  | _, _, _ => none

def protocol (call : ℕ → Call ν) : Protocol (SettingsDb ν) Unit (Phase ν) Label := fun i l p db =>
  match call i with
  | .update key scope value => updateMove platform key scope value l p db
  | .read definition scopes => readMove definition scopes l p db
  | .expire slot =>
    match l, p with
    | .delete, .called => some (.commit { db with values := db.values.drop slot } .expired)
    | _, _ => none

def machine (call : ℕ → Call ν) : Machine (Shared (SettingsDb ν) Unit (Phase ν)) (ℕ × Label) :=
  concurrent (protocol platform call)

/-! ## The claim and the condition -/

def Fresh (floor : SettingSlot → ℕ) (seen : Seen) : Prop := ∀ e ∈ seen, floor e.1 ≤ e.2

def Pending (phase : ℕ → Phase ν) (slot : SettingSlot) (version : ℕ) : Prop :=
  ∃ i definition, phase i = .saved definition slot version

/-- The condition on a step. A read stores in the cache what the row still holds, or what
an update has overwritten that is still to delete the entry; and none that has begun after an
update saved looks the slot up before the update has deleted the entry. -/
def Coherent (call : ℕ → Call ν) (s : Shared (SettingsDb ν) Unit (Phase ν)) : ℕ × Label → Prop
  | (i, .fill) =>
    match call i, s.phase i with
    | .read definition _, .filling _ scope entry _ =>
      entry.version = s.db.values.version (definition.slot scope) ∨
        Pending s.phase (definition.slot scope) (entry.version + 1)
    | _, _ => True
  | (i, .get) =>
    match call i, s.phase i with
    | .read definition _, .looking floor (scope :: _) _ =>
      s.db.values.cache (definition.slot scope) ≠ none →
        ∀ version, Pending s.phase (definition.slot scope) version →
          floor (definition.slot scope) < version
    | _, _ => True
  | _ => True

/-! ## The invariant -/

/-- What is known of a request, while the rows only move on. -/
def PhaseOk (call : Call ν) (values : CacheAside SettingSlot (SettingStoredValue ν)) :
    Phase ν → Prop
  | .saving definition seen =>
    ∀ key scope value, call = .update key scope value →
      seen.version ≤ values.version (definition.slot scope)
  | .saved _ slot version => version ≤ values.version slot
  | .updated slot version _ => version ≤ values.version slot
  | .looking floor _ seen => (∀ slot, floor slot ≤ values.version slot) ∧ Fresh floor seen
  | .missed floor _ _ seen => (∀ slot, floor slot ≤ values.version slot) ∧ Fresh floor seen
  | .filling floor scope entry seen =>
    Fresh floor seen ∧ ∀ definition scopes, call = .read definition scopes →
      floor (definition.slot scope) ≤ entry.version
  | .answered floor seen _ => Fresh floor seen
  | _ => True

variable {p : Phase ν}

theorem PhaseOk.mono {call : Call ν} {values values' : CacheAside SettingSlot (SettingStoredValue ν)} (h : PhaseOk call values p)
    (hle : ∀ slot, values.version slot ≤ values'.version slot) : PhaseOk call values' p := by
  cases p with
  | saving definition seen => exact fun key scope value hcall => (h key scope value hcall).trans (hle _)
  | saved definition slot version => exact le_trans h (hle slot)
  | updated slot version answer => exact le_trans h (hle slot)
  | looking floor scopes seen => exact ⟨fun slot => (h.1 slot).trans (hle slot), h.2⟩
  | missed floor scope scopes seen => exact ⟨fun slot => (h.1 slot).trans (hle slot), h.2⟩
  | _ => exact h

/-- The invariant: entries are covered by the updates that are pending, and every request
is where it should be. -/
structure Inv (call : ℕ → Call ν) (s : Shared (SettingsDb ν) Unit (Phase ν)) : Prop where
  covered : s.db.values.Covered (Pending s.phase)
  phase : ∀ i, PhaseOk (call i) s.db.values (s.phase i)

/-- What a move of request `i` has to establish. -/
def Keeps (call : ℕ → Call ν) (s : Shared (SettingsDb ν) Unit (Phase ν)) (i : ℕ) :
    Move (SettingsDb ν) Unit (Phase ν) → Prop
  | .commit db p => (∀ slot, s.db.values.version slot ≤ db.values.version slot) ∧
      PhaseOk (call i) db.values p ∧ db.values.Covered (Pending (Function.update s.phase i p))
  | .goto p | .leave p | .acquire _ p => PhaseOk (call i) s.db.values p ∧
      s.db.values.Covered (Pending (Function.update s.phase i p))

section

variable {platform : Platform ν} {call : ℕ → Call ν} {s s' : Shared (SettingsDb ν) Unit (Phase ν)}
  {i : ℕ} {l : Label} {m : Move (SettingsDb ν) Unit (Phase ν)}

theorem Pending.update {slot : SettingSlot} {version : ℕ} (h : Pending s.phase slot version) (hp : ∀ definition, s.phase i ≠ .saved definition slot version) :
    Pending (Function.update s.phase i p) slot version := by
  obtain ⟨j, definition, hj⟩ := h
  have hne : j ≠ i := fun heq => hp definition (heq ▸ hj)
  exact ⟨j, definition, (Function.update_of_ne hne ..).trans hj⟩

theorem Inv.step (h : Inv call s) (hs : (machine platform call).step s (i, l) = some s')
    (hkeeps : ∀ m, protocol platform call i l (s.phase i) s.db = some m → Keeps call s i m) :
    Inv call s' := by
  obtain ⟨m, hm, hmove⟩ := Option.bind_eq_some_iff.1 hs
  have hkept := hkeeps m hm
  have hsame : ∀ {p}, PhaseOk (call i) s.db.values p →
      ∀ j, PhaseOk (call j) s.db.values (Function.update s.phase i p j) :=
    fun hp => forall_update hp fun j _ => h.phase j
  cases m with
  | goto p =>
    cases hmove
    exact ⟨hkept.2, hsame hkept.1⟩
  | acquire k p =>
    obtain ⟨-, hmove⟩ := Option.ite_none_right_eq_some.1 hmove
    cases hmove
    exact ⟨hkept.2, hsame hkept.1⟩
  | leave p =>
    cases hmove
    exact ⟨hkept.2, hsame hkept.1⟩
  | commit db p =>
    cases hmove
    exact ⟨hkept.2.2, forall_update hkept.2.1 fun j _ => (h.phase j).mono hkept.1⟩

theorem Inv.quiet (h : Inv call s)
    (hnot : ∀ definition slot version, s.phase i ≠ .saved definition slot version) :
    s.db.values.Covered (Pending (Function.update s.phase i p)) :=
  h.covered.mono fun _ _ hpending => hpending.update fun definition => hnot definition _ _

theorem updateMove_keeps {key : String} {scope : ScopeTarget} {value : SettingStoredValue ν}
    (h : Inv call s) (hcall : call i = .update key scope value)
    (hm : updateMove platform key scope value l (s.phase i) s.db = some m) : Keeps call s i m := by
  have hphase := h.phase i
  generalize hp : s.phase i = p at hm hphase
  unfold updateMove at hm
  split at hm
  case h_1 =>
    have hquiet := fun q => h.quiet (i := i) (p := q) (by rw [hp]; exact nofun)
    split at hm
    · cases hm
      exact ⟨trivial, hquiet _⟩
    · cases hm
      exact ⟨trivial, hquiet _⟩
  case h_2 =>
    cases hm
    exact ⟨trivial, h.quiet (by rw [hp]; exact nofun)⟩
  case h_3 definition =>
    split at hm
    · cases hm
      exact ⟨trivial, h.quiet (by rw [hp]; exact nofun)⟩
    · cases hm
      refine ⟨fun _ => CacheAside.version_le_put, CacheAside.version_put_self.ge, ?_⟩
      refine h.covered.put (fun _ _ hpending => hpending.update fun _ => by rw [hp]; exact nofun) ?_
      exact ⟨i, definition, Function.update_self ..⟩
  case h_4 definition =>
    obtain ⟨seen, hseen, rfl⟩ := Option.map_eq_some_iff.1 hm
    refine ⟨fun key' scope' value' hcall' => ?_, h.quiet (by rw [hp]; exact nofun)⟩
    obtain ⟨-, rfl, -⟩ := Call.update.inj (hcall.symm.trans hcall')
    exact (CacheAside.version_of_rows hseen).ge
  case h_5 definition seen =>
    split at hm
    · cases hm
      exact ⟨hphase key scope value hcall, h.quiet (by rw [hp]; exact nofun)⟩
    · cases hm
      refine ⟨fun _ => CacheAside.version_le_put, CacheAside.version_put_self.ge, ?_⟩
      refine h.covered.put (fun _ _ hpending => hpending.update fun _ => by rw [hp]; exact nofun) ?_
      exact ⟨i, definition, Function.update_self ..⟩
  case h_6 definition slot version =>
    cases hm
    refine ⟨fun _ => le_rfl, hphase, h.covered.drop fun j w hj hpending => hpending.update ?_⟩
    rw [hp]
    rintro _ heq
    exact hj (Phase.saved.inj heq).2.1.symm
  case h_7 => cases hm

theorem readMove_keeps {definition : SettingDefinition ν} {scopes : List ScopeTarget}
    (h : Inv call s) (hc : Coherent call s (i, l)) (hcall : call i = .read definition scopes)
    (hm : readMove definition scopes l (s.phase i) s.db = some m) : Keeps call s i m := by
  have hphase := h.phase i
  generalize hp : s.phase i = p at hm hphase
  unfold readMove at hm
  split at hm
  case h_1 =>
    cases hm
    exact ⟨⟨fun _ => le_rfl, fun _ he => absurd he List.not_mem_nil⟩,
      h.quiet (by rw [hp]; rintro _ _ _ ⟨⟩)⟩
  case h_2 floor scope rest seen =>
    simp only [Coherent, hcall, hp] at hc
    split at hm
    · rename_i entry hentry
      cases hm
      have hfresh : floor (definition.slot scope) ≤ entry.version :=
        h.covered.hit hentry (hphase.1 _) (hc (hentry ▸ Option.some_ne_none entry))
      exact ⟨List.forall_mem_cons.2 ⟨hfresh, hphase.2⟩, h.quiet (by rw [hp]; rintro _ _ _ ⟨⟩)⟩
    · cases hm
      exact ⟨hphase, h.quiet (by rw [hp]; rintro _ _ _ ⟨⟩)⟩
  case h_3 =>
    cases hm
    exact ⟨hphase.2, h.quiet (by rw [hp]; rintro _ _ _ ⟨⟩)⟩
  case h_4 floor scope rest seen =>
    have hfloor := hphase.1 (definition.slot scope)
    split at hm
    · rename_i entry hentry
      cases hm
      refine ⟨⟨hphase.2, fun definition' scopes' hcall' => ?_⟩, h.quiet (by rw [hp]; rintro _ _ _ ⟨⟩)⟩
      obtain ⟨rfl, -⟩ := Call.read.inj (hcall.symm.trans hcall')
      exact (CacheAside.version_of_rows hentry) ▸ hfloor
    · rename_i hnone
      cases hm
      have hzero : s.db.values.version (definition.slot scope) = 0 := by
        rw [CacheAside.version, hnone]
        rfl
      exact ⟨⟨hphase.1, List.forall_mem_cons.2 ⟨hzero ▸ hfloor, hphase.2⟩⟩,
        h.quiet (by rw [hp]; rintro _ _ _ ⟨⟩)⟩
  case h_5 floor scope entry seen =>
    simp only [Coherent, hcall, hp] at hc
    cases hm
    refine ⟨fun _ => le_rfl,
      List.forall_mem_cons.2 ⟨hphase.2 definition scopes hcall, hphase.1⟩, ?_⟩
    exact (h.covered.fill hc).mono fun _ _ hpending => hpending.update fun _ => by
      rw [hp]
      rintro ⟨⟩
  case h_6 => cases hm

theorem move_keeps (h : Inv call s) (hc : Coherent call s (i, l))
    (hm : protocol platform call i l (s.phase i) s.db = some m) : Keeps call s i m := by
  unfold protocol at hm
  split at hm
  case h_1 hcall => exact updateMove_keeps h hcall hm
  case h_2 hcall => exact readMove_keeps h hc hcall hm
  case h_3 slot _ =>
    generalize hp : s.phase i = p at hm
    split at hm
    · cases hm
      refine ⟨fun _ => le_rfl, trivial, h.covered.drop fun _ _ _ hpending => hpending.update ?_⟩
      rw [hp]
      exact nofun
    · cases hm

end

end

namespace SettingsDemo

def platform : Platform ℤ where
  isInteger _ := true
  isDecimal _ := true
  deepCompare v w :=
    match v, w with
    | .number a, .number b => a = b
    | _, _ => false

def maxDiscount : SettingDefinition ℤ :=
  ⟨"sales.max_discount", "SALES", .Integer, .number 0, [.System, .Company], true⟩

def company : ScopeTarget := ⟨.Company, "10"⟩

def slot : SettingSlot := maxDiscount.slot company

def db : SettingsDb ℤ where
  definitions := [maxDiscount]
  values :=
    { rows := Function.update (fun _ => none) slot (some ⟨.number 5, 1⟩), cache := fun _ => none }

def calls (i : ℕ) : Call ℤ :=
  if i = 0 then .update "sales.max_discount" company (.number 7)
  else .read maxDiscount [company, ⟨.System, "SYSTEM"⟩]

/-- What request `i` has read, and what was in the row when it began. -/
def readAt (s : Shared (SettingsDb ℤ) Unit (Phase ℤ)) (i : ℕ) : Option (ℕ × Seen) :=
  match s.phase i with
  | .answered floor seen _ => some (floor slot, seen)
  | _ => none

variable {s : Shared (SettingsDb ℤ) Unit (Phase ℤ)}

theorem not_fresh {i : ℕ} (h : readAt s i = some (2, [(slot, 1)])) :
    ∃ floor seen answer, s.phase i = .answered floor seen answer ∧ ¬ Fresh floor seen := by
  unfold readAt at h
  split at h
  · rename_i floor seen answer hphase
    obtain ⟨hfloor, rfl⟩ := Prod.mk.inj (Option.some.inj h)
    refine ⟨floor, _, answer, hphase, fun hfresh => ?_⟩
    have hle : floor slot ≤ 1 := hfresh (slot, 1) List.mem_cons_self
    omega
  · cases h

def Calm (s : Shared (SettingsDb ℤ) Unit (Phase ℤ)) : ℕ × Label → Prop
  | (i, .fill) =>
    match calls i, s.phase i with
    | .read definition _, .filling _ scope entry _ =>
      entry.version = s.db.values.version (definition.slot scope)
    | _, _ => True
  | (i, .get) =>
    match calls i, s.phase i with
    | .read definition _, .looking _ (scope :: _) _ =>
      (s.db.values.cache (definition.slot scope)).isNone
    | _, _ => True
  | _ => True

instance (s : Shared (SettingsDb ℤ) Unit (Phase ℤ)) (l : ℕ × Label) : Decidable (Calm s l) := by
  unfold Calm
  split
  · split <;> infer_instance
  · split <;> infer_instance
  · infer_instance

theorem Calm.coherent {l : ℕ × Label} (h : Calm s l) : Coherent calls s l := by
  unfold Calm at h
  unfold Coherent
  split at h
  · split at h <;> simp_all
  · split at h <;> simp_all
  · trivial

end SettingsDemo

end SettingsService

end FashionErp
