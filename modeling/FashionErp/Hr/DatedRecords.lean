/-
Records that are in force from one day through another: what the four services of dated
records of an employee do alike.

A creation is one transaction: all that it checks it reads from the snapshot of its first
read, and then it inserts.
-/
import FashionErp.Core.Order
import FashionErp.Hr.Entities
import FashionErp.Lib.Apart
import FashionErp.Lib.CommitLaw
import FashionErp.Lib.SaveEntity

namespace FashionErp.Hr

open Lib Lib.Tx
open scoped Chronological

/-- A service of dated records: `ρ` are its rows, `κ` what no two of them overlap on, `γ` and
`δ` what `create` and `update` are sent, and `β` the tables its other checks read. The laws say
that the rows a request makes have the columns they should. -/
structure DatedService (ρ κ γ δ β : Type) [Keyed ρ Uuid] where
  slot : ρ → κ
  effectiveFrom : ρ → DateOnly
  effectiveTo : ρ → Option DateOnly
  overlapText : String
  newSlot : γ → κ
  newFrom : γ → DateText
  newTo : γ → Option DateText
  /-- The checks of `create` between the order of its dates and `assertNoOverlap`. -/
  assertNew : γ → β → Except Failure Unit
  newRow : Uuid → γ → ρ
  findRow : δ → ρ → Except Failure Unit
  nextFrom : δ → ρ → DateText
  nextTo : δ → ρ → Option DateText
  /-- The checks of `update` between the order of its dates and `assertNoOverlap`. -/
  assertNext : δ → ρ → β → Except Failure Unit
  applyUpdate : δ → ρ → ρ
  /-- The columns in which an entity differs from what `save` has read, over a row. -/
  merge : ρ → ρ → ρ → ρ
  newRow_key : ∀ id dto, key (newRow id dto) = id
  newRow_slot : ∀ id dto, slot (newRow id dto) = newSlot dto
  newRow_from : ∀ id dto, effectiveFrom (newRow id dto) = (newFrom dto).day
  newRow_to : ∀ id dto, effectiveTo (newRow id dto) = (newTo dto).map (·.day)
  apply_key : ∀ dto row, key (applyUpdate dto row) = key row
  apply_slot : ∀ dto row, slot (applyUpdate dto row) = slot row
  apply_from : ∀ dto row, effectiveFrom (applyUpdate dto row) = (nextFrom dto row).day
  apply_to : ∀ dto row, effectiveTo (applyUpdate dto row) = (nextTo dto row).map (·.day)
  merge_key : ∀ entity seen row, key (merge entity seen row) = key row
  merge_slot : ∀ entity seen row, slot entity = slot seen → slot (merge entity seen row) = slot row

structure DatedDb (ρ β : Type) [Keyed ρ Uuid] where
  base : β
  rows : Table ρ := .empty
  nextId : Uuid := 0

variable {ρ κ γ δ β : Type} [Keyed ρ Uuid] [DecidableEq κ]

namespace DatedService

variable (service : DatedService ρ κ γ δ β)

/-- The row is in the slot, is not the record itself, and meets the days from `effectiveFrom`
through `effectiveTo`. -/
def overlapping (slot : κ) (effectiveFrom : DateOnly) (effectiveTo : Option DateOnly)
    (ignoreId : Option Uuid) (row : ρ) : Bool :=
  some (key row) ≠ ignoreId && service.slot row = slot &&
    ((service.effectiveTo row).all fun last => effectiveFrom ≤ last) &&
      (effectiveTo.all fun last => service.effectiveFrom row ≤ last)

def assertNoOverlap (slot : κ) (effectiveFrom : DateOnly) (effectiveTo : Option DateOnly)
    (ignoreId : Option Uuid) (rows : List ρ) : Except Failure Unit :=
  refuseIf (rows.any (service.overlapping slot effectiveFrom effectiveTo ignoreId))
    (appException .Conflict service.overlapText)

/-- `create`, up to its insert. -/
def assertCreate (dto : γ) (db : DatedDb ρ β) : Except Failure Unit := do
  validateDateRange (some (service.newFrom dto)) (service.newTo dto)
  service.assertNew dto db.base
  service.assertNoOverlap (service.newSlot dto) (service.newFrom dto).day
    ((service.newTo dto).map (·.day)) none db.rows.rows

/-- `update`, up to its save: the row it has read and the entity. -/
def loadUpdate (id : Uuid) (dto : δ) (db : DatedDb ρ β) : Except Failure ρ := do
  let row ← orRefuse (db.rows.find? id)
    (appException .NotFound "Employee assignment not found")
  service.findRow dto row
  validateDateRange (some (service.nextFrom dto row)) (service.nextTo dto row)
  service.assertNext dto row db.base
  service.assertNoOverlap (service.slot row) (service.nextFrom dto row).day
    ((service.nextTo dto row).map (·.day)) (some id) db.rows.rows
  return row

def access (id : Uuid) : RowAccess (DatedDb ρ β) ρ where
  find db := db.rows.find? id
  put row db := { db with rows := db.rows.save row }
  merge := service.merge

def occupies (row : ρ) : Set (κ × DateOnly) :=
  {x | x.1 = service.slot row ∧ x.2 ∈ through (service.effectiveFrom row) (service.effectiveTo row)}

instance (row : ρ) (x : κ × DateOnly) : Decidable (x ∈ service.occupies row) :=
  inferInstanceAs (Decidable (_ ∧ _ ∈ through _ _))

def InOrder (row : ρ) : Prop := ∀ last ∈ service.effectiveTo row, service.effectiveFrom row ≤ last

instance (row : ρ) : Decidable (service.InOrder row) :=
  inferInstanceAs (Decidable (∀ last ∈ _, _ ≤ last))

/-- Records do not overlap: they are in order and no two of a slot share a day, so at most
one is as of any date. -/
structure OneRecord (db : DatedDb ρ β) : Prop where
  inOrder : ∀ row ∈ db.rows.rows, service.InOrder row
  apart : db.rows.Apart service.occupies
  asOf : ∀ x, db.rows.rows.countP (fun row => x ∈ service.occupies row) ≤ 1

end DatedService

namespace DatedRecords

inductive Call (γ δ : Type)
  | create (dto : γ)
  | update (id : Uuid) (dto : δ)

inductive Phase (ρ : Type)
  | called
  | checked (rows : List ρ)
  | saving (rows : List ρ) (p : SavePhase ρ)
  | returned
  | rejected (error : Failure)
  /-- The connection is lost. -/
  | aborted

inductive Label
  | check
  | commit
  | save (l : SaveLabel)
  | abort

section

variable (service : DatedService ρ κ γ δ β)

/-- The moves of `create`. -/
def createMove (dto : γ) :
    Label → Phase ρ → DatedDb ρ β → Option (Move (DatedDb ρ β) Uuid (Phase ρ))
  | .check, .called, db =>
    match service.assertCreate dto db with
    | .ok _ => some (.goto (.checked db.rows.rows))
    | .error error => some (.leave (.rejected error))
  | .commit, .checked _, db =>
    some (.commit { db with
      rows := db.rows.save (service.newRow db.nextId dto)
      nextId := db.nextId + 1 } .returned)
  | .abort, .checked _, _ => some (.leave .aborted)
  | _, _, _ => none

/-- The moves of `update`. Its save reads the row in the same snapshot again. -/
def updateMove (id : Uuid) (dto : δ) :
    Label → Phase ρ → DatedDb ρ β → Option (Move (DatedDb ρ β) Uuid (Phase ρ))
  | .check, .called, db =>
    match service.loadUpdate id dto db with
    | .ok row => some (.goto (.saving db.rows.rows (.saving (service.applyUpdate dto row) row)))
    | .error error => some (.leave (.rejected error))
  | .save l, .saving rows p, db => (service.access id).saveMove id (.saving rows) .returned l p db
  | .abort, .saving _ _, _ => some (.leave .aborted)
  | _, _, _ => none

def protocol (call : ℕ → Call γ δ) : Protocol (DatedDb ρ β) Uuid (Phase ρ) Label := fun i l p db =>
  match call i with
  | .create dto => createMove service dto l p db
  | .update id dto => updateMove service id dto l p db

def machine (call : ℕ → Call γ δ) :
    Machine (Shared (DatedDb ρ β) Uuid (Phase ρ)) (ℕ × Label) :=
  concurrent (protocol service call)

/-! ## The condition and the invariant -/

def Meets (o r : ρ) : Prop :=
  service.slot o = service.slot r ∧
    max (service.effectiveFrom o) (service.effectiveFrom r) ∈
        through (service.effectiveFrom o) (service.effectiveTo o) ∧
      max (service.effectiveFrom o) (service.effectiveFrom r) ∈
        through (service.effectiveFrom r) (service.effectiveTo r)

instance (o r : ρ) : Decidable (Meets service o r) :=
  inferInstanceAs (Decidable (_ ∧ _ ∈ through _ _ ∧ _ ∈ through _ _))

def SameDays (r r' : ρ) : Prop :=
  service.effectiveFrom r = service.effectiveFrom r' ∧ service.effectiveTo r = service.effectiveTo r'

instance (r r' : ρ) : Decidable (SameDays service r r') :=
  inferInstanceAs (Decidable (_ ∧ _))

/-- The condition on a write: its days are in order, and each record it meets is one the
request has checked, for these days. -/
def Respects (call : ℕ → Call γ δ) (s : Shared (DatedDb ρ β) Uuid (Phase ρ)) : ℕ × Label → Prop
  | (i, .commit) =>
    match call i, s.phase i with
    | .create dto, .checked rows =>
      (∀ last ∈ service.newTo dto, (service.newFrom dto).day ≤ last.day) ∧
        ∀ o ∈ s.db.rows.rows, Meets service o (service.newRow s.db.nextId dto) → o ∈ rows
    | _, _ => True
  | (i, .save .commit) =>
    match s.phase i with
    | .saving rows (.updated entity seen _) =>
      ∀ current ∈ s.db.rows.find? (key entity),
        let row := service.merge entity seen current
        service.InOrder row ∧
          ∀ o ∈ s.db.rows.rows, key o ≠ key entity → Meets service o row →
            o ∈ rows ∧ SameDays service row entity
    | _ => True
  | _ => True

instance [DecidableEq ρ] (call : ℕ → Call γ δ) (s : Shared (DatedDb ρ β) Uuid (Phase ρ))
    (l : ℕ × Label) : Decidable (Respects service call s l) := by
  unfold Respects
  split
  · split <;> infer_instance
  · split <;> infer_instance
  · infer_instance

/-- What holds of the records. -/
structure Good (db : DatedDb ρ β) : Prop where
  inOrder : ∀ row ∈ db.rows.rows, service.InOrder row
  apart : db.rows.Apart service.occupies
  fresh : ∀ row ∈ db.rows.rows, key row < db.nextId

structure Same (r r' : ρ) : Prop where
  key : key r' = key r
  slot : service.slot r' = service.slot r

def PhaseOk (call : ℕ → Call γ δ) (held : Uuid → Prop) (db : DatedDb ρ β) (i : ℕ) (p : Phase ρ) :
    Prop :=
  match call i, p with
  | .create dto, .checked rows =>
    ∀ o ∈ rows, service.overlapping (service.newSlot dto) (service.newFrom dto).day
      ((service.newTo dto).map (·.day)) none o = false
  | .update id dto, .saving rows p =>
    SaveOk (service.access id) id (Same service) (service.applyUpdate dto) held db p ∧
      ∀ o ∈ rows, service.overlapping (service.slot p.entity) (service.effectiveFrom p.entity)
        (service.effectiveTo p.entity) (some id) o = false
  | _, _ => True

end

section

variable {service : DatedService ρ κ γ δ β} {call : ℕ → Call γ δ} {db db' : DatedDb ρ β}

omit [DecidableEq κ] in
theorem Same.refl (r : ρ) : Same service r r := ⟨rfl, rfl⟩

omit [DecidableEq κ] in
theorem Same.trans {r r₁ r₂ : ρ} (h : Same service r r₁) (h' : Same service r₁ r₂) :
    Same service r r₂ := ⟨h'.key.trans h.key, h'.slot.trans h.slot⟩

def Phase.Free : Phase ρ → Prop
  | checked _ | saving _ _ => False
  | _ => True

variable {p : Phase ρ} {i : ℕ} {held : Uuid → Prop}

theorem PhaseOk.of_free (hp : p.Free) : PhaseOk service call held db i p := by
  cases p with
  | checked | saving => exact hp.elim
  | _ => unfold PhaseOk; split <;> trivial

/-! ## Records that meet -/

omit [DecidableEq κ] in
theorem meets_iff {o r : ρ} :
    Meets service o r ↔ ∃ x, x ∈ service.occupies o ∧ x ∈ service.occupies r := by
  constructor
  · rintro ⟨hslot, hmem⟩
    exact ⟨(service.slot r, _), ⟨hslot.symm, hmem.1⟩, rfl, hmem.2⟩
  · rintro ⟨x, ⟨hslot, hmem⟩, hslot', hmem'⟩
    exact ⟨hslot.symm.trans hslot', exists_mem_through_iff.1 ⟨x.2, hmem, hmem'⟩⟩

omit [DecidableEq κ] in
theorem apart_save_iff_meets (h : db.rows.Apart service.occupies) {row : ρ} :
    (db.rows.save row).Apart service.occupies ↔
      ∀ o ∈ db.rows.rows, key o ≠ key row → ¬ Meets service o row := by
  rw [Table.apart_save_iff h]
  constructor
  · intro hothers o ho hne hmeets
    obtain ⟨x, hx⟩ := meets_iff.1 hmeets
    exact hothers o ho hne x hx
  · intro hothers o ho hne x hx
    exact hothers o ho hne (meets_iff.2 ⟨x, hx⟩)

theorem not_meets_of_checked {o r : ρ} {ignoreId : Option Uuid} (hother : some (key o) ≠ ignoreId)
    (hchecked : service.overlapping (service.slot r) (service.effectiveFrom r)
      (service.effectiveTo r) ignoreId o = false) : ¬ Meets service o r := by
  rintro ⟨hslot, ⟨-, hend⟩, -, hend'⟩
  refine absurd hchecked (Bool.not_eq_false _ |>.mpr ?_)
  simp only [DatedService.overlapping, hslot, Bool.and_eq_true, decide_eq_true_eq, Option.all_eq_true]
  refine ⟨⟨⟨hother, trivial⟩, fun last hlast => ?_⟩, fun last hlast => ?_⟩
  · exact (le_max_right _ _).trans (hend last hlast)
  · exact (le_max_left _ _).trans (hend' last hlast)

/-! ## What the commits do -/

/-- What a commit leaves of the rows others have read. -/
def Stands (service : DatedService ρ κ γ δ β) (held : Uuid → Prop) (db db' : DatedDb ρ β) : Prop :=
  ∀ id r, db.rows.find? id = some r →
    ∃ r', db'.rows.find? id = some r' ∧ Same service r r' ∧ (held id → r' = r)

theorem PhaseOk.mono {j : ℕ}
    (h : PhaseOk service call held db j p) (hstands : Stands service held db db') :
    PhaseOk service call held db' j p := by
  unfold PhaseOk at h ⊢
  split
  case h_1 hcall =>
    simp only [hcall] at h
    exact h
  case h_2 hcall =>
    simp only [hcall] at h
    exact ⟨h.1.mono (fun _ _ _ h h' => h.trans h') fun r hr => hstands _ r hr, h.2⟩
  case h_3 => trivial

/-! ### A creation -/

section

variable {dto : γ} {rows : List ρ}

omit [DecidableEq κ] in
theorem ne_nextId (hdb : Good service db) {o : ρ} (ho : o ∈ db.rows.rows) : key o ≠ db.nextId :=
  Nat.ne_of_lt (hdb.fresh o ho)

omit [DecidableEq κ] in
theorem inOrder_newRow_iff (id : Uuid) : service.InOrder (service.newRow id dto) ↔
    ∀ last ∈ service.newTo dto, (service.newFrom dto).day ≤ last.day := by
  rw [DatedService.InOrder, service.newRow_from, service.newRow_to]
  cases service.newTo dto with
  | none => exact ⟨fun _ _ h => (nomatch h), fun _ _ h => (nomatch h)⟩
  | some last => simp

/-- The condition on a creation is exact. -/
theorem apart_insert_iff (hdb : Good service db)
    (hchecked : ∀ o ∈ rows, service.overlapping (service.newSlot dto) (service.newFrom dto).day
      ((service.newTo dto).map (·.day)) none o = false) :
    (db.rows.save (service.newRow db.nextId dto)).Apart service.occupies ↔
      ∀ o ∈ db.rows.rows, Meets service o (service.newRow db.nextId dto) → o ∈ rows := by
  rw [apart_save_iff_meets hdb.apart, service.newRow_key]
  constructor
  · intro hothers o ho hmeets
    exact absurd hmeets (hothers o ho (ne_nextId hdb ho))
  · intro hknown o ho _ hmeets
    have hother : some (key o) ≠ none := Option.some_ne_none _
    refine not_meets_of_checked hother ?_ hmeets
    rw [service.newRow_slot, service.newRow_from, service.newRow_to]
    exact hchecked o (hknown o ho hmeets)

omit [DecidableEq κ] in
theorem good_insert (hdb : Good service db) (horder : service.InOrder (service.newRow db.nextId dto))
    (hapart : (db.rows.save (service.newRow db.nextId dto)).Apart service.occupies) :
    Good service { db with
      rows := db.rows.save (service.newRow db.nextId dto)
      nextId := db.nextId + 1 } where
  inOrder := Table.forall_save hdb.inOrder horder
  apart := hapart
  fresh := by
    refine Table.forall_save (fun r hr => Nat.lt_succ_of_lt (hdb.fresh r hr)) ?_
    rw [service.newRow_key]
    exact Nat.lt_succ_self _

omit [DecidableEq κ] in
theorem stands_insert (hdb : Good service db) (held : Uuid → Prop) :
    Stands service held db { db with
      rows := db.rows.save (service.newRow db.nextId dto)
      nextId := db.nextId + 1 } := by
  intro id r hr
  refine ⟨r, ?_, .refl r, fun _ => rfl⟩
  have hne : key (service.newRow db.nextId dto) ≠ id := by
    rw [service.newRow_key, ← Table.key_of_find? hr]
    exact (ne_nextId hdb (Table.mem_of_find? hr)).symm
  exact (Table.find?_save_ne _ _ _ hne).trans hr

end

/-! ### A save -/

section

variable {id : Uuid} {entity seen current : ρ} {rows : List ρ}

omit [DecidableEq κ] in
theorem same_merge (hentity : Same service entity seen) :
    Same service current (service.merge entity seen current) :=
  ⟨service.merge_key .., service.merge_slot entity seen current hentity.slot.symm⟩

/-- The condition on a save is exact. -/
theorem apart_merge_iff (hdb : Good service db) (hfind : db.rows.find? id = some current)
    (hseen : Same service entity seen) (hcurrent : Same service seen current)
    (hchecked : ∀ o ∈ rows, service.overlapping (service.slot entity)
      (service.effectiveFrom entity) (service.effectiveTo entity) (some id) o = false) :
    (db.rows.save (service.merge entity seen current)).Apart service.occupies ↔
      ∀ o ∈ db.rows.rows, key o ≠ key entity → Meets service o (service.merge entity seen current) →
        o ∈ rows ∧ SameDays service (service.merge entity seen current) entity := by
  have hsame : Same service entity (service.merge entity seen current) :=
    (hseen.trans hcurrent).trans (same_merge hseen)
  have hid : key entity = id :=
    (hseen.trans hcurrent).key.symm.trans (Table.key_of_find? hfind)
  rw [apart_save_iff_meets hdb.apart, hsame.key]
  constructor
  · intro hothers o ho hne hmeets
    exact absurd hmeets (hothers o ho hne)
  · intro hknown o ho hne hmeets
    obtain ⟨hread, hfrom, hto⟩ := hknown o ho hne hmeets
    have hother : some (key o) ≠ some id := fun h => hne ((Option.some.inj h).trans hid.symm)
    refine not_meets_of_checked hother ?_ hmeets
    rw [hsame.slot, hfrom, hto]
    exact hchecked o hread

omit [DecidableEq κ] in
theorem good_merge (hdb : Good service db) (hfind : db.rows.find? id = some current)
    (horder : service.InOrder (service.merge entity seen current))
    (hapart : (db.rows.save (service.merge entity seen current)).Apart service.occupies) :
    Good service { db with rows := db.rows.save (service.merge entity seen current) } where
  inOrder := Table.forall_save hdb.inOrder horder
  apart := hapart
  fresh := by
    refine Table.forall_save hdb.fresh ?_
    rw [service.merge_key]
    exact hdb.fresh current (Table.mem_of_find? hfind)

omit [DecidableEq κ] in
theorem stands_merge (hfind : db.rows.find? id = some current)
    (hseen : Same service entity seen) (hheld : held id) :
    Stands service (fun k => ¬ held k) db
      { db with rows := db.rows.save (service.merge entity seen current) } := by
  have hkey : key (service.merge entity seen current) = id :=
    (service.merge_key ..).trans (Table.key_of_find? hfind)
  intro k r hr
  show ∃ r', (db.rows.save (service.merge entity seen current)).find? k = some r' ∧ _
  rw [Table.find?_save, hkey]
  by_cases hk : id = k
  · subst hk
    obtain rfl := Option.some.inj (hfind.symm.trans hr)
    exact ⟨_, if_pos rfl, same_merge hseen, fun hnot => absurd hheld hnot⟩
  · exact ⟨r, (if_neg hk).trans hr, .refl r, fun _ => rfl⟩

end

/-! ## Steps and runs -/

/-- The moves of a request: one of the two commits, or nobody sees it. -/
inductive MoveCase (service : DatedService ρ κ γ δ β) (call : ℕ → Call γ δ) (held : Uuid → Prop)
    (db : DatedDb ρ β) (i : ℕ) :
    Label → Phase ρ → Move (DatedDb ρ β) Uuid (Phase ρ) → Prop
  | quiet {l p m} (hok : Shared.MoveOk (fun _ => False) (PhaseOk service call) held db i m) :
    MoveCase service call held db i l p m
  | inserted {dto rows} (hcall : call i = .create dto)
      (hchecked : ∀ o ∈ rows, service.overlapping (service.newSlot dto) (service.newFrom dto).day
        ((service.newTo dto).map (·.day)) none o = false) :
    MoveCase service call held db i .commit (.checked rows)
      (.commit { db with
        rows := db.rows.save (service.newRow db.nextId dto)
        nextId := db.nextId + 1 } .returned)
  | saved {id rows entity seen current} (hfind : db.rows.find? id = some current) (hheld : held id)
      (hseen : Same service entity seen) (hcurrent : Same service seen current)
      (hchecked : ∀ o ∈ rows, service.overlapping (service.slot entity)
        (service.effectiveFrom entity) (service.effectiveTo entity) (some id) o = false) :
    MoveCase service call held db i (.save .commit)
      (.saving rows (.updated entity seen (service.merge entity seen current)))
      (.commit ((service.access id).put (service.merge entity seen current) db) .returned)

variable {l : Label}

theorem MoveCase.leave {q : Phase ρ} (hq : q.Free) :
    MoveCase service call held db i l p (.leave q) := by
  refine .quiet ?_
  show PhaseOk service call (fun _ => False) db i q
  exact .of_free hq

theorem assertNoOverlap_ok {slot : κ} {effectiveFrom : DateOnly} {effectiveTo : Option DateOnly}
    {ignoreId : Option Uuid} {rows : List ρ} {u : Unit}
    (h : service.assertNoOverlap slot effectiveFrom effectiveTo ignoreId rows = .ok u) :
    ∀ o ∈ rows, service.overlapping slot effectiveFrom effectiveTo ignoreId o = false := by
  have hnone := refuseIf_eq_ok.1 h
  rw [Bool.not_eq_true, List.any_eq_false] at hnone
  intro o ho
  exact Bool.eq_false_iff.2 (hnone o ho)

theorem loadUpdate_ok {id : Uuid} {dto : δ} {row : ρ} (h : service.loadUpdate id dto db = .ok row) :
    db.rows.find? id = some row ∧
      ∀ o ∈ db.rows.rows, service.overlapping (service.slot row) (service.nextFrom dto row).day
        ((service.nextTo dto row).map (·.day)) (some id) o = false := by
  obtain ⟨found, hfound, h⟩ := except_bind_eq_ok.1 h
  obtain ⟨_, -, h⟩ := except_bind_eq_ok.1 h
  obtain ⟨_, -, h⟩ := except_bind_eq_ok.1 h
  obtain ⟨_, -, h⟩ := except_bind_eq_ok.1 h
  obtain ⟨_, hassert, h⟩ := except_bind_eq_ok.1 h
  cases h
  exact ⟨orRefuse_eq_ok.1 hfound, assertNoOverlap_ok hassert⟩

variable {m : Move (DatedDb ρ β) Uuid (Phase ρ)}

theorem createMove_cases {dto : γ} (hcall : call i = .create dto)
    (h : PhaseOk service call held db i p) (hm : createMove service dto l p db = some m) :
    MoveCase service call held db i l p m := by
  unfold createMove at hm
  split at hm
  case h_1 =>
    split at hm
    · rename_i hassert
      cases hm
      obtain ⟨_, -, hassert⟩ := except_bind_eq_ok.1 hassert
      obtain ⟨_, -, hassert⟩ := except_bind_eq_ok.1 hassert
      refine .quiet ?_
      simp only [Shared.MoveOk, PhaseOk, hcall]
      exact assertNoOverlap_ok hassert
    · cases hm
      exact .leave trivial
  case h_2 rows =>
    simp only [PhaseOk, hcall] at h
    cases hm
    exact .inserted hcall h
  case h_3 =>
    cases hm
    exact .leave trivial
  case h_4 => cases hm

theorem updateMove_cases {id : Uuid} {dto : δ} (hcall : call i = .update id dto)
    (h : PhaseOk service call held db i p) (hm : updateMove service id dto l p db = some m) :
    MoveCase service call held db i l p m := by
  unfold updateMove at hm
  split at hm
  case h_1 =>
    split at hm
    · rename_i row hload
      cases hm
      obtain ⟨hfind, hchecked⟩ := loadUpdate_ok hload
      refine .quiet ?_
      simp only [Shared.MoveOk, PhaseOk, hcall, SavePhase.entity]
      refine ⟨⟨row, row, rfl, hfind, .refl row, .refl row⟩, fun o ho => ?_⟩
      rw [service.apply_slot, service.apply_from, service.apply_to]
      exact hchecked o ho
    · cases hm
      exact .leave trivial
  case h_2 l rows p =>
    simp only [PhaseOk, hcall] at h
    obtain ⟨hsave, hchecked⟩ := h
    rcases hsave.move_entity Same.refl hm with ⟨q, rfl, hentity, hq⟩ | ⟨q, rfl, hentity, hq⟩ |
      ⟨entity, seen, row, rfl, rfl, rfl⟩
    · refine .quiet ?_
      simp only [Shared.MoveOk, PhaseOk, hcall, hentity]
      exact ⟨hq, hchecked⟩
    · refine .quiet ?_
      simp only [Shared.MoveOk, PhaseOk, hcall, hentity]
      exact ⟨hq, hchecked⟩
    · obtain ⟨first, current, hentity, hfind, hseen, hcurrent, hheld, rfl⟩ := hsave
      have hfirst : Same service entity first := by
        rw [hentity]
        exact ⟨(service.apply_key ..).symm, (service.apply_slot ..).symm⟩
      exact .saved hfind hheld (hfirst.trans hseen) hcurrent hchecked
  case h_3 =>
    cases hm
    exact .leave trivial
  case h_4 => cases hm

theorem protocol_cases (h : PhaseOk service call held db i p)
    (hm : protocol service call i l p db = some m) : MoveCase service call held db i l p m := by
  unfold protocol at hm
  split at hm
  · exact createMove_cases ‹_› h hm
  · exact updateMove_cases ‹_› h hm

def Inv (service : DatedService ρ κ γ δ β) (call : ℕ → Call γ δ)
    (s : Shared (DatedDb ρ β) Uuid (Phase ρ)) : Prop := s.Inv (Good service) (PhaseOk service call)

variable {s : Shared (DatedDb ρ β) Uuid (Phase ρ)}

theorem respects_of_quiet (hp : s.phase i = p)
    (hm : protocol service call i l p s.db = some m) (hquiet : ∀ db p, m ≠ .commit db p) :
    Respects service call s (i, l) := by
  cases l with
  | commit =>
    simp only [Respects]
    split
    · rename_i hcall hphase
      obtain rfl := hp.symm.trans hphase
      simp only [protocol, hcall] at hm
      exact absurd (Option.some.inj hm).symm (hquiet _ _)
    · trivial
  | save l =>
    cases l with
    | commit =>
      simp only [Respects]
      split
      · rename_i hphase
        obtain rfl := hp.symm.trans hphase
        unfold protocol at hm
        split at hm
        · cases hm
        · exact absurd (Option.some.inj hm).symm (hquiet _ _)
      · trivial
    | _ => trivial
  | _ => trivial

theorem oneRecord_of_good (hdb : Good service db) : service.OneRecord db :=
  ⟨hdb.inOrder, hdb.apart, fun _ => hdb.apart.countP_le_one⟩

/-- What a commit comes to: the records do not overlap exactly when it meets the condition,
and if they do not, everything else that is known stays so. -/
theorem commit_ok {q : Phase ρ} (h : Inv service call s)
    (hm : protocol service call i l (s.phase i) s.db = some (.commit db' q)) :
    (service.OneRecord db' ↔ Respects service call s (i, l)) ∧
      (service.OneRecord db' →
        Good service db' ∧ q.Free ∧ Stands service (fun k => ¬ s.Holds i k) s.db db') := by
  have hi := h.phase i
  generalize hp : s.phase i = p at hi hm
  generalize hmove : Move.commit db' q = m at hm
  cases protocol_cases hi hm with
  | quiet hok =>
    subst hmove
    exact hok.1.elim
  | @inserted dto rows hcall hchecked =>
    obtain ⟨rfl, rfl⟩ := Move.commit.inj hmove
    have hnew : ∀ {P : ρ → Prop}, (∀ r ∈ (s.db.rows.save (service.newRow s.db.nextId dto)).rows, P r) →
        P (service.newRow s.db.nextId dto) :=
      fun hall => hall _ ((Table.mem_save ..).2 (.inl rfl))
    constructor
    · simp only [Respects, hcall, hp]
      rw [← inOrder_newRow_iff s.db.nextId, ← apart_insert_iff h.db hchecked]
      constructor
      · intro hone
        exact ⟨hnew hone.inOrder, hone.apart⟩
      · rintro ⟨horder, hapart⟩
        exact oneRecord_of_good (good_insert h.db horder hapart)
    · intro hone
      exact ⟨good_insert h.db (hnew hone.inOrder) hone.apart, trivial, stands_insert h.db _⟩
  | @saved id rows entity seen current hfind hheld hseen hcurrent hchecked =>
    obtain ⟨rfl, rfl⟩ := Move.commit.inj hmove
    have hid : key entity = id :=
      (hseen.trans hcurrent).key.symm.trans (Table.key_of_find? hfind)
    have hnew : ∀ {P : ρ → Prop},
        (∀ r ∈ (s.db.rows.save (service.merge entity seen current)).rows, P r) →
          P (service.merge entity seen current) :=
      fun hall => hall _ ((Table.mem_save ..).2 (.inl rfl))
    constructor
    · simp only [Respects, hp, hid, hfind, Option.mem_def, Option.some.injEq, forall_eq']
      have hexact := apart_merge_iff h.db hfind hseen hcurrent hchecked
      rw [hid] at hexact
      rw [← hexact]
      constructor
      · intro hone
        exact ⟨hnew hone.inOrder, hone.apart⟩
      · rintro ⟨horder, hapart⟩
        exact oneRecord_of_good (good_merge h.db hfind horder hapart)
    · intro hone
      exact ⟨good_merge h.db hfind (hnew hone.inOrder) hone.apart, trivial,
        stands_merge hfind hseen hheld⟩

omit [DecidableEq κ] in
theorem Stands.weaken {held' : Uuid → Prop} (h : Stands service held db db')
    (hheld : ∀ k, held' k → held k) : Stands service held' db db' := by
  intro id r hr
  obtain ⟨r', hr', hsame, hkept⟩ := h id r hr
  exact ⟨r', hr', hsame, fun hid => hkept (hheld id hid)⟩

theorem commitLaw (service : DatedService ρ κ γ δ β) (call : ℕ → Call γ δ) :
    CommitLaw (protocol service call) (Good service) (PhaseOk service call) (Stands service)
      service.OneRecord (Respects service call) where
  good := oneRecord_of_good
  mono := PhaseOk.mono
  weaken := Stands.weaken
  quiet {s i l m} h hm hquiet := by
    have hi := h.phase i
    generalize hp : s.phase i = p at hi hm
    refine ⟨?_, respects_of_quiet hp hm hquiet⟩
    cases protocol_cases hi hm with
    | quiet hok => exact hok
    | _ => exact absurd rfl (hquiet _ _)
  commit h hm := by
    obtain ⟨hexact, hkept⟩ := commit_ok h hm
    refine ⟨hexact, fun hone => ?_⟩
    obtain ⟨hgood, hfree, hstands⟩ := hkept hone
    exact ⟨⟨hgood, .of_free hfree⟩, hstands⟩

/-- Records do not overlap in any state of a run exactly when each write meets the
condition. -/
theorem oneRecord_run_iff (service : DatedService ρ κ γ δ β) (call : ℕ → Call γ δ)
    {db : DatedDb ρ β} {ls : List (ℕ × Label)}
    (hdb : Good service db) (hrun : (machine service call).Run (.start db .called) ls s) :
    (∀ ks, ks <+: ls → ∀ s', (machine service call).Run (.start db .called) ks s' →
      service.OneRecord s'.db) ↔
      (machine service call).RunWith (Respects service call) (.start db .called) ls s := by
  have hstart : Inv service call (.start db .called) :=
    Shared.inv_start hdb fun _ _ => .of_free (p := .called) trivial
  exact (commitLaw service call).run_iff hstart hrun

end

end DatedRecords

end FashionErp.Hr
