/-
Addresses created, updated and removed beside each other.

Each statement of a request is a step of its own: the read, the check of the party, the bulk
update that un-sets the primary address, the read of `save` and its write.
-/
import FashionErp.CustomerSupplier.Addresses
import FashionErp.Lib.CommitLaw

namespace FashionErp.PrimaryRace

open Lib Lib.Tx AddressesService

inductive Call
  | create (ownerId companyId : Uuid) (dto : CreateAddressDto)
  | update (id companyId : Uuid) (dto : UpdateAddressDto)
  | remove (id companyId : Uuid)
  | elsewhere (write : Db → Db)

/-- Where a request stands; `unset` are the primary addresses it has un-set. -/
inductive Phase
  | called
  | found (address : Address)
  /-- `create` may go on. -/
  | owned
  | loaded (address : Address)
  /-- `create` is at its `save`. -/
  | cleared (unset : List Uuid)
  | changed (unset : List Uuid) (entity : Address)
  /-- The `save` of `update` has read the row again. -/
  | saving (unset : List Uuid) (entity seen : Address)
  | returned
  /-- An error is answered; without one the database refuses the row or is lost. -/
  | failed (error : Option Failure) (unset : List Uuid)
  deriving DecidableEq

def Phase.unset : Phase → List Uuid
  | cleared unset | changed unset _ | saving unset _ _ | failed _ unset => unset
  | _ => []

inductive Label
  | read
  | check
  | unset
  /-- `save` of a new entity, under an id that no row has. -/
  | insert (id : Uuid)
  | reread
  | write
  | softRemove
  | lose
  deriving DecidableEq

section

variable (kind : PartyKind)

/-- The moves of `create`. -/
def createMove (ownerId companyId : Uuid) (dto : CreateAddressDto) :
    Label → Phase → AddressDb → Option (Move AddressDb Unit Phase)
  | .check, .called, db =>
    match value (assertOwned kind ownerId companyId) db.base with
    | .ok _ => some (.goto .owned)
    | .error error => some (.leave (.failed error []))
  | .unset, .owned, db =>
    if dto.isPrimary = some true then
      some (.commit (unsetPrimary ownerId db) (.cleared (primaryIds ownerId db)))
    else
      some (.goto (.cleared []))
  | .insert id, .cleared _, db =>
    if (db.addresses.find? id).isNone then
      some (.commit { db with addresses := db.addresses.save (newAddress id ownerId dto) } .returned)
    else
      none
  | .lose, .owned, _ => some (.leave (.failed none []))
  | .lose, .cleared unset, _ => some (.leave (.failed none unset))
  | _, _, _ => none

/-- `findByIdInCompany`. -/
def findMove (id companyId : Uuid) :
    Label → Phase → AddressDb → Option (Move AddressDb Unit Phase)
  | .read, .called, db =>
    match findOne id db with
    | some address => some (.goto (.found address))
    | none => some (.leave (.failed (addressNotFound kind) []))
  | .check, .found address, db =>
    match value (assertOwned kind address.ownerId companyId) db.base with
    | .ok _ => some (.goto (.loaded address))
    | .error error => some (.leave (.failed error []))
  | .lose, .found _, _ => some (.leave (.failed none []))
  | .lose, .loaded _, _ => some (.leave (.failed none []))
  | _, _, _ => none

/-- The moves of `update`; the database refuses `NULL` where the column takes none. -/
def updateMove (id companyId : Uuid) (dto : UpdateAddressDto) :
    Label → Phase → AddressDb → Option (Move AddressDb Unit Phase)
  | .unset, .loaded address, db =>
    if dto.isPrimary = some (some true) ∧ address.isPrimary ≠ some true then
      some (.commit (unsetPrimary address.ownerId db)
        (.changed (primaryIds address.ownerId db) (applyUpdate dto address)))
    else
      some (.goto (.changed [] (applyUpdate dto address)))
  | .reread, .changed unset entity, db =>
    (db.addresses.find? entity.id).map fun seen => .goto (.saving unset entity seen)
  | .write, .saving unset entity seen, db =>
    (db.addresses.find? entity.id).map fun row =>
      if (mergeAddress entity seen row).NotNull then
        .commit { db with addresses := db.addresses.save (mergeAddress entity seen row) } .returned
      else
        .leave (.failed none unset)
  | .lose, .changed unset _, _ => some (.leave (.failed none unset))
  | .lose, .saving unset _ _, _ => some (.leave (.failed none unset))
  | l, p, db => findMove kind id companyId l p db

/-- The moves of `remove`: `softRemove` writes `deletedAt` and nothing else. -/
def removeMove (id companyId : Uuid) :
    Label → Phase → AddressDb → Option (Move AddressDb Unit Phase)
  | .softRemove, .loaded address, db =>
    (db.addresses.find? address.id).map fun row =>
      .commit { db with addresses := db.addresses.save { row with deleted := true } } .returned
  | l, p, db => findMove kind id companyId l p db

def protocol (call : ℕ → Call) : Protocol AddressDb Unit Phase Label := fun i l p db =>
  match call i with
  | .create ownerId companyId dto => createMove kind ownerId companyId dto l p db
  | .update id companyId dto => updateMove kind id companyId dto l p db
  | .remove id companyId => removeMove kind id companyId l p db
  | .elsewhere write =>
    match l, p with
    | .write, .called => some (.commit { db with base := write db.base } .returned)
    | _, _ => none

def machine (call : ℕ → Call) : Machine (Shared AddressDb Unit Phase) (ℕ × Label) :=
  concurrent (protocol kind call)

end

/-! ## The claim and the condition -/

def Phase.KeepsPrimary : Phase → Prop
  | failed _ unset => unset = []
  | _ => True

def NoOtherPrimary (db : AddressDb) (a : Address) : Prop :=
  ∀ o ∈ db.addresses.rows, o.id ≠ a.id → o.ownerId = a.ownerId → ¬ o.IsPrimary

instance (db : AddressDb) (a : Address) : Decidable (NoOtherPrimary db a) :=
  inferInstanceAs (Decidable (∀ o ∈ _, _ → _ → ¬ _))

/-- The condition on a step. An address that is written live and primary is the only one,
and a request that has un-set a primary address does not fail. -/
def Switches (call : ℕ → Call) (s : Shared AddressDb Unit Phase) : ℕ × Label → Prop
  | (i, .insert id) =>
    match call i with
    | .create ownerId _ dto =>
      dto.isPrimary = some true → NoOtherPrimary s.db (newAddress id ownerId dto)
    | _ => True
  | (i, .write) =>
    match s.phase i with
    | .saving unset entity seen =>
      ∀ row ∈ s.db.addresses.find? entity.id,
        ((mergeAddress entity seen row).NotNull → (mergeAddress entity seen row).IsPrimary →
          NoOtherPrimary s.db row) ∧
        (¬ (mergeAddress entity seen row).NotNull → unset = [])
    | _ => True
  | (i, .lose) => (s.phase i).unset = []
  | _ => True

instance (call : ℕ → Call) (s : Shared AddressDb Unit Phase) (l : ℕ × Label) :
    Decidable (Switches call s l) := by
  unfold Switches
  split
  · split <;> infer_instance
  · split <;> infer_instance
  · infer_instance
  · infer_instance

section

variable {kind : PartyKind} {call : ℕ → Call} {s : Shared AddressDb Unit Phase} {i : ℕ} {l : Label}
  {m : Move AddressDb Unit Phase}

abbrev Kept (m : Move AddressDb Unit Phase) : Prop := m.Leaves SinglePrimary Phase.KeepsPrimary

variable {companyId : Uuid}

theorem createMove_kept {ownerId : Uuid} {dto : CreateAddressDto}
    (hdb : SinglePrimary s.db) (hcall : call i = .create ownerId companyId dto)
    (hm : createMove kind ownerId companyId dto l (s.phase i) s.db = some m) :
    Kept m ↔ Switches call s (i, l) := by
  generalize hp : s.phase i = p at hm
  unfold createMove at hm
  split at hm
  case h_1 =>
    split at hm
    · cases hm
      exact Iff.rfl
    · cases hm
      exact iff_of_true rfl trivial
  case h_2 =>
    split at hm
    · cases hm
      exact iff_of_true ⟨hdb.unset ownerId, trivial⟩ trivial
    · cases hm
      exact Iff.rfl
  case h_3 id unset =>
    obtain ⟨-, hm⟩ := Option.ite_none_right_eq_some.1 hm
    cases hm
    have hsave := singlePrimary_save_iff (a := newAddress id ownerId dto) hdb
    have hprimary : (newAddress id ownerId dto).IsPrimary ↔ dto.isPrimary = some true := by
      unfold Address.IsPrimary newAddress
      cases dto.isPrimary <;> simp
    rw [hprimary] at hsave
    simp only [Switches, hcall]
    exact (and_iff_left trivial).trans hsave
  case h_6 => cases hm
  all_goals
    cases hm
    show _ ↔ (s.phase i).unset = []
    rw [hp]
    exact Iff.rfl

theorem findMove_kept {id : Uuid} (hm : findMove kind id companyId l (s.phase i) s.db = some m) :
    Kept m ↔ Switches call s (i, l) := by
  generalize hp : s.phase i = p at hm
  unfold findMove at hm
  split at hm
  case h_1 =>
    split at hm
    · cases hm
      exact Iff.rfl
    · cases hm
      exact iff_of_true rfl trivial
  case h_2 =>
    split at hm
    · cases hm
      exact Iff.rfl
    · cases hm
      exact iff_of_true rfl trivial
  case h_5 => cases hm
  all_goals
    cases hm
    show _ ↔ (s.phase i).unset = []
    rw [hp]
    exact Iff.rfl

theorem updateMove_kept {id : Uuid} {dto : UpdateAddressDto} (hdb : SinglePrimary s.db)
    (hm : updateMove kind id companyId dto l (s.phase i) s.db = some m) :
    Kept m ↔ Switches call s (i, l) := by
  generalize hp : s.phase i = p at hm
  unfold updateMove at hm
  split at hm
  case h_1 =>
    split at hm
    · cases hm
      exact iff_of_true ⟨hdb.unset _, trivial⟩ trivial
    · cases hm
      exact Iff.rfl
  case h_2 =>
    obtain ⟨seen, -, rfl⟩ := Option.map_eq_some_iff.1 hm
    exact Iff.rfl
  case h_3 unset entity seen =>
    obtain ⟨row, hrow, rfl⟩ := Option.map_eq_some_iff.1 hm
    simp only [Switches, hp, hrow, Option.mem_def, Option.some.injEq, forall_eq']
    by_cases hnull : (mergeAddress entity seen row).NotNull
    · rw [if_pos hnull]
      have hsave := singlePrimary_save_iff (a := mergeAddress entity seen row) hdb
      refine ((and_iff_left trivial).trans hsave).trans ⟨fun h => ⟨fun _ => h, ?_⟩, fun h => h.1 hnull⟩
      exact fun hnot => absurd hnull hnot
    · rw [if_neg hnull]
      exact ⟨fun h => ⟨fun hnotNull => absurd hnotNull hnull, fun _ => h⟩, fun h => h.2 hnull⟩
  case h_6 => exact findMove_kept (hp.symm ▸ hm)
  all_goals
    cases hm
    show _ ↔ (s.phase i).unset = []
    rw [hp]
    exact Iff.rfl

theorem removeMove_kept {id : Uuid} (hdb : SinglePrimary s.db)
    (hm : removeMove kind id companyId l (s.phase i) s.db = some m) :
    Kept m ↔ Switches call s (i, l) := by
  generalize hp : s.phase i = p at hm
  unfold removeMove at hm
  split at hm
  case h_1 address =>
    obtain ⟨row, hrow, rfl⟩ := Option.map_eq_some_iff.1 hm
    refine iff_of_true ⟨(singlePrimary_save_iff hdb).2 fun hprimary => ?_, trivial⟩ trivial
    cases hprimary.2
  case h_2 => exact findMove_kept (hp.symm ▸ hm)

theorem move_kept (hdb : SinglePrimary s.db)
    (hm : protocol kind call i l (s.phase i) s.db = some m) :
    Kept m ↔ Switches call s (i, l) := by
  unfold protocol at hm
  split at hm
  case h_1 hcall => exact createMove_kept hdb hcall hm
  case h_2 => exact updateMove_kept hdb hm
  case h_3 => exact removeMove_kept hdb hm
  case h_4 =>
    generalize hp : s.phase i = p at hm
    split at hm
    · cases hm
      refine iff_of_true ⟨hdb, trivial⟩ ?_
      simp only [Switches, hp]
    · cases hm

end

namespace PrimaryDemo

def party : Customer :=
  { id := 30, companyId := 10, customerCode := "C-30", receivableAccountId := none,
    status := .Active }

def home : Address :=
  newAddress 1 30 { addressLine1 := "12 Inya Road", isPrimary := some true }

def office : Address := newAddress 2 30 { addressLine1 := "7 Merchant Street" }

def db : AddressDb where
  base := { master := { customers := .ofRows [party] } }
  addresses := .ofRows [home, office]

/-- Request `0` makes the office primary and sends `null` for its first line, the others add a
primary address. -/
def calls (i : ℕ) : Call :=
  if i = 0 then .update 2 10 { addressLine1 := some none, isPrimary := some (some true) }
  else .create 30 10 { addressLine1 := "3 Bogyoke Lane", isPrimary := some true }

def primaries (s : Shared AddressDb Unit Phase) : List Uuid := primaryIds 30 s.db

theorem single : SinglePrimary db := by
  have hone : ∀ r ∈ db.addresses.rows, r.IsPrimary → r.id = 1 := by decide
  rintro r hr r' hr' hne o ⟨⟨hprimary, -⟩, hprimary', -⟩
  exact hne ((hone r hr hprimary).trans (hone r' hr' hprimary').symm)

theorem not_single_of_primaries {s : Shared AddressDb Unit Phase} (h : primaries s = [3, 4]) :
    ¬ SinglePrimary s.db := by
  intro hsingle
  have hlength : (primaries s).length ≤ 1 := by
    unfold primaries primaryIds
    rw [List.length_map, ← List.countP_eq_length_filter]
    simpa only [and_comm] using hsingle.countP_le_one 30
  rw [h] at hlength
  exact absurd hlength (by decide)

end PrimaryDemo

end FashionErp.PrimaryRace
