/-
Rows with a `parentId`: what `CategoriesService` and `AccountsService` do alike.

A service says what its rows and requests hold, and its texts.
-/
import FashionErp.Core.MasterData
import FashionErp.Lib.Column
import FashionErp.Lib.Forest
import FashionErp.Lib.SaveEntity

namespace FashionErp.Hierarchy

open Lib Lib.Tx

/-- A service of rows with parents: `ρ` are its rows, `γ` and `δ` what `create` and `update`
are sent. The laws say that the rows a request makes have the columns they should. -/
structure HierarchyService (ρ γ δ : Type) [Keyed ρ Uuid] where
  companyId : ρ → Uuid
  code : ρ → String
  parentId : ρ → Option Uuid
  deleted : ρ → Bool
  mayBeParent : ρ → Bool
  notFoundText : String
  ownParentText : String
  invalidParentText : String
  circularText : String
  codeExistsText : String
  newParentId : γ → Option Uuid
  requestedCode : γ → Option String
  newRow : Uuid → Uuid → String → γ → ρ
  sentParentId : δ → Option (Option Uuid)
  applyUpdate : δ → ρ → ρ
  /-- The columns in which an entity differs from what `save` has read, over a row. -/
  merge : ρ → ρ → ρ → ρ
  newRow_key : ∀ id company code dto, key (newRow id company code dto) = id
  newRow_companyId : ∀ id company code dto, companyId (newRow id company code dto) = company
  newRow_parentId : ∀ id company code dto, parentId (newRow id company code dto) = newParentId dto
  newRow_deleted : ∀ id company code dto, deleted (newRow id company code dto) = false
  apply_key : ∀ dto row, key (applyUpdate dto row) = key row
  apply_companyId : ∀ dto row, companyId (applyUpdate dto row) = companyId row
  apply_parentId : ∀ dto row,
    parentId (applyUpdate dto row) = (sentParentId dto).getD (parentId row)
  apply_deleted : ∀ dto row, deleted (applyUpdate dto row) = deleted row
  merge_key : ∀ entity seen row, key (merge entity seen row) = key row
  merge_companyId : ∀ entity seen row,
    companyId (merge entity seen row) = mergeCol (companyId entity) (companyId seen) (companyId row)
  merge_parentId : ∀ entity seen row,
    parentId (merge entity seen row) = mergeCol (parentId entity) (parentId seen) (parentId row)
  merge_deleted : ∀ entity seen row,
    deleted (merge entity seen row) = mergeCol (deleted entity) (deleted seen) (deleted row)

structure HierarchyDb (ρ : Type) [Keyed ρ Uuid] where
  base : Db := {}
  rows : Table ρ := .empty
  nextId : Uuid := 0

variable {ρ γ δ : Type} [Keyed ρ Uuid]

namespace HierarchyService

variable (service : HierarchyService ρ γ δ)

def findOne (id : Uuid) (db : HierarchyDb ρ) : Option ρ :=
  (db.rows.find? id).filter fun row => service.deleted row = false

/-- The parent `findOne` shows. -/
def parentOf (db : HierarchyDb ρ) (id : Uuid) : Option Uuid :=
  (service.findOne id db).bind service.parentId

def ofCompany (companyId : Uuid) (db : HierarchyDb ρ) : List ρ :=
  db.rows.rows.filter fun row => service.companyId row = companyId ∧ service.deleted row = false

def findByIdInCompany (id companyId : Uuid) (db : HierarchyDb ρ) : Except Failure ρ :=
  orRefuse ((service.findOne id db).filter fun row => service.companyId row = companyId)
    (appException .NotFound service.notFoundText)

def assertValidParent (parentId companyId : Uuid) (db : HierarchyDb ρ) : Except Failure Unit := do
  let _parent ← orRefuse
    ((service.findOne parentId db).filter fun row =>
      service.companyId row = companyId ∧ service.mayBeParent row = true)
    (appException .ValidationError service.invalidParentText)

def circular : Failure := appException .ValidationError service.circularText

/-- The first checks of `create`: the company and the parent. -/
def assertNew (companyId : Uuid) (dto : γ) (db : HierarchyDb ρ) : Except Failure Unit := do
  let company ← value (CompaniesService.findActiveByIdOrNull companyId) db.base
  refuseIf (company = none)
    (appException .ValidationError "companyId does not reference an active company")
  match service.newParentId dto with
  | none => pure ()
  | some parentId => service.assertValidParent parentId companyId db

def CodeExists (companyId : Uuid) (code : String) (db : HierarchyDb ρ) : Prop :=
  ∃ row ∈ service.ofCompany companyId db, service.code row = code

instance (companyId : Uuid) (code : String) (db : HierarchyDb ρ) :
    Decidable (service.CodeExists companyId code db) :=
  inferInstanceAs (Decidable (∃ row ∈ _, _))

/-- The `INSERT` of `create`, with the unique index on company and code. -/
def insertRow (companyId : Uuid) (code : String) (dto : γ) (db : HierarchyDb ρ) :
    Except Failure (HierarchyDb ρ) := do
  refuseIf (∃ row ∈ db.rows.rows, service.companyId row = companyId ∧ service.code row = code)
    (.duplicateEntry "companyId_code")
  return { db with
    rows := db.rows.save (service.newRow db.nextId companyId code dto)
    nextId := db.nextId + 1 }

/-- The row `update` is about; its own id is no parent for it. -/
def loadUpdate (id companyId : Uuid) (dto : δ) (db : HierarchyDb ρ) : Except Failure ρ := do
  let row ← service.findByIdInCompany id companyId db
  refuseIf (service.sentParentId dto = some (some id))
    (appException .ValidationError service.ownParentText)
  return row

def access (id : Uuid) : RowAccess (HierarchyDb ρ) ρ where
  find db := db.rows.find? id
  put row db := { db with rows := db.rows.save row }
  merge := service.merge

end HierarchyService

/-! ## Requests beside each other -/

inductive Call (γ δ : Type)
  | create (companyId : Uuid) (dto : γ)
  | update (id companyId : Uuid) (dto : δ)

inductive Phase (ρ : Type)
  | called
  /-- `create` has checked the parent. -/
  | coding
  | inserting (code : String)
  | loaded (row : ρ) (parentId : Uuid)
  /-- `update` is at the count of `assertNoCycle`. -/
  | valid (row : ρ) (parentId : Uuid)
  | walking (row : ρ) (parentId currentId : Uuid) (budget : ℕ)
  | saving (p : SavePhase ρ)
  | returned
  | rejected (error : Failure)
  /-- The connection is lost. -/
  | aborted

/-- A step; `code` says which code a `create` that was sent none has made up. -/
inductive Label
  | read
  | code (candidate : String)
  | check
  | count
  | walk
  | commit
  | save (l : SaveLabel)
  | abort

section

variable (service : HierarchyService ρ γ δ)

/-- The moves of `create`. -/
def createMove (companyId : Uuid) (dto : γ) :
    Label → Phase ρ → HierarchyDb ρ → Option (Move (HierarchyDb ρ) Uuid (Phase ρ))
  | .read, .called, db =>
    match service.assertNew companyId dto db with
    | .ok _ => some (.goto .coding)
    | .error error => some (.leave (.rejected error))
  | .code candidate, .coding, db =>
    match service.requestedCode dto with
    | some code =>
      if service.CodeExists companyId code db then
        some (.leave (.rejected (appException .Conflict service.codeExistsText)))
      else some (.goto (.inserting code))
    | none =>
      -- The loop tries codes until there is no row of one.
      if service.CodeExists companyId candidate db then none
      else some (.goto (.inserting candidate))
  | .commit, .inserting code, db =>
    match service.insertRow companyId code dto db with
    | .ok db' => some (.commit db' .returned)
    | .error error => some (.leave (.rejected error))
  | .abort, .coding, _ => some (.leave .aborted)
  | .abort, .inserting _, _ => some (.leave .aborted)
  | _, _, _ => none

/-- The moves of `update`. -/
def updateMove (id companyId : Uuid) (dto : δ) :
    Label → Phase ρ → HierarchyDb ρ → Option (Move (HierarchyDb ρ) Uuid (Phase ρ))
  | .read, .called, db =>
    match service.loadUpdate id companyId dto db with
    | .ok row =>
      match service.sentParentId dto with
      | some (some parentId) => some (.goto (.loaded row parentId))
      | _ => some (.goto (.saving (.changed (service.applyUpdate dto row))))
    | .error error => some (.leave (.rejected error))
  | .check, .loaded row parentId, db =>
    match service.assertValidParent parentId companyId db with
    | .ok _ => some (.goto (.valid row parentId))
    | .error error => some (.leave (.rejected error))
  | .count, .valid row parentId, db =>
    some (.goto (.walking row parentId parentId (service.ofCompany companyId db).length))
  | .walk, .walking row parentId currentId budget, db =>
    match budget with
    | 0 => some (.leave (.rejected service.circular))
    | budget + 1 =>
      if currentId = id then some (.leave (.rejected service.circular))
      else
        match service.parentOf db currentId with
        | none => some (.goto (.saving (.changed (service.applyUpdate dto row))))
        | some next => some (.goto (.walking row parentId next budget))
  | .save l, .saving p, db => (service.access id).saveMove id .saving .returned l p db
  | .abort, .loaded _ _, _ => some (.leave .aborted)
  | .abort, .valid _ _, _ => some (.leave .aborted)
  | .abort, .walking _ _ _ _, _ => some (.leave .aborted)
  | .abort, .saving _, _ => some (.leave .aborted)
  | _, _, _ => none

def protocol (call : ℕ → Call γ δ) : Protocol (HierarchyDb ρ) Uuid (Phase ρ) Label :=
  fun i l p db =>
    match call i with
    | .create companyId dto => createMove service companyId dto l p db
    | .update id companyId dto => updateMove service id companyId dto l p db

def machine (call : ℕ → Call γ δ) : Machine (Shared (HierarchyDb ρ) Uuid (Phase ρ)) (ℕ × Label) :=
  concurrent (protocol service call)

/-! ## The condition and the invariant -/

def assertNoCycle (id parentId companyId : Uuid) (db : HierarchyDb ρ) : Bool :=
  walk (service.parentOf db) id (service.ofCompany companyId db).length parentId

/-- The condition on a save: the parent it leaves, if there is one, passes `assertNoCycle`. -/
def Respects (s : Shared (HierarchyDb ρ) Uuid (Phase ρ)) : ℕ × Label → Prop
  | (i, .save .commit) =>
    match s.phase i with
    | .saving (.updated entity seen _) =>
      ∀ current ∈ s.db.rows.find? (key entity),
        ∀ parentId ∈ service.parentId (service.merge entity seen current),
          assertNoCycle service (key entity) parentId (service.companyId current) s.db = true
    | _ => True
  | _ => True

instance (s : Shared (HierarchyDb ρ) Uuid (Phase ρ)) (l : ℕ × Label) :
    Decidable (Respects service s l) := by
  unfold Respects
  split
  · split <;> infer_instance
  · infer_instance

def InCompany (companyId : Uuid) (db : HierarchyDb ρ) (id : Uuid) : Prop :=
  ∃ row, db.rows.find? id = some row ∧ service.companyId row = companyId

/-- What holds of the rows: they are a forest, whose trees are each of one company, and ids
are drawn from `nextId`. -/
structure Good (db : HierarchyDb ρ) : Prop where
  rooted : ∀ id, Rooted (service.parentOf db) id
  parents : ∀ row ∈ db.rows.rows, ∀ parentId ∈ service.parentId row,
    InCompany service (service.companyId row) db parentId
  fresh : ∀ row ∈ db.rows.rows, key row < db.nextId

structure Same (r r' : ρ) : Prop where
  key : key r' = key r
  companyId : service.companyId r' = service.companyId r
  deleted : service.deleted r' = service.deleted r

def Loaded (id : Uuid) (db : HierarchyDb ρ) (row : ρ) : Prop :=
  (∃ current, db.rows.find? id = some current ∧ Same service row current) ∧
    service.deleted row = false ∧
      ∀ parentId ∈ service.parentId row, InCompany service (service.companyId row) db parentId

def PhaseOk (call : ℕ → Call γ δ) (held : Uuid → Prop) (db : HierarchyDb ρ) (i : ℕ)
    (p : Phase ρ) : Prop :=
  match call i, p with
  | .create companyId dto, .coding | .create companyId dto, .inserting _ =>
    ∀ parentId ∈ service.newParentId dto, InCompany service companyId db parentId
  | .update id companyId dto, .loaded row parentId =>
    Loaded service id db row ∧ service.companyId row = companyId ∧
      service.sentParentId dto = some (some parentId)
  | .update id _ dto, .valid row parentId | .update id _ dto, .walking row parentId _ _ =>
    Loaded service id db row ∧ service.sentParentId dto = some (some parentId) ∧
      InCompany service (service.companyId row) db parentId
  | .update id _ dto, .saving p =>
    SaveOk (service.access id) id (Same service) (service.applyUpdate dto) held db p ∧
      service.deleted p.entity = false ∧
        ∀ parentId ∈ service.parentId p.entity,
          InCompany service (service.companyId p.entity) db parentId
  | _, _ => True

end

end FashionErp.Hierarchy
