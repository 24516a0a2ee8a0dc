/-
`master-data/services/categories.service.ts` and `accounting/services/accounts.service.ts`, as
services of rows with parents.

The two differ in the columns of their rows, in their texts, in that a parent category has to
be ACTIVE, and in that a category may be created without a code.
-/
import FashionErp.Hierarchy.HierarchyRace

namespace FashionErp

open Lib Hierarchy

/-! ## `CategoriesService` -/

namespace CategoriesService

abbrev CategoryStatus := ActiveStatus

structure Category where
  id : Uuid
  companyId : Uuid
  code : String
  name : String
  description : Option String := none
  parentId : Option Uuid := none
  status : CategoryStatus := .Active
  sortOrder : ℕ := 0
  deleted : Bool := false

instance : Keyed Category Uuid := ⟨Category.id⟩

structure CreateCategoryDto where
  code : Option String := none
  name : String
  description : Option String := none
  parentId : Option Uuid := none
  sortOrder : Option ℕ := none

/-- `undefined` is `none`; of a nullable field, `null` is `some none`. -/
structure UpdateCategoryDto where
  name : Option String := none
  description : Option (Option String) := none
  parentId : Option (Option Uuid) := none
  sortOrder : Option ℕ := none

/-- The row `create` inserts. -/
def newCategory (id companyId : Uuid) (code : String) (dto : CreateCategoryDto) : Category :=
  { id, companyId, code
    name := dto.name
    description := dto.description
    parentId := dto.parentId
    status := .Active
    sortOrder := dto.sortOrder.getD 0 }

/-- The entity `update` saves. -/
def applyUpdate (dto : UpdateCategoryDto) (category : Category) : Category :=
  { category with
    parentId := dto.parentId.getD category.parentId
    name := dto.name.getD category.name
    description := dto.description.getD category.description
    sortOrder := dto.sortOrder.getD category.sortOrder }

def mergeCategory (entity seen row : Category) : Category where
  id := row.id
  companyId := mergeCol entity.companyId seen.companyId row.companyId
  code := mergeCol entity.code seen.code row.code
  name := mergeCol entity.name seen.name row.name
  description := mergeCol entity.description seen.description row.description
  parentId := mergeCol entity.parentId seen.parentId row.parentId
  status := mergeCol entity.status seen.status row.status
  sortOrder := mergeCol entity.sortOrder seen.sortOrder row.sortOrder
  deleted := mergeCol entity.deleted seen.deleted row.deleted

def service : HierarchyService Category CreateCategoryDto UpdateCategoryDto where
  companyId := Category.companyId
  code := Category.code
  parentId := Category.parentId
  deleted := Category.deleted
  mayBeParent category := category.status = .Active
  notFoundText := "Category not found"
  ownParentText := "Category cannot be its own parent"
  invalidParentText := "parentId does not reference an active category in this company"
  circularText := "This parent assignment would create a circular category hierarchy"
  codeExistsText := "Category code already exists for this company"
  newParentId := CreateCategoryDto.parentId
  requestedCode dto := (dto.code.map trim).filter (· ≠ "")
  newRow := newCategory
  sentParentId := UpdateCategoryDto.parentId
  applyUpdate := applyUpdate
  merge := mergeCategory
  newRow_key _ _ _ _ := rfl
  newRow_companyId _ _ _ _ := rfl
  newRow_parentId _ _ _ _ := rfl
  newRow_deleted _ _ _ _ := rfl
  apply_key _ _ := rfl
  apply_companyId _ _ := rfl
  apply_parentId _ _ := rfl
  apply_deleted _ _ := rfl
  merge_key _ _ _ := rfl
  merge_companyId _ _ _ := rfl
  merge_parentId _ _ _ := rfl
  merge_deleted _ _ _ := rfl

end CategoriesService

/-! ## `AccountsService` -/

namespace AccountsService

structure ChartAccount extends Account where
  parentId : Option Uuid := none
  isSystemAccount : Bool := false

instance : Keyed ChartAccount Uuid := ⟨fun account => account.id⟩

structure CreateAccountDto where
  code : String
  name : String
  accountType : AccountType
  parentId : Option Uuid := none

structure UpdateAccountDto where
  name : Option String := none
  parentId : Option (Option Uuid) := none
  isActive : Option Bool := none

/-- The row `create` inserts. -/
def newAccount (id companyId : Uuid) (code : String) (dto : CreateAccountDto) : ChartAccount :=
  { id, companyId, code
    name := dto.name
    accountType := dto.accountType
    isActive := true
    parentId := dto.parentId
    isSystemAccount := false }

/-- The entity `update` saves. -/
def applyUpdate (dto : UpdateAccountDto) (account : ChartAccount) : ChartAccount :=
  { account with
    parentId := dto.parentId.getD account.parentId
    name := dto.name.getD account.name
    isActive := dto.isActive.getD account.isActive }

def mergeAccount (entity seen row : ChartAccount) : ChartAccount where
  id := row.id
  companyId := mergeCol entity.companyId seen.companyId row.companyId
  code := mergeCol entity.code seen.code row.code
  name := mergeCol entity.name seen.name row.name
  accountType := mergeCol entity.accountType seen.accountType row.accountType
  isActive := mergeCol entity.isActive seen.isActive row.isActive
  deleted := mergeCol entity.deleted seen.deleted row.deleted
  parentId := mergeCol entity.parentId seen.parentId row.parentId
  isSystemAccount := mergeCol entity.isSystemAccount seen.isSystemAccount row.isSystemAccount

def service : HierarchyService ChartAccount CreateAccountDto UpdateAccountDto where
  companyId account := account.companyId
  code account := account.code
  parentId := ChartAccount.parentId
  deleted account := account.deleted
  mayBeParent _ := true
  notFoundText := "Account not found"
  ownParentText := "Account cannot be its own parent"
  invalidParentText := "parentId does not reference an account in this company"
  circularText := "This parent assignment would create a circular account hierarchy"
  codeExistsText := "Account code already exists for this company"
  newParentId := CreateAccountDto.parentId
  requestedCode dto := some dto.code
  newRow := newAccount
  sentParentId := UpdateAccountDto.parentId
  applyUpdate := applyUpdate
  merge := mergeAccount
  newRow_key _ _ _ _ := rfl
  newRow_companyId _ _ _ _ := rfl
  newRow_parentId _ _ _ _ := rfl
  newRow_deleted _ _ _ _ := rfl
  apply_key _ _ := rfl
  apply_companyId _ _ := rfl
  apply_parentId _ _ := rfl
  apply_deleted _ _ := rfl
  merge_key _ _ _ := rfl
  merge_companyId _ _ _ := rfl
  merge_parentId _ _ _ := rfl
  merge_deleted _ _ _ := rfl

end AccountsService

namespace Hierarchies

/-- In every state of the run, following `parentId` from any row ends at a root. -/
def StaysForest {ρ γ δ : Type} [Keyed ρ Uuid] (service : HierarchyService ρ γ δ)
    (call : ℕ → Call γ δ) (db : HierarchyDb ρ) (ls : List (ℕ × Label)) : Prop :=
  ∀ ks, ks <+: ls → ∀ s', (machine service call).Run (.start db .called) ks s' →
    ∀ id, Rooted (service.parentOf s'.db) id

/-- Categories and accounts stay acyclic in a run of any creations and updates exactly when
for each save that leaves a parent the check of the ancestors, made once more as the save is
written, passes. -/
theorem stays_forest_iff (ls : List (ℕ × Label)) :
    (∀ call db s, Good CategoriesService.service db →
      (machine CategoriesService.service call).Run (.start db .called) ls s →
        (StaysForest CategoriesService.service call db ls ↔
          (machine CategoriesService.service call).RunWith (Respects CategoriesService.service)
            (.start db .called) ls s)) ∧
    (∀ call db s, Good AccountsService.service db →
      (machine AccountsService.service call).Run (.start db .called) ls s →
        (StaysForest AccountsService.service call db ls ↔
          (machine AccountsService.service call).RunWith (Respects AccountsService.service)
            (.start db .called) ls s)) := by
  constructor
  · intro call db s hdb hrun
    exact rooted_run_iff CategoriesService.service call hdb hrun
  · intro call db s hdb hrun
    exact rooted_run_iff AccountsService.service call hdb hrun

/-! Two categories, each made the parent of the other. -/

namespace Demo

open CategoriesService

def db : HierarchyDb Category :=
  { rows := .ofRows
      [{ id := 1, companyId := 10, code := "CAT-SHIRTS", name := "Shirts" },
       { id := 2, companyId := 10, code := "CAT-LINEN", name := "Linen" }]
    nextId := 3 }

def calls : ℕ → Call CreateCategoryDto UpdateCategoryDto
  | 0 => .update 1 10 { parentId := some (some 2) }
  | _ => .update 2 10 { parentId := some (some 1) }

def checks (i : ℕ) : List (ℕ × Label) := [(i, .read), (i, .check), (i, .count), (i, .walk)]

def save (i : ℕ) : List (ℕ × Label) :=
  [(i, .save .reread), (i, .save .update), (i, .save .commit)]

def inTurn : List (ℕ × Label) := checks 0 ++ save 0 ++ checks 1 ++ [(1, .walk)]

def atOnce : List (ℕ × Label) := checks 0 ++ checks 1 ++ save 0 ++ save 1

def parents (s : Shared (HierarchyDb Category) Uuid (Phase Category)) : List (Option Uuid) :=
  [service.parentOf s.db 1, service.parentOf s.db 2]

theorem good_db : Good service db where
  rooted id := by
    have hnone : service.parentOf db id = none := by
      by_cases h₁ : id = 1
      · subst h₁
        rfl
      · by_cases h₂ : id = 2
        · subst h₂
          rfl
        · have hfind : db.rows.find? id = none := by
            refine Table.find?_eq_none.2 fun r hr hkey => ?_
            have hrows : ∀ r ∈ db.rows.rows, r.id = 1 ∨ r.id = 2 := by decide
            rcases hrows r hr with h | h
            · exact h₁ (hkey.symm.trans h)
            · exact h₂ (hkey.symm.trans h)
          rw [HierarchyService.parentOf, HierarchyService.findOne, hfind]
          rfl
    exact ⟨id, .refl, hnone⟩
  parents := by
    intro r hr parentId h
    have hnone : ∀ r ∈ db.rows.rows, r.parentId = none := by decide
    cases (hnone r hr).symm.trans h
  fresh := by decide

end Demo

open Demo CategoriesService in
/-- One after the other: the second update is refused. -/
theorem stays_forest_iff_in_turn :
    ∃ s, parents s = [some 2, none] ∧ StaysForest service calls db inTurn := by
  obtain ⟨s, hrun, hs⟩ := Machine.exists_runWith (machine service calls) (Respects service)
    (.start db .called) inTurn (fun s => parents s = [some 2, none]) (by decide +kernel)
  exact ⟨s, of_decide_eq_true hs,
    ((stays_forest_iff inTurn).1 calls db s good_db hrun.run).2 hrun⟩

open Demo CategoriesService in
theorem parents_of_each_other :
    ∃ s, (machine service calls).Run (.start db .called) atOnce s ∧ parents s = [some 2, some 1] ∧
      ¬ StaysForest service calls db atOnce := by
  obtain ⟨s, hrun, hs⟩ := Machine.exists_runWith (machine service calls) (fun _ _ => True)
    (.start db .called) atOnce (fun s => parents s = [some 2, some 1]) (by decide +kernel)
  have hparents := of_decide_eq_true hs
  refine ⟨s, hrun, hparents, fun hforest => ?_⟩
  have h₁ : service.parentOf s.db 1 = some 2 := (List.cons.inj hparents).1
  have h₂ : service.parentOf s.db 2 = some 1 := (List.cons.inj (List.cons.inj hparents).2).1
  exact not_rooted_of_cycle h₁ (.single h₂) (hforest atOnce (List.prefix_refl _) s hrun 1)

end Hierarchies

end FashionErp
