/-
`assertNoCycle` as the loop it is, over parents that may have been corrupted.

The bound on the steps is the number of the company's rows.
-/
import FashionErp.Hierarchy.Hierarchies

namespace FashionErp.Hierarchy

open Lib

variable {ρ γ δ : Type} [Keyed ρ Uuid]

/-- The `while` of `assertNoCycle` at `currentId` after `steps`; `none` is fuel that did not do. -/
def ancestorLoop (service : HierarchyService ρ γ δ) (db : HierarchyDb ρ) (id : Uuid) (maxDepth : ℕ) :
    ℕ → Option Uuid → ℕ → Option (Except Failure Unit)
  | 0, _, _ => none
  | _ + 1, none, _ => some (.ok ())
  | fuel + 1, some currentId, steps =>
    if currentId = id then some (.error service.circular)
    else if steps + 1 > maxDepth then some (.error service.circular)
    else ancestorLoop service db id maxDepth fuel (service.parentOf db currentId) (steps + 1)

def checkAncestors (service : HierarchyService ρ γ δ) (db : HierarchyDb ρ)
    (id newParentId companyId : Uuid) (fuel : ℕ) : Option (Except Failure Unit) :=
  ancestorLoop service db id (service.ofCompany companyId db).length fuel (some newParentId) 0

def Acyclic (service : HierarchyService ρ γ δ) (companyId : Uuid) (db : HierarchyDb ρ)
    (parent : Uuid → Option Uuid) : Prop :=
  ∀ x, InCompany service companyId db x → ¬ OnCycle parent x

/-- The walk ends, and is exact: on a company without cycles it refuses the parents that would
make one, and what it lets through on any relation has been followed to a root. -/
structure ExactCheck (service : HierarchyService ρ γ δ) (db : HierarchyDb ρ)
    (id newParentId companyId : Uuid) : Prop where
  ends : ∀ fuel, (service.ofCompany companyId db).length < fuel →
    checkAncestors service db id newParentId companyId fuel = some (.ok ()) ∨
      checkAncestors service db id newParentId companyId fuel = some (.error service.circular)
  exact : ∀ row ∈ service.findOne id db, service.companyId row = companyId →
    OfCompany service companyId db → InCompany service companyId db newParentId →
      Acyclic service companyId db (service.parentOf db) →
        ∀ fuel, (service.ofCompany companyId db).length < fuel →
          (checkAncestors service db id newParentId companyId fuel = some (.error service.circular) ↔
            ¬ Acyclic service companyId db
              (Function.update (service.parentOf db) id (some newParentId)))
  sound : ∀ fuel, checkAncestors service db id newParentId companyId fuel = some (.ok ()) →
    Rooted (service.parentOf db) newParentId ∧ ¬ Climbs (service.parentOf db) newParentId id

variable {service : HierarchyService ρ γ δ} {db : HierarchyDb ρ} {id newParentId companyId : Uuid}

/-- The loop is the walk, from any row, as long as there is fuel for what the bound leaves. -/
theorem ancestorLoop_eq {maxDepth budget fuel steps : ℕ} {x : Uuid}
    (hsteps : steps + budget = maxDepth) (hfuel : budget < fuel) :
    ancestorLoop service db id maxDepth fuel (some x) steps =
      some (if walk (service.parentOf db) id budget x = true then .ok ()
        else .error service.circular) := by
  induction budget generalizing fuel steps x with
  | zero =>
    obtain ⟨fuel, rfl⟩ := Nat.exists_eq_succ_of_ne_zero (Nat.ne_zero_of_lt hfuel)
    unfold ancestorLoop walk
    rw [if_neg Bool.false_ne_true]
    split
    · rfl
    · rw [if_pos (by omega)]
  | succ budget ih =>
    obtain ⟨fuel, rfl⟩ := Nat.exists_eq_succ_of_ne_zero (Nat.ne_zero_of_lt hfuel)
    unfold ancestorLoop walk
    by_cases hx : x = id
    · rw [if_pos hx, if_pos hx, if_neg Bool.false_ne_true]
    · rw [if_neg hx, if_neg hx, if_neg (by omega)]
      cases hparent : service.parentOf db x with
      | none =>
        obtain ⟨fuel, rfl⟩ := Nat.exists_eq_succ_of_ne_zero (n := fuel) (by omega)
        rfl
      | some y => exact ih (by omega) (by omega)

theorem checkAncestors_eq {fuel : ℕ} (hfuel : (service.ofCompany companyId db).length < fuel) :
    checkAncestors service db id newParentId companyId fuel =
      some (if assertNoCycle service id newParentId companyId db = true then .ok ()
        else .error service.circular) :=
  ancestorLoop_eq (Nat.zero_add _) hfuel

theorem ancestorLoop_mono {maxDepth fuel steps : ℕ} {o : Option Uuid} {answer : Except Failure Unit}
    (h : ancestorLoop service db id maxDepth fuel o steps = some answer) (more : ℕ) :
    ancestorLoop service db id maxDepth (fuel + more) o steps = some answer := by
  induction fuel generalizing o steps with
  | zero => cases h
  | succ fuel ih =>
    rw [Nat.add_right_comm]
    cases o with
    | none => exact h
    | some x =>
      unfold ancestorLoop at h ⊢
      split
      · rename_i hx
        rw [if_pos hx] at h
        exact h
      · rename_i hx
        rw [if_neg hx] at h
        split
        · rename_i hbound
          rw [if_pos hbound] at h
          exact h
        · rename_i hbound
          rw [if_neg hbound] at h
          exact ih h

theorem rooted_of_acyclic (hcompany : OfCompany service companyId db)
    (hacyclic : Acyclic service companyId db (service.parentOf db)) {x : Uuid}
    (hx : InCompany service companyId db x) : Rooted (service.parentOf db) x :=
  rooted_of_not_onCycle _ (fun _ _ hxy hyz => mem_ofCompany_of_climb hcompany hx hxy hyz)
    fun y hxy => hacyclic y (inCompany_climb hcompany hx hxy)

/-- A new parent makes a cycle exactly when it climbs to the row. -/
theorem acyclic_update_iff (hid : InCompany service companyId db id)
    (hcompany : OfCompany service companyId db) (hparent : InCompany service companyId db newParentId)
    (hacyclic : Acyclic service companyId db (service.parentOf db)) :
    Acyclic service companyId db (Function.update (service.parentOf db) id (some newParentId)) ↔
      ¬ Climbs (service.parentOf db) newParentId id := by
  have hnew : Function.update (service.parentOf db) id (some newParentId) id = some newParentId :=
    Function.update_self ..
  constructor
  · intro hall hclimb
    exact hall id hid ⟨newParentId, hnew, climbs_update_to hclimb⟩
  · intro hnot x hx
    refine Rooted.not_onCycle ?_
    by_cases hxid : Climbs (service.parentOf db) x id
    · refine rooted_of_climbs (climbs_update_to hxid) (.of_parent hnew ?_)
      exact rooted_update_of_not (rooted_of_acyclic hcompany hacyclic hparent) hnot
    · exact rooted_update_of_not (rooted_of_acyclic hcompany hacyclic hx) hxid

theorem exactCheck (service : HierarchyService ρ γ δ) (db : HierarchyDb ρ)
    (id newParentId companyId : Uuid) : ExactCheck service db id newParentId companyId where
  ends fuel hfuel := by
    rw [checkAncestors_eq hfuel]
    split
    · exact .inl rfl
    · exact .inr rfl
  exact row hrow hof hcompany hparent hacyclic fuel hfuel := by
    obtain ⟨hfind, hdeleted⟩ := Option.filter_eq_some_iff.1 hrow
    rw [checkAncestors_eq hfuel, acyclic_update_iff ⟨row, hfind, hof⟩ hcompany hparent hacyclic,
      ← assertNoCycle_iff hcompany hfind (of_decide_eq_true hdeleted) hof hparent
        (rooted_of_acyclic hcompany hacyclic hparent)]
    split
    · rename_i hpasses
      exact iff_of_false (fun h => nomatch h) fun hnot => hnot hpasses
    · rename_i hnot
      exact iff_of_true rfl hnot
  sound fuel hok := by
    have hmore := ancestorLoop_mono hok ((service.ofCompany companyId db).length + 1)
    have heq : checkAncestors service db id newParentId companyId
        (fuel + ((service.ofCompany companyId db).length + 1)) =
          some (if assertNoCycle service id newParentId companyId db = true then .ok ()
            else .error service.circular) := checkAncestors_eq (by omega)
    have hpasses : assertNoCycle service id newParentId companyId db = true := by
      by_contra hnot
      rw [if_neg hnot] at heq
      cases heq.symm.trans hmore
    exact ⟨rooted_of_walk hpasses, not_climbs_of_walk hpasses⟩

end FashionErp.Hierarchy
