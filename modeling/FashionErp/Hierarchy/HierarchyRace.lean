/-
Rows created and given other parents beside each other stay a forest exactly when each save
passes the check of the ancestors again.

The walk of `assertNoCycle` on a forest finds what there is to find: a tree is of one company,
a climb does not come back, and so there are no more rows on the way than the count allows.
-/
import FashionErp.Hierarchy.ParentRows
import FashionErp.Lib.CommitLaw

namespace FashionErp.Hierarchy

open Lib Lib.Tx

variable {ρ γ δ : Type} [Keyed ρ Uuid] {service : HierarchyService ρ γ δ} {db db' : HierarchyDb ρ}

theorem Same.refl (r : ρ) : Same service r r := ⟨rfl, rfl, rfl⟩

theorem Same.trans {r r₁ r₂ : ρ} (h : Same service r r₁) (h' : Same service r₁ r₂) :
    Same service r r₂ :=
  ⟨h'.key.trans h.key, h'.companyId.trans h.companyId, h'.deleted.trans h.deleted⟩

/-! ## The walk -/

theorem parentOf_eq_some {x y : Uuid} (h : service.parentOf db x = some y) :
    ∃ row, db.rows.find? x = some row ∧ service.deleted row = false ∧
      service.parentId row = some y := by
  obtain ⟨row, hrow, hparent⟩ := Option.bind_eq_some_iff.1 h
  obtain ⟨hfind, hdeleted⟩ := Option.filter_eq_some_iff.1 hrow
  exact ⟨row, hfind, of_decide_eq_true hdeleted, hparent⟩

def OfCompany (service : HierarchyService ρ γ δ) (companyId : Uuid) (db : HierarchyDb ρ) : Prop :=
  ∀ row ∈ db.rows.rows, service.companyId row = companyId →
    ∀ parentId ∈ service.parentId row, InCompany service companyId db parentId

theorem Good.ofCompany (hdb : Good service db) (companyId : Uuid) :
    OfCompany service companyId db := by
  rintro row hrow rfl
  exact hdb.parents row hrow

section

variable {companyId x y : Uuid} (hcompany : OfCompany service companyId db)
include hcompany

theorem inCompany_climb (hx : InCompany service companyId db x)
    (hxy : Climbs (service.parentOf db) x y) : InCompany service companyId db y := by
  induction hxy with
  | refl => exact hx
  | @tail y z _ hyz ih =>
    obtain ⟨row, hrow, hof⟩ := ih
    obtain ⟨row', hrow', -, hparent⟩ := parentOf_eq_some hyz
    obtain rfl := Option.some.inj (hrow.symm.trans hrow')
    exact hcompany row (Table.mem_of_find? hrow) hof z hparent

theorem mem_ofCompany_of_climb {z : Uuid} (hx : InCompany service companyId db x)
    (hxy : Climbs (service.parentOf db) x y) (hyz : service.parentOf db y = some z) :
    y ∈ ((service.ofCompany companyId db).map key).toFinset := by
  obtain ⟨row, hrow, hof⟩ := inCompany_climb hcompany hx hxy
  obtain ⟨row', hrow', hvisible, -⟩ := parentOf_eq_some hyz
  obtain rfl := Option.some.inj (hrow.symm.trans hrow')
  rw [List.mem_toFinset, ← Table.key_of_find? hrow]
  refine List.mem_map_of_mem (List.mem_filter.2 ⟨Table.mem_of_find? hrow, ?_⟩)
  simp [hvisible, hof]

/-- `assertNoCycle` passes, where the way up ends, exactly when it does not meet the row. -/
theorem assertNoCycle_iff {id parentId : Uuid} {row : ρ} (hrow : db.rows.find? id = some row)
    (hdeleted : service.deleted row = false) (hof : service.companyId row = companyId)
    (hparent : InCompany service companyId db parentId)
    (hrooted : Rooted (service.parentOf db) parentId) :
    assertNoCycle service id parentId companyId db = true ↔
      ¬ Climbs (service.parentOf db) parentId id := by
  set rows := service.ofCompany companyId db with hrows
  refine walk_iff hrooted ((rows.map key).toFinset.erase id) (fun hnot y z hy hz => ?_) ?_
  · refine Finset.mem_erase.2 ⟨?_, mem_ofCompany_of_climb hcompany hparent hy hz⟩
    rintro rfl
    exact hnot hy
  · -- The row itself is one of those that are counted.
    have hmem : id ∈ (rows.map key).toFinset := by
      rw [List.mem_toFinset, ← Table.key_of_find? hrow]
      refine List.mem_map_of_mem (List.mem_filter.2 ⟨Table.mem_of_find? hrow, ?_⟩)
      simp [hdeleted, hof]
    have hlt := Finset.card_erase_lt_of_mem hmem
    have hle := List.toFinset_card_le (rows.map key)
    rw [List.length_map] at hle
    exact lt_of_lt_of_le hlt hle

end

/-! ## What the commits do -/

/-- What a commit leaves of the rows others have read. -/
def Stands (service : HierarchyService ρ γ δ) (held : Uuid → Prop) (db db' : HierarchyDb ρ) : Prop :=
  ∀ id r, db.rows.find? id = some r →
    ∃ r', db'.rows.find? id = some r' ∧ Same service r r' ∧ (held id → r' = r)

section

variable {held : Uuid → Prop}

theorem InCompany.mono {companyId id : Uuid} (h : InCompany service companyId db id)
    (hstands : Stands service held db db') : InCompany service companyId db' id := by
  obtain ⟨row, hrow, hcompany⟩ := h
  obtain ⟨row', hrow', hsame, -⟩ := hstands id row hrow
  exact ⟨row', hrow', hsame.companyId.trans hcompany⟩

theorem Loaded.mono {id : Uuid} {row : ρ} (h : Loaded service id db row)
    (hstands : Stands service held db db') : Loaded service id db' row := by
  obtain ⟨⟨current, hcurrent, hsame⟩, hdeleted, hparents⟩ := h
  obtain ⟨row', hrow', hsame', -⟩ := hstands id current hcurrent
  exact ⟨⟨row', hrow', hsame.trans hsame'⟩, hdeleted, fun parentId h => (hparents parentId h).mono hstands⟩

theorem PhaseOk.mono {call : ℕ → Call γ δ} {j : ℕ} {p : Phase ρ}
    (h : PhaseOk service call held db j p) (hstands : Stands service held db db') :
    PhaseOk service call held db' j p := by
  unfold PhaseOk at h ⊢
  split
  case h_1 hcall =>
    simp only [hcall] at h
    exact fun parentId hparent => (h parentId hparent).mono hstands
  case h_2 hcall =>
    simp only [hcall] at h
    exact fun parentId hparent => (h parentId hparent).mono hstands
  case h_3 hcall =>
    simp only [hcall] at h
    exact ⟨h.1.mono hstands, h.2⟩
  case h_4 hcall =>
    simp only [hcall] at h
    exact ⟨h.1.mono hstands, h.2.1, h.2.2.mono hstands⟩
  case h_5 hcall =>
    simp only [hcall] at h
    exact ⟨h.1.mono hstands, h.2.1, h.2.2.mono hstands⟩
  case h_6 hcall =>
    simp only [hcall] at h
    refine ⟨h.1.mono (fun _ _ _ h h' => h.trans h') fun r hr => hstands _ r hr, h.2.1, ?_⟩
    exact fun parentId hparent => (h.2.2 parentId hparent).mono hstands
  case h_7 => trivial

end

theorem parentOf_save {row : ρ} (hdeleted : service.deleted row = false) (nextId : Uuid) :
    service.parentOf { db with rows := db.rows.save row, nextId := nextId } =
      Function.update (service.parentOf db) (key row) (service.parentId row) := by
  funext x
  by_cases hx : key row = x
  · subst hx
    rw [Function.update_self]
    have hfilter : (some row).filter (fun row => decide (service.deleted row = false)) = some row :=
      Option.filter_eq_some_iff.2 ⟨rfl, decide_eq_true hdeleted⟩
    show (((db.rows.save row).find? (key row)).filter _).bind service.parentId = _
    rw [Table.find?_save_self, hfilter]
    rfl
  · rw [Function.update_of_ne fun h => hx h.symm]
    simp [HierarchyService.parentOf, HierarchyService.findOne, Table.find?_save_ne _ _ _ hx]

theorem parents_save {row : ρ} (hdb : Good service db) (nextId : Uuid)
    (hstands : Stands service (fun _ => False) db
      { db with rows := db.rows.save row, nextId := nextId })
    (hparent : ∀ parentId ∈ service.parentId row,
      InCompany service (service.companyId row) db parentId) :
    ∀ r ∈ (db.rows.save row).rows, ∀ parentId ∈ service.parentId r,
      InCompany service (service.companyId r)
        { db with rows := db.rows.save row, nextId := nextId } parentId := by
  refine Table.forall_save (fun r hr parentId h => ?_) fun parentId h => ?_
  · exact (hdb.parents r hr parentId h).mono hstands
  · exact (hparent parentId h).mono hstands

/-! ### A creation -/

section

variable {companyId : Uuid} {code : String} {dto : γ}

theorem insertRow_ok (h : service.insertRow companyId code dto db = .ok db') :
    db' = { db with
      rows := db.rows.save (service.newRow db.nextId companyId code dto)
      nextId := db.nextId + 1 } := by
  obtain ⟨_, -, h⟩ := except_bind_eq_ok.1 h
  exact (Except.ok.inj h).symm

theorem lt_nextId_of_find? (hdb : Good service db) {id : Uuid} {r : ρ}
    (hr : db.rows.find? id = some r) : id < db.nextId := by
  rw [← Table.key_of_find? hr]
  exact hdb.fresh r (Table.mem_of_find? hr)

theorem stands_insert (hdb : Good service db) (held : Uuid → Prop) :
    Stands service held db { db with
      rows := db.rows.save (service.newRow db.nextId companyId code dto)
      nextId := db.nextId + 1 } := by
  intro id r hr
  refine ⟨r, ?_, .refl r, fun _ => rfl⟩
  have hlt := lt_nextId_of_find? hdb hr
  have hne : key (service.newRow db.nextId companyId code dto) ≠ id := by
    rw [service.newRow_key]
    exact (Nat.ne_of_lt hlt).symm
  exact (Table.find?_save_ne _ _ _ hne).trans hr

/-- A new row does no harm: nothing climbs to it. -/
theorem good_insert (hdb : Good service db)
    (hparent : ∀ parentId ∈ service.newParentId dto, InCompany service companyId db parentId) :
    Good service { db with
      rows := db.rows.save (service.newRow db.nextId companyId code dto)
      nextId := db.nextId + 1 } where
  rooted := by
    rw [parentOf_save (service.newRow_deleted ..), service.newRow_key, service.newRow_parentId]
    cases hnew : service.newParentId dto with
    | none => exact rooted_update_none hdb.rooted
    | some parentId =>
      obtain ⟨row, hrow, -⟩ := hparent parentId hnew
      refine (rooted_update_iff hdb.rooted).2 (not_climbs_of_childless (fun x hx => ?_) ?_)
      · obtain ⟨r, hr, -, hparentId⟩ := parentOf_eq_some hx
        obtain ⟨row', hrow', -⟩ := hdb.parents r (Table.mem_of_find? hr) _ hparentId
        exact Nat.lt_irrefl _ (lt_nextId_of_find? hdb hrow')
      · exact Nat.ne_of_lt (lt_nextId_of_find? hdb hrow)
  parents := by
    refine parents_save hdb _ (stands_insert hdb _) fun parentId h => ?_
    rw [service.newRow_parentId] at h
    rw [service.newRow_companyId]
    exact hparent parentId h
  fresh := by
    refine Table.forall_save (fun r hr => Nat.lt_succ_of_lt (hdb.fresh r hr)) ?_
    rw [service.newRow_key]
    exact Nat.lt_succ_self _

end

/-! ### A save -/

section

variable {id : Uuid} {entity seen current : ρ}

theorem same_merge (hentity : Same service entity seen) :
    Same service current (service.merge entity seen current) where
  key := service.merge_key ..
  companyId := by rw [service.merge_companyId, mergeCol_of_eq hentity.companyId.symm]
  deleted := by rw [service.merge_deleted, mergeCol_of_eq hentity.deleted.symm]

theorem parent_merge (hdb : Good service db) (hfind : db.rows.find? id = some current)
    (hcompany : service.companyId current = service.companyId entity)
    (hparents : ∀ parentId ∈ service.parentId entity,
      InCompany service (service.companyId entity) db parentId) :
    ∀ parentId ∈ service.parentId (service.merge entity seen current),
      InCompany service (service.companyId current) db parentId := by
  intro parentId h
  rw [service.merge_parentId] at h
  rcases mergeCol_cases (service.parentId entity) (service.parentId seen) (service.parentId current)
    with heq | heq
  · rw [heq] at h
    rw [hcompany]
    exact hparents parentId h
  · rw [heq] at h
    exact hdb.parents current (Table.mem_of_find? hfind) parentId h

theorem stands_merge {held : Uuid → Prop} (hfind : db.rows.find? id = some current)
    (hentity : Same service entity seen) (hheld : held id) :
    Stands service (fun k => ¬ held k) db
      { db with rows := db.rows.save (service.merge entity seen current) } := by
  have hkey : key (service.merge entity seen current) = id :=
    (service.merge_key ..).trans (Table.key_of_find? hfind)
  intro k r hr
  show ∃ r', (db.rows.save (service.merge entity seen current)).find? k = some r' ∧ _
  rw [Table.find?_save, hkey]
  by_cases hk : id = k
  · subst hk
    obtain rfl := Option.some.inj (hfind.symm.trans hr)
    exact ⟨_, if_pos rfl, same_merge hentity, fun hnot => absurd hheld hnot⟩
  · exact ⟨r, (if_neg hk).trans hr, .refl r, fun _ => rfl⟩

/-- The condition on a save is exact. -/
theorem rooted_merge_iff (hdb : Good service db) (hfind : db.rows.find? id = some current)
    (hentity : Same service entity seen) (hdeleted : service.deleted current = false)
    (hparents : ∀ parentId ∈ service.parentId (service.merge entity seen current),
      InCompany service (service.companyId current) db parentId) :
    (∀ x, Rooted (service.parentOf
        { db with rows := db.rows.save (service.merge entity seen current) }) x) ↔
      ∀ parentId ∈ service.parentId (service.merge entity seen current),
        assertNoCycle service id parentId (service.companyId current) db = true := by
  have hkey : key (service.merge entity seen current) = id :=
    (service.merge_key ..).trans (Table.key_of_find? hfind)
  have hvisible : service.deleted (service.merge entity seen current) = false :=
    (same_merge hentity).deleted.trans hdeleted
  have hsave : service.parentOf { db with rows := db.rows.save (service.merge entity seen current) } =
      Function.update (service.parentOf db) (key (service.merge entity seen current))
        (service.parentId (service.merge entity seen current)) :=
    parentOf_save hvisible db.nextId
  rw [hkey] at hsave
  rw [show ({ db with rows := db.rows.save (service.merge entity seen current) } : HierarchyDb ρ) =
    { db with rows := db.rows.save (service.merge entity seen current), nextId := db.nextId } from rfl,
    hsave]
  cases hparent : service.parentId (service.merge entity seen current) with
  | none => exact ⟨fun _ _ h => (nomatch h), fun _ => rooted_update_none hdb.rooted⟩
  | some parentId =>
    rw [rooted_update_iff hdb.rooted]
    have hexact := assertNoCycle_iff (hdb.ofCompany _) hfind hdeleted rfl (hparents parentId hparent)
      (hdb.rooted parentId)
    constructor
    · intro hnot p hp
      cases hp
      exact hexact.2 hnot
    · intro hall
      exact hexact.1 (hall parentId rfl)

end

/-! ## Steps and runs -/

section

variable {call : ℕ → Call γ δ}

def Phase.Free : Phase ρ → Prop
  | called | returned | rejected _ | aborted => True
  | _ => False

variable {i : ℕ} {held : Uuid → Prop} {p : Phase ρ}

theorem PhaseOk.of_free (hp : p.Free) : PhaseOk service call held db i p := by
  cases p with
  | called | returned | rejected | aborted => unfold PhaseOk; split <;> trivial
  | _ => exact hp.elim

/-- The moves of a request: one of the two commits, or nobody sees it. -/
inductive MoveCase (service : HierarchyService ρ γ δ) (call : ℕ → Call γ δ) (held : Uuid → Prop)
    (db : HierarchyDb ρ) (i : ℕ) :
    Label → Phase ρ → Move (HierarchyDb ρ) Uuid (Phase ρ) → Prop
  | quiet {l p m} (hok : Shared.MoveOk (fun _ => False) (PhaseOk service call) held db i m) :
    MoveCase service call held db i l p m
  | inserted {companyId dto code db'}
      (hparent : ∀ parentId ∈ service.newParentId dto, InCompany service companyId db parentId)
      (hinsert : service.insertRow companyId code dto db = .ok db') :
    MoveCase service call held db i .commit (.inserting code) (.commit db' .returned)
  | saved {id entity seen current} (hfind : db.rows.find? id = some current) (hheld : held id)
      (hid : key entity = id) (hseen : Same service entity seen)
      (hcurrent : Same service seen current) (hdeleted : service.deleted entity = false)
      (hparents : ∀ parentId ∈ service.parentId entity,
        InCompany service (service.companyId entity) db parentId) :
    MoveCase service call held db i (.save .commit)
      (.saving (.updated entity seen (service.merge entity seen current)))
      (.commit ((service.access id).put (service.merge entity seen current) db) .returned)

variable {l : Label}

theorem MoveCase.leave {q : Phase ρ} (hq : q.Free) :
    MoveCase service call held db i l p (.leave q) := by
  refine .quiet ?_
  show PhaseOk service call (fun _ => False) db i q
  exact .of_free hq

variable {companyId : Uuid} {id : Uuid}

theorem findByIdInCompany_ok {row : ρ} (h : service.findByIdInCompany id companyId db = .ok row) :
    db.rows.find? id = some row ∧ service.deleted row = false ∧ service.companyId row = companyId := by
  obtain ⟨hfind, hcompany⟩ := Option.filter_eq_some_iff.1 (orRefuse_eq_ok.1 h)
  obtain ⟨hfind, hdeleted⟩ := Option.filter_eq_some_iff.1 hfind
  exact ⟨hfind, of_decide_eq_true hdeleted, of_decide_eq_true hcompany⟩

theorem assertValidParent_ok {parentId : Uuid} {u : Unit}
    (h : service.assertValidParent parentId companyId db = .ok u) :
    InCompany service companyId db parentId := by
  obtain ⟨row, hrow, -⟩ := except_bind_eq_ok.1 h
  obtain ⟨hfind, hmay⟩ := Option.filter_eq_some_iff.1 (orRefuse_eq_ok.1 hrow)
  exact ⟨row, (Option.filter_eq_some_iff.1 hfind).1, (of_decide_eq_true hmay).1⟩

theorem assertNew_ok {dto : γ} {u : Unit} (h : service.assertNew companyId dto db = .ok u) :
    ∀ parentId ∈ service.newParentId dto, InCompany service companyId db parentId := by
  obtain ⟨_, -, h⟩ := except_bind_eq_ok.1 h
  obtain ⟨_, -, h⟩ := except_bind_eq_ok.1 h
  intro parentId hparent
  rw [Option.mem_def.1 hparent] at h
  exact assertValidParent_ok h

theorem loaded_of_find (hdb : Good service db) {row : ρ}
    (hfind : db.rows.find? id = some row) (hdeleted : service.deleted row = false) :
    Loaded service id db row :=
  ⟨⟨row, hfind, .refl row⟩, hdeleted, hdb.parents row (Table.mem_of_find? hfind)⟩

theorem saving_of_loaded {row : ρ} {dto : δ} (h : Loaded service id db row)
    (hsent : ∀ parentId, service.sentParentId dto = some (some parentId) →
      InCompany service (service.companyId row) db parentId) :
    SaveOk (service.access id) id (Same service) (service.applyUpdate dto) held db
        (.changed (service.applyUpdate dto row)) ∧
      service.deleted (service.applyUpdate dto row) = false ∧
        ∀ parentId ∈ service.parentId (service.applyUpdate dto row),
          InCompany service (service.companyId (service.applyUpdate dto row)) db parentId := by
  obtain ⟨⟨current, hcurrent, hsame⟩, hdeleted, hparents⟩ := h
  refine ⟨⟨row, current, rfl, hcurrent, hsame⟩, (service.apply_deleted dto row).trans hdeleted,
    fun parentId h => ?_⟩
  rw [service.apply_parentId] at h
  rw [service.apply_companyId]
  cases hto : service.sentParentId dto with
  | none =>
    rw [hto] at h
    exact hparents parentId h
  | some sent =>
    rw [hto] at h
    exact hsent parentId (hto.trans (congrArg some h))

variable {m : Move (HierarchyDb ρ) Uuid (Phase ρ)}

theorem createMove_cases {dto : γ}
    (hcall : call i = .create companyId dto) (h : PhaseOk service call held db i p)
    (hm : createMove service companyId dto l p db = some m) :
    MoveCase service call held db i l p m := by
  unfold createMove at hm
  split at hm
  case h_1 =>
    split at hm
    · rename_i hassert
      cases hm
      refine .quiet ?_
      simp only [Shared.MoveOk, PhaseOk, hcall]
      exact assertNew_ok hassert
    · cases hm
      exact .leave trivial
  case h_2 candidate =>
    simp only [PhaseOk, hcall] at h
    split at hm
    · split at hm
      · cases hm
        exact .leave trivial
      · cases hm
        refine .quiet ?_
        simp only [Shared.MoveOk, PhaseOk, hcall]
        exact h
    · split at hm
      · cases hm
      · cases hm
        refine .quiet ?_
        simp only [Shared.MoveOk, PhaseOk, hcall]
        exact h
  case h_3 code =>
    simp only [PhaseOk, hcall] at h
    split at hm
    · rename_i hinsert
      cases hm
      exact .inserted h hinsert
    · cases hm
      exact .leave trivial
  case h_6 => cases hm
  all_goals
    cases hm
    exact .leave trivial

theorem updateMove_cases (hdb : Good service db) {dto : δ}
    (hcall : call i = .update id companyId dto) (h : PhaseOk service call held db i p)
    (hm : updateMove service id companyId dto l p db = some m) :
    MoveCase service call held db i l p m := by
  unfold updateMove at hm
  split at hm
  case h_1 =>
    split at hm
    · rename_i row hload
      obtain ⟨found, hfound, hload⟩ := except_bind_eq_ok.1 hload
      obtain ⟨_, -, hload⟩ := except_bind_eq_ok.1 hload
      cases hload
      obtain ⟨hfind, hdeleted, hcompany⟩ := findByIdInCompany_ok hfound
      have hloaded := loaded_of_find hdb hfind hdeleted
      split at hm
      · rename_i parentId hsent
        cases hm
        refine .quiet ?_
        simp only [Shared.MoveOk, PhaseOk, hcall]
        exact ⟨hloaded, hcompany, hsent⟩
      · rename_i hsent
        cases hm
        refine .quiet ?_
        simp only [Shared.MoveOk, PhaseOk, hcall]
        exact saving_of_loaded hloaded fun parentId h => absurd h (hsent parentId)
    · cases hm
      exact .leave trivial
  case h_2 row parentId =>
    simp only [PhaseOk, hcall] at h
    obtain ⟨hloaded, hcompany, hsent⟩ := h
    split at hm
    · rename_i hvalid
      cases hm
      refine .quiet ?_
      simp only [Shared.MoveOk, PhaseOk, hcall]
      exact ⟨hloaded, hsent, hcompany ▸ assertValidParent_ok hvalid⟩
    · cases hm
      exact .leave trivial
  case h_3 row parentId =>
    simp only [PhaseOk, hcall] at h
    cases hm
    refine .quiet ?_
    simp only [Shared.MoveOk, PhaseOk, hcall]
    exact h
  case h_4 row parentId currentId budget =>
    simp only [PhaseOk, hcall] at h
    split at hm
    · cases hm
      exact .leave trivial
    · split at hm
      · cases hm
        exact .leave trivial
      · split at hm
        · cases hm
          obtain ⟨hloaded, hsent, hparent⟩ := h
          refine .quiet ?_
          simp only [Shared.MoveOk, PhaseOk, hcall]
          refine saving_of_loaded hloaded fun parentId' h' => ?_
          obtain rfl := Option.some.inj (Option.some.inj (hsent.symm.trans h'))
          exact hparent
        · cases hm
          refine .quiet ?_
          simp only [Shared.MoveOk, PhaseOk, hcall]
          exact h
  case h_5 l p =>
    simp only [PhaseOk, hcall] at h
    obtain ⟨hsave, hdeleted, hparents⟩ := h
    rcases hsave.move_entity Same.refl hm with ⟨q, rfl, hentity, hq⟩ | ⟨q, rfl, hentity, hq⟩ |
      ⟨entity, seen, row, rfl, rfl, rfl⟩
    · refine .quiet ?_
      simp only [Shared.MoveOk, PhaseOk, hcall, hentity]
      exact ⟨hq, hdeleted, hparents⟩
    · refine .quiet ?_
      simp only [Shared.MoveOk, PhaseOk, hcall, hentity]
      exact ⟨hq, hdeleted, hparents⟩
    · obtain ⟨first, current, hentity, hfind, hseen, hcurrent, hheld, rfl⟩ := hsave
      have hfirst : Same service entity first := by
        rw [hentity]
        exact ⟨(service.apply_key ..).symm, (service.apply_companyId ..).symm,
          (service.apply_deleted ..).symm⟩
      have hsame := hfirst.trans hseen
      have hid : key entity = id :=
        (hsame.trans hcurrent).key.symm.trans (Table.key_of_find? hfind)
      exact .saved hfind hheld hid hsame hcurrent hdeleted hparents
  case h_10 => cases hm
  all_goals
    cases hm
    exact .leave trivial

theorem protocol_cases (hdb : Good service db) (h : PhaseOk service call held db i p)
    (hm : protocol service call i l p db = some m) : MoveCase service call held db i l p m := by
  unfold protocol at hm
  split at hm
  · exact createMove_cases ‹_› h hm
  · exact updateMove_cases hdb ‹_› h hm

def Inv (service : HierarchyService ρ γ δ) (call : ℕ → Call γ δ)
    (s : Shared (HierarchyDb ρ) Uuid (Phase ρ)) : Prop := s.Inv (Good service) (PhaseOk service call)

variable {s : Shared (HierarchyDb ρ) Uuid (Phase ρ)}

theorem respects_of_quiet (hp : s.phase i = p)
    (hm : protocol service call i l p s.db = some m) (hquiet : ∀ db p, m ≠ .commit db p) :
    Respects service s (i, l) := by
  cases l with
  | save l =>
    cases l with
    | commit =>
      simp only [Respects]
      split
      · rename_i hphase
        obtain rfl := hp.symm.trans hphase
        unfold protocol at hm
        split at hm
        · cases hm
        · exact absurd (Option.some.inj hm).symm (hquiet _ _)
      · trivial
    | _ => trivial
  | _ => trivial

/-- What a commit comes to: the rows stay a forest exactly when it meets the condition, and
if they do, everything else that is known stays so. -/
theorem commit_ok {q : Phase ρ} (h : Inv service call s)
    (hm : protocol service call i l (s.phase i) s.db = some (.commit db' q)) :
    ((∀ x, Rooted (service.parentOf db') x) ↔ Respects service s (i, l)) ∧
      ((∀ x, Rooted (service.parentOf db') x) →
        Good service db' ∧ q.Free ∧ Stands service (fun k => ¬ s.Holds i k) s.db db') := by
  have hi := h.phase i
  generalize hp : s.phase i = p at hi hm
  generalize hmove : Move.commit db' q = m at hm
  cases protocol_cases h.db hi hm with
  | quiet hok =>
    subst hmove
    exact hok.1.elim
  | @inserted companyId dto code db₁ hparent hinsert =>
    obtain ⟨rfl, rfl⟩ := Move.commit.inj hmove
    obtain rfl := insertRow_ok hinsert
    have hgood : Good service { s.db with
        rows := s.db.rows.save (service.newRow s.db.nextId companyId code dto)
        nextId := s.db.nextId + 1 } := good_insert h.db hparent
    refine ⟨?_, fun _ => ⟨hgood, trivial, stands_insert h.db _⟩⟩
    simp only [Respects, iff_true]
    exact hgood.rooted
  | @saved id entity seen current hfind hheld hid hseen hcurrent hdeleted hparents =>
    obtain ⟨rfl, rfl⟩ := Move.commit.inj hmove
    have hsame := hseen.trans hcurrent
    have hparent : ∀ parentId ∈ service.parentId (service.merge entity seen current),
        InCompany service (service.companyId current) s.db parentId :=
      parent_merge h.db hfind hsame.companyId hparents
    have hstands := stands_merge hfind hseen hheld
    have hexact := rooted_merge_iff h.db hfind hseen (hsame.deleted.trans hdeleted) hparent
    constructor
    · simp only [Respects, hp, hid, hfind, Option.mem_def, Option.some.injEq, forall_eq']
      exact hexact
    · intro hrooted
      refine ⟨⟨hrooted, ?_, ?_⟩, trivial, hstands⟩
      · refine parents_save h.db s.db.nextId (fun k r hr => ?_) ?_
        · obtain ⟨r', hr', hsame', -⟩ := hstands k r hr
          exact ⟨r', hr', hsame', False.elim⟩
        · rw [(same_merge hseen).companyId]
          exact hparent
      · refine Table.forall_save h.db.fresh ?_
        rw [service.merge_key]
        exact h.db.fresh current (Table.mem_of_find? hfind)

theorem Stands.weaken {held' : Uuid → Prop} (h : Stands service held db db')
    (hheld : ∀ k, held' k → held k) : Stands service held' db db' := by
  intro id r hr
  obtain ⟨r', hr', hsame, hkept⟩ := h id r hr
  exact ⟨r', hr', hsame, fun hid => hkept (hheld id hid)⟩

theorem commitLaw (service : HierarchyService ρ γ δ) (call : ℕ → Call γ δ) :
    CommitLaw (protocol service call) (Good service) (PhaseOk service call) (Stands service)
      (fun db => ∀ x, Rooted (service.parentOf db) x) (Respects service) where
  good := Good.rooted
  mono := PhaseOk.mono
  weaken := Stands.weaken
  quiet {s i l m} h hm hquiet := by
    have hi := h.phase i
    generalize hp : s.phase i = p at hi hm
    refine ⟨?_, respects_of_quiet hp hm hquiet⟩
    cases protocol_cases h.db hi hm with
    | quiet hok => exact hok
    | _ => exact absurd rfl (hquiet _ _)
  commit h hm := by
    obtain ⟨hexact, hkept⟩ := commit_ok h hm
    refine ⟨hexact, fun hrooted => ?_⟩
    obtain ⟨hgood, hfree, hstands⟩ := hkept hrooted
    exact ⟨⟨hgood, .of_free hfree⟩, hstands⟩

/-- The rows are a forest in every state of a run exactly when each save meets the
condition. -/
theorem rooted_run_iff (service : HierarchyService ρ γ δ) (call : ℕ → Call γ δ) {db : HierarchyDb ρ}
    {ls : List (ℕ × Label)} (hdb : Good service db)
    (hrun : (machine service call).Run (.start db .called) ls s) :
    (∀ ks, ks <+: ls → ∀ s', (machine service call).Run (.start db .called) ks s' →
      ∀ x, Rooted (service.parentOf s'.db) x) ↔
      (machine service call).RunWith (Respects service) (.start db .called) ls s := by
  have hstart : Inv service call (.start db .called) :=
    Shared.inv_start hdb fun _ _ => .of_free (p := .called) trivial
  exact (commitLaw service call).run_iff hstart hrun

end

end FashionErp.Hierarchy
