/-
Variants created, updated, switched on and off, and removed beside each other.

Each statement of a request is a step of its own, and so is each transaction.
-/
import FashionErp.Lib.CommitLaw
import FashionErp.Products.Variants

namespace FashionErp.VariantRace

open Lib Variants

inductive Call
  | create (productId companyId : Uuid) (dto : CreateProductVariantDto)
  | update (id companyId : Uuid) (dto : UpdateProductVariantDto)
  | activate (id companyId : Uuid)
  | deactivate (id companyId : Uuid)
  | remove (id companyId : Uuid)
  | elsewhere (write : VariantDb → VariantDb)

inductive Phase
  | called
  | resolving (entity : Option Variant) (done rest : List AttributeInput)
  /-- `create` is at the check of the combination. -/
  | measured (attributes : List AttributeInput) (baseUomId : Option Uuid)
  /-- `create` is at the check of the SKU. -/
  | vacant (attributes : List AttributeInput) (baseUomId : Option Uuid)
  /-- `create` is at its `save`. -/
  | unused (attributes : List AttributeInput) (baseUomId : Option Uuid)
  | changed (attributes : Option (List AttributeInput)) (entity : Variant)
  /-- `save` has read the row again. -/
  | saving (attributes : Option (List AttributeInput)) (entity seen : Variant)
  /-- `remove` is at the check of the purchase orders. -/
  | removing (variant : Variant)
  | unlinked (variant : Variant)
  | unmapped (variant : Variant)
  | returned
  | failed (error : Failure)
  deriving DecidableEq

inductive Label
  | read
  | resolve
  | measure
  | check
  | checkSku
  /-- `save` of a new entity, under an id that no row has. -/
  | insert (id : Uuid)
  | reread
  | write
  | unmap
  | softRemove
  deriving DecidableEq

def proceed {α : Type} (next : α → Phase) : Except Failure α → Move VariantDb Unit Phase
  | .ok a => .goto (next a)
  | .error error => .leave (.failed error)

def finish : Except Failure VariantDb → Move VariantDb Unit Phase
  | .ok db => .commit db .returned
  | .error error => .leave (.failed error)

/-- The moves of `create`. -/
def createMove (productId companyId : Uuid) (dto : CreateProductVariantDto) :
    Label → Phase → VariantDb → Option (Move VariantDb Unit Phase)
  | .read, .called, db =>
    some (proceed (fun _ => .resolving none [] (dto.attributes.getD []))
      (findProduct productId companyId db))
  | .resolve, .resolving none done (input :: rest), db =>
    some (proceed (fun done => .resolving none done rest)
      (resolveAttribute companyId db done input))
  | .measure, .resolving none attributes [], db =>
    some (proceed (.measured attributes) (resolveBaseUom companyId dto.baseUomId db))
  | .check, .measured attributes baseUomId, db =>
    some (proceed (fun _ => .vacant attributes baseUomId)
      (assertCombinationAvailable productId (combinationKey attributes) none db))
  | .checkSku, .vacant attributes baseUomId, db =>
    some (proceed (fun _ => .unused attributes baseUomId) (assertSkuAvailable companyId dto.sku db))
  | .insert id, .unused attributes baseUomId, db =>
    if (db.variants.find? id).isNone then
      some (finish (insertVariant id productId companyId dto attributes baseUomId db))
    else
      none
  | _, _, _ => none

/-- The moves of `save(entity)`. -/
def saveMove : Label → Phase → VariantDb → Option (Move VariantDb Unit Phase)
  | .reread, .changed attributes entity, db =>
    (db.variants.find? entity.id).map fun seen => .goto (.saving attributes entity seen)
  | .write, .saving attributes entity seen, db =>
    (db.variants.find? entity.id).map fun row =>
      finish (saveVariant attributes (mergeVariant entity seen row) db)
  | _, _, _ => none

/-- What `update` does with the variant it has read. -/
def startUpdate (dto : UpdateProductVariantDto) (variant : Variant) : Phase :=
  match dto.attributes with
  | none => .changed none (applyPrices dto variant)
  | some inputs => .resolving (some (applyPrices dto variant)) [] inputs

/-- The moves of `update`. -/
def updateMove (id companyId : Uuid) (dto : UpdateProductVariantDto) :
    Label → Phase → VariantDb → Option (Move VariantDb Unit Phase)
  | .read, .called, db => some (proceed (startUpdate dto) (findByIdInCompany id companyId db))
  | .resolve, .resolving (some entity) done (input :: rest), db =>
    some (proceed (fun done => .resolving (some entity) done rest)
      (resolveAttribute companyId db done input))
  | .check, .resolving (some entity) attributes [], db =>
    some (proceed
      (fun _ => .changed (some attributes)
        { entity with combinationKey := combinationKey attributes })
      (assertCombinationAvailable entity.productId (combinationKey attributes) (some id) db))
  | l, p, db => saveMove l p db

/-- The moves of `activate` and `deactivate`. -/
def statusMove (id companyId : Uuid) (status : ActiveStatus) :
    Label → Phase → VariantDb → Option (Move VariantDb Unit Phase)
  | .read, .called, db =>
    some (proceed (fun variant => .changed none { variant with status := status })
      (findByIdInCompany id companyId db))
  | l, p, db => saveMove l p db

/-- `softRemove` of the units of a variant. -/
def removeMappings (id companyId : Uuid) (db : VariantDb) : VariantDb :=
  { db with variantUoms := db.variantUoms.map fun m =>
      if m.variantId = id ∧ m.companyId = companyId then { m with deleted := true } else m }

/-- `softRemove` of a variant writes `deletedAt` and nothing else. -/
def softRemove (row : Variant) (db : VariantDb) : VariantDb :=
  { db with variants := db.variants.save { row with deleted := true } }

/-- The moves of `remove`. -/
def removeMove (id companyId : Uuid) :
    Label → Phase → VariantDb → Option (Move VariantDb Unit Phase)
  | .read, .called, db => some (proceed .removing (findByIdInCompany id companyId db))
  | .check, .removing variant, db =>
    some (proceed (fun _ => .unlinked variant) (assertNotLinkedToOpenPurchaseOrder companyId id db))
  | .unmap, .unlinked variant, db =>
    some (.commit (removeMappings id companyId db) (.unmapped variant))
  | .softRemove, .unmapped variant, db =>
    (db.variants.find? variant.id).map fun row => .commit (softRemove row db) .returned
  | _, _, _ => none

section

variable (kindOf : OptionId → AttributeKind)

def HaveKinds (db : VariantDb) : Prop := ∀ o ∈ db.options, o.kind = kindOf o.id

instance (db : VariantDb) : Decidable (HaveKinds kindOf db) :=
  inferInstanceAs (Decidable (∀ o ∈ _, _))

def writeElsewhere (write : VariantDb → VariantDb) (db : VariantDb) : VariantDb :=
  { write db with variants := db.variants, attributes := db.attributes }

def elsewhereMove (write : VariantDb → VariantDb) :
    Label → Phase → VariantDb → Option (Move VariantDb Unit Phase)
  | .write, .called, db =>
    if HaveKinds kindOf (write db) then some (.commit (writeElsewhere write db) .returned) else none
  | _, _, _ => none

def protocol (call : ℕ → Call) : Protocol VariantDb Unit Phase Label := fun i l p db =>
  match call i with
  | .create productId companyId dto => createMove productId companyId dto l p db
  | .update id companyId dto => updateMove id companyId dto l p db
  | .activate id companyId => statusMove id companyId .Active l p db
  | .deactivate id companyId => statusMove id companyId .Inactive l p db
  | .remove id companyId => removeMove id companyId l p db
  | .elsewhere write => elsewhereMove kindOf write l p db

def machine (call : ℕ → Call) : Machine (Shared VariantDb Unit Phase) (ℕ × Label) :=
  concurrent (protocol kindOf call)

end

/-! ## The claim and the condition -/

def KeysMatch (db : VariantDb) : Prop :=
  ∀ v ∈ db.variants.rows, v.deleted = false →
    v.combinationKey = computeCombinationKey (optionIds db v.id)

def NoTwins (db : VariantDb) : Prop :=
  ∀ v ∈ db.variants.rows, ∀ o ∈ db.variants.rows, v.deleted = false → o.deleted = false →
    v.productId = o.productId → (∀ k, k ∈ optionIds db v.id ↔ k ∈ optionIds db o.id) → v = o

/-- The condition on a step. Without an update of the attributes, a key that is written is
that of the row already; with one, a key that is not written is. -/
def KeepsKeys (s : Shared VariantDb Unit Phase) : ℕ × Label → Prop
  | (i, .write) =>
    match s.phase i with
    | .saving attributes entity seen =>
      ∀ row ∈ s.db.variants.find? entity.id,
        (∀ o ∈ s.db.variants.rows, ¬ Clashes (mergeVariant entity seen row) o) →
          ((attributes = none ↔ entity.combinationKey = seen.combinationKey) ∨
            row.combinationKey = entity.combinationKey)
    | _ => True
  | _ => True

instance (s : Shared VariantDb Unit Phase) (l : ℕ × Label) : Decidable (KeepsKeys s l) := by
  unfold KeepsKeys
  split
  · split <;> infer_instance
  · infer_instance

structure Matched (kindOf : OptionId → AttributeKind) (db : VariantDb) : Prop where
  keys : ∀ v ∈ db.variants.rows, v.combinationKey = computeCombinationKey (optionIds db v.id)
  apart : ∀ v ∈ db.variants.rows, ∀ o ∈ db.variants.rows, ¬ Clashes v o
  nodup : ∀ id, (optionIds db id).Nodup
  owned : ∀ a ∈ db.attributes, ∃ v ∈ db.variants.rows, v.id = a.variantId
  kinds : HaveKinds kindOf db

/-- What `resolveAttributes` lets pass: options of their kinds, no kind twice. -/
structure Resolved (kindOf : OptionId → AttributeKind) (attributes : List AttributeInput) :
    Prop where
  kinds : ∀ a ∈ attributes, a.kind = kindOf a.optionId
  nodup : (attributes.map (·.kind)).Nodup

def Phase.Checked (kindOf : OptionId → AttributeKind) : Phase → Prop
  | resolving _ attributes _ | measured attributes _ | vacant attributes _ | unused attributes _ =>
    Resolved kindOf attributes
  | changed (some attributes) entity | saving (some attributes) entity _ =>
    Resolved kindOf attributes ∧ entity.combinationKey = combinationKey attributes
  | _ => True

variable {attributes : List AttributeInput} {companyId productId : Uuid}
  {dto : CreateProductVariantDto}

section

variable {kindOf : OptionId → AttributeKind} {db : VariantDb}

/-! ## What holds of the live variants -/

theorem Matched.keysMatch (hdb : Matched kindOf db) : KeysMatch db := fun v hv _ => hdb.keys v hv

theorem Matched.noTwins (hdb : Matched kindOf db) : NoTwins db := by
  intro v hv o ho _ _ hproduct hsame
  have hperm : (optionIds db v.id).Perm (optionIds db o.id) :=
    (List.perm_ext_iff_of_nodup (hdb.nodup _) (hdb.nodup _)).2 hsame
  have hkey : v.combinationKey = o.combinationKey := by
    rw [hdb.keys v hv, hdb.keys o ho, computeCombinationKey_perm hperm]
  by_contra hne
  refine hdb.apart v hv o ho ⟨fun hid => hne ?_, .inr ⟨hproduct.symm, hkey.symm⟩⟩
  exact Table.eq_of_key hv ho hid.symm

/-! ## The checks -/

theorem Resolved.nil : Resolved kindOf [] := ⟨fun _ ha => absurd ha List.not_mem_nil, List.nodup_nil⟩

theorem Resolved.nodup_optionIds (h : Resolved kindOf attributes) :
    (attributes.map (·.optionId)).Nodup := by
  have hmap : attributes.map (·.kind) = (attributes.map (·.optionId)).map kindOf := by
    rw [List.map_map]
    exact List.map_congr_left h.kinds
  exact List.Nodup.of_map kindOf (hmap ▸ h.nodup)

theorem Resolved.round {attributes' : List AttributeInput} {input : AttributeInput}
    (hkinds : HaveKinds kindOf db) (h : Resolved kindOf attributes)
    (hround : resolveAttribute companyId db attributes input = .ok attributes') :
    Resolved kindOf attributes' := by
  unfold resolveAttribute at hround
  dsimp only at hround
  split at hround
  · cases hround
  rename_i hnew
  split at hround
  · cases hround
  rename_i option hfind
  split at hround
  · cases hround
  split at hround
  · cases hround
  rename_i hkind
  cases hround
  have htest := List.find?_some hfind
  simp only [Bool.and_eq_true, decide_eq_true_eq] at htest
  have hinput : input.kind = kindOf input.optionId := by
    rw [← not_not.1 hkind, ← htest.1.1]
    exact hkinds option (List.mem_of_find?_eq_some hfind)
  constructor
  · intro a ha
    rcases List.mem_append.1 ha with ha | ha
    · exact h.kinds a ha
    · rw [List.mem_singleton.1 ha]
      exact hinput
  · rw [List.map_append, List.nodup_append]
    refine ⟨h.nodup, List.nodup_singleton _, fun k hk k' hk' heq => hnew ?_⟩
    obtain ⟨a, ha, rfl⟩ := List.mem_map.1 hk
    rw [List.map_singleton, List.mem_singleton] at hk'
    exact List.any_eq_true.2 ⟨a, ha, decide_eq_true (heq.trans hk')⟩

/-! ## The writes -/

theorem optionIds_append (db : VariantDb) (v id : Uuid) (attributes : List AttributeInput) :
    optionIds { db with attributes := db.attributes ++ attributeRows v attributes } id =
      optionIds db id ++ if v = id then attributes.map (·.optionId) else [] := by
  unfold optionIds attributeRows
  rw [List.filter_append, List.map_append, List.filter_map, List.map_map]
  congr 1
  by_cases hid : v = id
  · rw [if_pos hid, List.filter_eq_self.2]
    · rfl
    · exact fun _ _ => decide_eq_true hid
  · rw [if_neg hid, List.filter_eq_nil_iff.2, List.map_nil]
    exact fun _ _ htrue => hid (of_decide_eq_true htrue)

theorem optionIds_filter (db : VariantDb) (v id : Uuid) :
    optionIds { db with attributes := db.attributes.filter fun a => a.variantId ≠ v } id =
      if v = id then [] else optionIds db id := by
  unfold optionIds
  rw [List.filter_filter]
  by_cases hid : v = id
  · rw [if_pos hid, List.filter_eq_nil_iff.2, List.map_nil]
    intro a _
    simp [hid]
  · rw [if_neg hid]
    congr 1
    refine List.filter_congr fun a _ => ?_
    by_cases ha : a.variantId = id
    · simp [ha, Ne.symm hid]
    · simp [ha]

theorem optionIds_replaceAttributes (db : VariantDb) (v id : Uuid)
    (attributes : List AttributeInput) :
    optionIds (replaceAttributes v attributes db) id =
      if v = id then attributes.map (·.optionId) else optionIds db id := by
  have happend := optionIds_append
    { db with attributes := db.attributes.filter fun a => a.variantId ≠ v } v id attributes
  rw [optionIds_filter] at happend
  refine happend.trans ?_
  split
  · rfl
  · rw [List.append_nil]

variable {v : Variant}

theorem clashes_comm {o : Variant} (h : Clashes v o) : Clashes o v :=
  ⟨h.1.symm, h.2.imp (fun h => ⟨h.1.symm, h.2.symm⟩) fun h => ⟨h.1.symm, h.2.symm⟩⟩

variable {db' : VariantDb}

theorem Matched.save (hdb : Matched kindOf db)
    (hrows : db'.variants = db.variants.save v) (hkinds : HaveKinds kindOf db')
    (hclash : ∀ o ∈ db.variants.rows, ¬ Clashes v o)
    (hkey : v.combinationKey = computeCombinationKey (optionIds db' v.id))
    (hnodup : (optionIds db' v.id).Nodup)
    (hothers : ∀ id, v.id ≠ id → optionIds db' id = optionIds db id)
    (howned : ∀ a ∈ db'.attributes, a ∈ db.attributes ∨ a.variantId = v.id) :
    Matched kindOf db' := by
  refine ⟨?_, ?_, ?_, ?_, hkinds⟩
  · rw [hrows]
    intro r hr
    rcases (Table.mem_save _ _ _).1 hr with rfl | ⟨hr, hne⟩
    · exact hkey
    · rw [hothers r.id (Ne.symm hne)]
      exact hdb.keys r hr
  · rw [hrows]
    intro r hr o ho hro
    rcases (Table.mem_save _ _ _).1 hr with rfl | ⟨hr', -⟩
    · rcases (Table.mem_save _ _ _).1 ho with rfl | ⟨ho', -⟩
      · exact hro.1 rfl
      · exact hclash o ho' hro
    · rcases (Table.mem_save _ _ _).1 ho with rfl | ⟨ho', -⟩
      · exact hclash r hr' (clashes_comm hro)
      · exact hdb.apart r hr' o ho' hro
  · intro id
    by_cases hid : v.id = id
    · exact hid ▸ hnodup
    · rw [hothers id hid]
      exact hdb.nodup id
  · rw [hrows]
    intro a ha
    rcases howned a ha with ha | ha
    · obtain ⟨r, hr, hid⟩ := hdb.owned a ha
      by_cases hv : r.id = v.id
      · exact ⟨v, (Table.mem_save _ _ _).2 (.inl rfl), hv.symm.trans hid⟩
      · exact ⟨r, (Table.mem_save _ _ _).2 (.inr ⟨hr, hv⟩), hid⟩
    · exact ⟨v, (Table.mem_save _ _ _).2 (.inl rfl), ha.symm⟩

theorem Matched.not_clashes_over {row : Variant} (hdb : Matched kindOf db)
    (hrow : row ∈ db.variants.rows) (hid : v.id = row.id) (hproduct : v.productId = row.productId)
    (hcompany : v.companyId = row.companyId) (hsku : v.sku = row.sku)
    (hkey : v.combinationKey = row.combinationKey) : ∀ o ∈ db.variants.rows, ¬ Clashes v o := by
  intro o ho hclash
  refine hdb.apart row hrow o ho ?_
  unfold Clashes at hclash ⊢
  rwa [← hid, ← hproduct, ← hcompany, ← hsku, ← hkey]

theorem map_eq_ok {α β : Type} {f : α → β} {r : Except Failure α} {b : β} :
    r.map f = .ok b ↔ ∃ a, r = .ok a ∧ f a = b := by
  cases r <;> simp [Except.map]

theorem writeVariant_eq_ok : writeVariant v db = .ok db' ↔
      (∀ o ∈ db.variants.rows, ¬ Clashes v o) ∧ { db with variants := db.variants.save v } = db' := by
  unfold writeVariant
  by_cases hclash : ∃ o ∈ db.variants.rows, Clashes v o
  · rw [if_pos hclash]
    obtain ⟨o, ho, hclash⟩ := hclash
    constructor
    · intro h
      cases h
    · exact fun h => absurd hclash (h.1 o ho)
  · rw [if_neg hclash]
    refine ⟨fun h => ⟨fun o ho hc => hclash ⟨o, ho, hc⟩, Except.ok.inj h⟩, fun h => ?_⟩
    exact congrArg Except.ok h.2

/-- A new variant keeps the rows matched. -/
theorem Matched.insertVariant {id : Uuid} {baseUomId : Option Uuid}
    (hdb : Matched kindOf db) (hattributes : Resolved kindOf attributes)
    (hid : db.variants.find? id = none)
    (hok : Variants.insertVariant id productId companyId dto attributes baseUomId db = .ok db') :
    Matched kindOf db' := by
  obtain ⟨db₁, hwrite, rfl⟩ := map_eq_ok.1 hok
  obtain ⟨hclash, rfl⟩ := writeVariant_eq_ok.1 hwrite
  have hnone : optionIds db id = [] := by
    refine List.map_eq_nil_iff.2 (List.filter_eq_nil_iff.2 fun a ha htrue => ?_)
    obtain ⟨r, hr, hra⟩ := hdb.owned a ha
    exact Table.find?_eq_none.1 hid r hr (hra.trans (of_decide_eq_true htrue))
  have hids := optionIds_append db id id attributes
  rw [hnone, if_pos rfl, List.nil_append] at hids
  refine hdb.save (v := newVariant id productId companyId dto attributes baseUomId) rfl hdb.kinds
    hclash (congrArg computeCombinationKey hids.symm) ?_ (fun other hother => ?_) fun a ha => ?_
  · exact hids.symm ▸ hattributes.nodup_optionIds
  · refine (optionIds_append db id other attributes).trans ?_
    rw [if_neg (show id ≠ other from hother), List.append_nil]
  · refine (List.mem_append.1 ha).imp_right fun ha => ?_
    obtain ⟨_, -, rfl⟩ := List.mem_map.1 ha
    rfl

def savedIds (attributes : Option (List AttributeInput)) (id : Uuid) (db : VariantDb) :
    List OptionId :=
  match attributes with
  | some attributes => attributes.map (·.optionId)
  | none => optionIds db id

theorem optionIds_saved {merged : Variant} {attributes : Option (List AttributeInput)} (hok : saveVariant attributes merged db = .ok db') (id : Uuid) :
    optionIds db' id = if merged.id = id then savedIds attributes id db else optionIds db id := by
  obtain ⟨db₁, hwrite, rfl⟩ := map_eq_ok.1 hok
  obtain ⟨-, rfl⟩ := writeVariant_eq_ok.1 hwrite
  cases attributes with
  | some attributes => exact optionIds_replaceAttributes _ merged.id id attributes
  | none => exact (ite_self _).symm

/-- A save keeps the rows matched exactly if the key it leaves is that of the options it
leaves. -/
theorem Matched.saveVariant_iff {merged : Variant} {attributes : Option (List AttributeInput)}
    (hdb : Matched kindOf db) (hattributes : ∀ a ∈ attributes, Resolved kindOf a) :
    (∀ db', saveVariant attributes merged db = .ok db' → Matched kindOf db') ↔
      ((∀ o ∈ db.variants.rows, ¬ Clashes merged o) →
        merged.combinationKey = computeCombinationKey (savedIds attributes merged.id db)) := by
  constructor
  · intro hmatched hclash
    have hwrite : writeVariant merged db = .ok _ := writeVariant_eq_ok.2 ⟨hclash, rfl⟩
    have hok : saveVariant attributes merged db = .ok _ := map_eq_ok.2 ⟨_, hwrite, rfl⟩
    have hids := optionIds_saved hok merged.id
    rw [if_pos rfl] at hids
    rw [← hids]
    refine (hmatched _ hok).keys merged ?_
    cases attributes <;> exact (Table.mem_save _ _ _).2 (.inl rfl)
  · intro hkey db' hok
    have hids := optionIds_saved hok
    obtain ⟨db₁, hwrite, hdb₁⟩ := map_eq_ok.1 hok
    obtain ⟨hclash, rfl⟩ := writeVariant_eq_ok.1 hwrite
    have hnodup : (savedIds attributes merged.id db).Nodup := by
      cases attributes with
      | some attributes => exact (hattributes attributes rfl).nodup_optionIds
      | none => exact hdb.nodup merged.id
    have hself := hids merged.id
    rw [if_pos rfl] at hself
    refine hdb.save (v := merged) ?_ ?_ hclash (hself.symm ▸ hkey hclash) (hself.symm ▸ hnodup)
      (fun id hid => (hids id).trans (if_neg hid)) ?_
    · subst hdb₁
      cases attributes <;> rfl
    · subst hdb₁
      cases attributes <;> exact hdb.kinds
    · subst hdb₁
      intro a ha
      cases attributes with
      | none => exact .inl ha
      | some attributes =>
        rcases List.mem_append.1 ha with ha | ha
        · exact .inl (List.mem_filter.1 ha).1
        · obtain ⟨_, -, rfl⟩ := List.mem_map.1 ha
          exact .inr rfl

theorem Matched.softRemove {row : Variant} (hdb : Matched kindOf db)
    (hrow : row ∈ db.variants.rows) : Matched kindOf (VariantRace.softRemove row db) :=
  hdb.save (v := { row with deleted := true }) rfl hdb.kinds
    (hdb.not_clashes_over hrow rfl rfl rfl rfl rfl) (hdb.keys row hrow) (hdb.nodup _)
    (fun _ _ => rfl) fun _ ha => .inl ha

/-! ## The moves -/

abbrev Kept (kindOf : OptionId → AttributeKind) (m : Move VariantDb Unit Phase) : Prop :=
  m.Leaves (Matched kindOf) (Phase.Checked kindOf)

theorem kept_proceed {α : Type} {next : α → Phase} {r : Except Failure α}
    (h : ∀ a, r = .ok a → (next a).Checked kindOf) : Kept kindOf (proceed next r) := by
  cases r with
  | ok a => exact h a rfl
  | error error => exact trivial

theorem kept_finish_iff {r : Except Failure VariantDb} :
    Kept kindOf (finish r) ↔ ∀ db, r = .ok db → Matched kindOf db := by
  cases r with
  | ok db =>
    refine ⟨fun h db' heq => ?_, fun h => ⟨h db rfl, trivial⟩⟩
    exact Except.ok.inj heq ▸ h.1
  | error error =>
    refine ⟨fun _ db' heq => ?_, fun _ => trivial⟩
    cases heq

end

section

variable {kindOf : OptionId → AttributeKind} {call : ℕ → Call} {s : Shared VariantDb Unit Phase}
  {i : ℕ} {l : Label} {m : Move VariantDb Unit Phase}

theorem createMove_kept (hdb : Matched kindOf s.db) (hphase : (s.phase i).Checked kindOf)
    (hm : createMove productId companyId dto l (s.phase i) s.db = some m) :
    Kept kindOf m ∧ KeepsKeys s (i, l) := by
  generalize hp : s.phase i = p at hm hphase
  unfold createMove at hm
  split at hm
  case h_1 =>
    cases hm
    exact ⟨kept_proceed fun _ _ => Resolved.nil, trivial⟩
  case h_2 =>
    cases hm
    exact ⟨kept_proceed fun _ hround => Resolved.round hdb.kinds hphase hround, trivial⟩
  case h_6 =>
    obtain ⟨hid, hm⟩ := Option.ite_none_right_eq_some.1 hm
    cases hm
    refine ⟨kept_finish_iff.2 fun db' hok => ?_, trivial⟩
    exact hdb.insertVariant hphase (Option.isNone_iff_eq_none.1 hid) hok
  case h_7 => cases hm
  all_goals
    cases hm
    exact ⟨kept_proceed fun _ _ => hphase, trivial⟩

theorem saveMove_kept (hdb : Matched kindOf s.db) (hphase : (s.phase i).Checked kindOf)
    (hm : saveMove l (s.phase i) s.db = some m) : Kept kindOf m ↔ KeepsKeys s (i, l) := by
  generalize hp : s.phase i = p at hm hphase
  unfold saveMove at hm
  split at hm
  case h_1 attributes entity =>
    obtain ⟨seen, -, rfl⟩ := Option.map_eq_some_iff.1 hm
    refine iff_of_true ?_ trivial
    cases attributes <;> exact hphase
  case h_2 attributes entity seen =>
    obtain ⟨row, hrow, rfl⟩ := Option.map_eq_some_iff.1 hm
    have hattributes : ∀ a ∈ attributes, Resolved kindOf a := by
      rintro a rfl
      exact hphase.1
    simp only [KeepsKeys, hp, hrow, Option.mem_def, Option.some.injEq, forall_eq']
    refine (kept_finish_iff.trans (hdb.saveVariant_iff hattributes)).trans (forall_congr' fun _ => ?_)
    have hmem : row ∈ s.db.variants.rows := Table.mem_of_find? hrow
    have hkept : (attributes = none → computeCombinationKey
        (savedIds attributes row.id s.db) = row.combinationKey) ∧ (attributes ≠ none →
        computeCombinationKey (savedIds attributes row.id s.db) = entity.combinationKey) := by
      cases attributes with
      | none => exact ⟨fun _ => (hdb.keys row hmem).symm, fun hne => absurd rfl hne⟩
      | some attributes => exact ⟨fun heq => absurd heq (Option.some_ne_none _), fun _ => hphase.2.symm⟩
    show mergeCol entity.combinationKey seen.combinationKey row.combinationKey =
      computeCombinationKey (savedIds attributes row.id s.db) ↔ _
    -- what is written is the entity's key, or else the row keeps its own
    by_cases hnone : attributes = none
    all_goals by_cases hsame : entity.combinationKey = seen.combinationKey
    · rw [mergeCol_of_eq hsame, hkept.1 hnone]
      exact iff_of_true rfl (.inl (iff_of_true hnone hsame))
    · rw [mergeCol_of_ne hsame, hkept.1 hnone, eq_comm]
      simp only [hnone, hsame, true_iff, false_or]
    · rw [mergeCol_of_eq hsame, hkept.2 hnone]
      simp only [hnone, hsame, false_iff, not_true, false_or]
    · rw [mergeCol_of_ne hsame, hkept.2 hnone]
      exact iff_of_true rfl (.inl (iff_of_false hnone hsame))
  case h_3 => cases hm

theorem updateMove_kept {id : Uuid} {dto : UpdateProductVariantDto} (hdb : Matched kindOf s.db)
    (hphase : (s.phase i).Checked kindOf)
    (hm : updateMove id companyId dto l (s.phase i) s.db = some m) :
    Kept kindOf m ↔ KeepsKeys s (i, l) := by
  generalize hp : s.phase i = p at hm
  unfold updateMove at hm
  split at hm
  case h_1 =>
    cases hm
    refine iff_of_true (kept_proceed fun variant _ => ?_) trivial
    unfold startUpdate
    split
    · exact trivial
    · exact Resolved.nil
  case h_2 =>
    cases hm
    rw [hp] at hphase
    refine iff_of_true (kept_proceed fun _ hround => ?_) trivial
    exact Resolved.round hdb.kinds hphase hround
  case h_3 =>
    cases hm
    rw [hp] at hphase
    exact iff_of_true (kept_proceed fun _ _ => ⟨hphase, rfl⟩) trivial
  case h_4 => exact saveMove_kept hdb hphase (hp.symm ▸ hm)

theorem statusMove_kept {id : Uuid} {status : ActiveStatus} (hdb : Matched kindOf s.db)
    (hphase : (s.phase i).Checked kindOf)
    (hm : statusMove id companyId status l (s.phase i) s.db = some m) :
    Kept kindOf m ↔ KeepsKeys s (i, l) := by
  generalize hp : s.phase i = p at hm
  unfold statusMove at hm
  split at hm
  case h_1 =>
    cases hm
    exact iff_of_true (kept_proceed fun _ _ => trivial) trivial
  case h_2 => exact saveMove_kept hdb hphase (hp.symm ▸ hm)

theorem removeMove_kept {id : Uuid} (hdb : Matched kindOf s.db)
    (hm : removeMove id companyId l (s.phase i) s.db = some m) :
    Kept kindOf m ∧ KeepsKeys s (i, l) := by
  generalize hp : s.phase i = p at hm
  unfold removeMove at hm
  split at hm
  case h_1 =>
    cases hm
    exact ⟨kept_proceed fun _ _ => trivial, trivial⟩
  case h_2 =>
    cases hm
    exact ⟨kept_proceed fun _ _ => trivial, trivial⟩
  case h_3 =>
    cases hm
    exact ⟨⟨⟨hdb.keys, hdb.apart, hdb.nodup, hdb.owned, hdb.kinds⟩, trivial⟩, trivial⟩
  case h_4 =>
    obtain ⟨row, hrow, rfl⟩ := Option.map_eq_some_iff.1 hm
    exact ⟨⟨hdb.softRemove (Table.mem_of_find? hrow), trivial⟩, trivial⟩
  case h_5 => cases hm

theorem elsewhereMove_kept {write : VariantDb → VariantDb} (hdb : Matched kindOf s.db)
    (hm : elsewhereMove kindOf write l (s.phase i) s.db = some m) :
    Kept kindOf m ∧ KeepsKeys s (i, l) := by
  generalize hp : s.phase i = p at hm
  unfold elsewhereMove at hm
  split at hm
  case h_1 =>
    obtain ⟨hkinds, hm⟩ := Option.ite_none_right_eq_some.1 hm
    cases hm
    refine ⟨⟨⟨hdb.keys, hdb.apart, hdb.nodup, hdb.owned, hkinds⟩, trivial⟩, ?_⟩
    simp only [KeepsKeys, hp]
  case h_2 => cases hm

theorem move_kept (hdb : Matched kindOf s.db) (hphase : ∀ j, (s.phase j).Checked kindOf)
    (hm : protocol kindOf call i l (s.phase i) s.db = some m) :
    Kept kindOf m ↔ KeepsKeys s (i, l) := by
  unfold protocol at hm
  split at hm
  case h_1 => exact (createMove_kept hdb (hphase i) hm).elim iff_of_true
  case h_2 => exact updateMove_kept hdb (hphase i) hm
  case h_3 => exact statusMove_kept hdb (hphase i) hm
  case h_4 => exact statusMove_kept hdb (hphase i) hm
  case h_5 => exact (removeMove_kept hdb hm).elim iff_of_true
  case h_6 => exact (elsewhereMove_kept hdb hm).elim iff_of_true

/-- The rows, removed ones too, are matched in every state of a run exactly when all its steps
meet the condition. -/
theorem rows_match_iff {db : VariantDb} (hdb : Matched kindOf db) {ls : List (ℕ × Label)}
    (hrun : (machine kindOf call).Run (.start db .called) ls s) :
    (∀ ks, ks <+: ls → ∀ s₁, (machine kindOf call).Run (.start db .called) ks s₁ →
        Matched kindOf s₁.db ∧ ∀ j, (s₁.phase j).Checked kindOf) ↔
      (machine kindOf call).RunWith KeepsKeys (.start db .called) ls s := by
  have hstart : ∀ j, ((Shared.start db .called : Shared VariantDb Unit Phase).phase j).Checked
      kindOf := fun _ => trivial
  exact states_iff_moves move_kept hdb hstart hrun

end

/-! ## A creation on its own -/

section

variable {kindOf : OptionId → AttributeKind} {call : ℕ → Call} {s : Shared VariantDb Unit Phase}
  {i : ℕ}

def createSteps (dto : CreateProductVariantDto) (id : Uuid) : List Label :=
  .read :: (List.replicate (dto.attributes.getD []).length .resolve ++
    [.measure, .check, .checkSku, .insert id])

def Succeeds (kindOf : OptionId → AttributeKind) (call : ℕ → Call)
    (s : Shared VariantDb Unit Phase) (i : ℕ) (ls : List Label) : Prop :=
  ∃ s', (machine kindOf call).Run s (ls.map (i, ·)) s' ∧ s'.phase i = .returned

def inPhase (s : Shared VariantDb Unit Phase) (i : ℕ) (p : Phase) : Shared VariantDb Unit Phase :=
  { s with phase := Function.update s.phase i p }

variable {ls : List Label}

theorem succeeds_cons {l : Label} {m : Move VariantDb Unit Phase}
    (hm : protocol kindOf call i l (s.phase i) s.db = some m) :
    Succeeds kindOf call s i (l :: ls) ↔
      ∃ s₁, s.move i m = some s₁ ∧ Succeeds kindOf call s₁ i ls := by
  have hstep : (machine kindOf call).step s (i, l) = s.move i m := by
    show (protocol kindOf call i l (s.phase i) s.db).bind (s.move i) = _
    rw [hm, Option.bind_some]
  constructor
  · rintro ⟨s', hrun, hend⟩
    cases hrun with
    | step _ hs hrest => exact ⟨_, hstep.symm.trans hs, _, hrest, hend⟩
  · rintro ⟨s₁, hmove, s', hrest, hend⟩
    exact ⟨s', .step trivial (hstep.trans hmove) hrest, hend⟩

theorem not_succeeds_failed {error : Failure}
    (hcall : call i = .create productId companyId dto) (hphase : s.phase i = .failed error) :
    ¬ Succeeds kindOf call s i ls := by
  rintro ⟨s', hrun, hend⟩
  cases ls with
  | nil =>
    cases hrun
    rw [hphase] at hend
    cases hend
  | cons l ls =>
    cases hrun with
    | step _ hs _ =>
      obtain ⟨m, hm, -⟩ := Option.bind_eq_some_iff.1 hs
      simp only [protocol, hcall, hphase] at hm
      cases l <;> cases hm

theorem succeeds_proceed {α : Type} (next : α → Phase) {r : Except Failure α} {l : Label} (hcall : call i = .create productId companyId dto)
    (hm : protocol kindOf call i l (s.phase i) s.db = some (proceed next r)) :
    Succeeds kindOf call s i (l :: ls) ↔
      ∃ a, r = .ok a ∧ Succeeds kindOf call (inPhase s i (next a)) i ls := by
  rw [succeeds_cons hm]
  cases r with
  | ok a =>
    constructor
    · rintro ⟨s₁, hmove, hrest⟩
      cases hmove
      exact ⟨a, rfl, hrest⟩
    · rintro ⟨b, heq, hrest⟩
      cases heq
      exact ⟨_, rfl, hrest⟩
  | error error =>
    constructor
    · rintro ⟨s₁, hmove, hrest⟩
      cases hmove
      exact absurd hrest (not_succeeds_failed hcall (Function.update_self ..))
    · rintro ⟨b, heq, -⟩
      cases heq

theorem isOk_bind {α β : Type} {r : Except Failure α} {f : α → Except Failure β} :
    (r >>= f).isOk = true ↔ ∃ a, r = .ok a ∧ (f a).isOk = true := by
  cases r with
  | ok a =>
    constructor
    · exact fun h => ⟨a, rfl, h⟩
    · rintro ⟨b, heq, h⟩
      cases heq
      exact h
  | error error =>
    constructor
    · intro h
      cases h
    · rintro ⟨b, heq, -⟩
      cases heq

@[simp] theorem inPhase_phase (s : Shared VariantDb Unit Phase) (i : ℕ) (p : Phase) :
    (inPhase s i p).phase i = p := Function.update_self ..

@[simp] theorem inPhase_inPhase (s : Shared VariantDb Unit Phase) (i : ℕ) (p q : Phase) :
    inPhase (inPhase s i p) i q = inPhase s i q := by
  unfold inPhase
  rw [Function.update_idem]

theorem inPhase_of_phase {p : Phase} (h : s.phase i = p) : inPhase s i p = s := by
  subst h
  unfold inPhase
  rw [Function.update_eq_self]

theorem succeeds_resolve (hcall : call i = .create productId companyId dto)
    (rest done : List AttributeInput) :
    Succeeds kindOf call (inPhase s i (.resolving none done rest)) i
        (List.replicate rest.length .resolve ++ ls) ↔
      ∃ attributes, rest.foldlM (resolveAttribute companyId s.db) done = .ok attributes ∧
        Succeeds kindOf call (inPhase s i (.resolving none attributes [])) i ls := by
  induction rest generalizing done with
  | nil =>
    constructor
    · exact fun h => ⟨done, rfl, h⟩
    · rintro ⟨attributes, heq, h⟩
      cases heq
      exact h
  | cons input rest ih =>
    rw [List.length_cons, List.replicate_succ, List.cons_append, succeeds_proceed
      (fun done => .resolving none done rest) (r := resolveAttribute companyId s.db done input)
      hcall]
    · simp only [inPhase_inPhase, ih, List.foldlM_cons]
      constructor
      · rintro ⟨done', hround, attributes, hrest, h⟩
        exact ⟨attributes, except_bind_eq_ok.2 ⟨done', hround, hrest⟩, h⟩
      · rintro ⟨attributes, hall, h⟩
        obtain ⟨done', hround, hrest⟩ := except_bind_eq_ok.1 hall
        exact ⟨done', hround, attributes, hrest, h⟩
    · simp only [protocol, hcall, inPhase_phase]
      rfl

/-- The steps of a creation, one after the other, succeed as `create` does. -/
theorem succeeds_iff_create {id : Uuid} (hcall : call i = .create productId companyId dto)
    (hphase : s.phase i = .called) (hid : s.db.variants.find? id = none) :
    Succeeds kindOf call s i (createSteps dto id) ↔
      (create id productId companyId dto s.db).isOk = true := by
  have hcheck : ∀ {α : Type} {next : α → Phase} {r : Except Failure α} {l : Label} {p : Phase}
      {ls : List Label}, createMove productId companyId dto l p s.db = some (proceed next r) →
      (Succeeds kindOf call (inPhase s i p) i (l :: ls) ↔
        ∃ a, r = .ok a ∧ Succeeds kindOf call (inPhase s i (next a)) i ls) := by
    intro α next r l p ls hm
    rw [succeeds_proceed next (r := r) hcall]
    · simp only [inPhase_inPhase]
    · simp only [protocol, hcall, inPhase_phase]
      exact hm
  rw [← inPhase_of_phase hphase, create, createSteps, hcheck rfl, isOk_bind]
  refine exists_congr fun _ => and_congr_right fun _ => ?_
  rw [succeeds_resolve hcall, isOk_bind]
  refine exists_congr fun attributes => and_congr_right fun _ => ?_
  rw [hcheck rfl, isOk_bind]
  refine exists_congr fun baseUomId => and_congr_right fun _ => ?_
  rw [hcheck rfl, isOk_bind]
  refine exists_congr fun _ => and_congr_right fun _ => ?_
  rw [hcheck rfl, isOk_bind]
  refine exists_congr fun _ => and_congr_right fun _ => ?_
  have hinsert : protocol kindOf call i (.insert id) ((inPhase s i (.unused attributes baseUomId)).phase i)
      s.db = some (finish (insertVariant id productId companyId dto attributes baseUomId s.db)) := by
    simp only [protocol, hcall, inPhase_phase, createMove, hid, Option.isNone_none, if_true]
  rw [succeeds_cons hinsert]
  show _ ↔ (insertVariant id productId companyId dto attributes baseUomId s.db).isOk = true
  cases insertVariant id productId companyId dto attributes baseUomId s.db with
  | ok db' =>
    refine iff_of_true ⟨_, rfl, _, .done _, ?_⟩ rfl
    exact Function.update_self ..
  | error error =>
    refine iff_of_false ?_ Bool.false_ne_true
    rintro ⟨s₁, hmove, hend⟩
    cases hmove
    exact not_succeeds_failed hcall (Function.update_self ..) hend

end

namespace VariantDemo

def color (id : OptionId) : AttributeOption :=
  { id := id, companyId := 10, kind := .Color, status := .Active }

def shirt (id : Uuid) (sku : String) (option : OptionId) : Variant :=
  { id := id, productId := 1, companyId := 10, sku := sku, combinationKey := option,
    costPrice := 500, sellingPrice := 900, baseUomId := none, status := .Active }

def db : VariantDb where
  base := {}
  products := [{ id := 1, companyId := 10 }]
  options := [color "black", color "white", color "red"]
  variants := .ofRows [shirt 5 "TS-1" "black", { shirt 6 "TS-2" "red" with deleted := true }]
  attributes := [⟨5, "black", .Color⟩, ⟨6, "red", .Color⟩]

def newShirt (sku : String) (option : OptionId) : CreateProductVariantDto :=
  { sku := sku, costPrice := 500, sellingPrice := 900, attributes := some [⟨.Color, option⟩] }

def calls (i : ℕ) : Call :=
  if i = 0 then .update 5 10 { costPrice := some 550 }
  else if i = 1 then .update 5 10 { attributes := some [⟨.Color, "white"⟩] }
  else if i = 2 then .create 1 10 (newShirt "TS-3" "black")
  else .create 1 10 (newShirt "TS-2" "white")

theorem matched : Matched (fun _ => .Color) db := by
  refine ⟨by decide +kernel, by decide +kernel, fun id => ?_, by decide +kernel, by decide⟩
  have hids : optionIds db id = (if 5 = id then ["black"] else []) ++ if 6 = id then ["red"] else [] := by
    unfold optionIds db
    by_cases h5 : 5 = id <;> by_cases h6 : 6 = id <;> simp [h5, h6]
  rw [hids]
  by_cases h5 : 5 = id
  · subst h5
    decide
  · by_cases h6 : 6 = id <;> simp [h5, h6]

end VariantDemo

end FashionErp.VariantRace
