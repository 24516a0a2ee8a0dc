/-
Prices created, updated, deactivated and removed beside each other.

None of the four locks what it has read.
-/
import FashionErp.Lib.CommitLaw
import FashionErp.Products.PriceListItems

namespace FashionErp.PriceRace

open Lib PriceListItemsService
open scoped Chronological

inductive Call
  | create (priceListId companyId : Uuid) (dto : CreatePriceListItemDto)
  | update (id companyId : Uuid) (dto : UpdatePriceListItemDto)
  | deactivate (id companyId : Uuid)
  | remove (id companyId : Uuid)

inductive Phase
  | called
  /-- `create` is at its `assertNoOverlap`. -/
  | resolved (uomId : Option Uuid)
  | checked (uomId : Option Uuid) (rows : List Item)
  /-- `update` is at its `assertNoOverlap`. -/
  | ranged (entity : Item)
  | saving (rows : List Item) (p : SavePhase Item)
  | removing
  /-- `deletedAt` is written and not committed yet. -/
  | removed
  | returned
  | rejected (error : Failure)
  /-- The connection is lost, or the database takes no `NULL` for `valid_from`. -/
  | aborted

inductive Label
  | read
  | check
  | lock
  | commit
  | save (l : SaveLabel)
  | abort

section

variable (column : TimestampColumn)

/-- The moves of `create`. -/
def createMove (priceListId companyId : Uuid) (dto : CreatePriceListItemDto) :
    Label → Phase → PriceDb → Option (Move PriceDb Uuid Phase)
  | .read, .called, db =>
    match resolveNew priceListId companyId dto db with
    | .ok uomId => some (.goto (.resolved uomId))
    | .error error => some (.leave (.rejected error))
  | .check, .resolved uomId, db =>
    let rows := candidates priceListId dto.productVariantId dto.validFrom db
    match assertNoOverlap uomId dto.validFrom dto.validTo none rows with
    | .ok _ => some (.goto (.checked uomId rows))
    | .error error => some (.leave (.rejected error))
  | .commit, .checked uomId _, db =>
    match dto.validFrom with
    | none => some (.leave .aborted)
    | some validFrom =>
      match insertItem (newItem column priceListId companyId dto uomId validFrom db.nextId) db with
      | .ok db' => some (.commit db' .returned)
      | .error error => some (.leave (.rejected error))
  | .abort, .resolved _, _ => some (.leave .aborted)
  | .abort, .checked _ _, _ => some (.leave .aborted)
  | _, _, _ => none

/-- The moves of `update`. -/
def updateMove (id companyId : Uuid) (dto : UpdatePriceListItemDto) :
    Label → Phase → PriceDb → Option (Move PriceDb Uuid Phase)
  | .read, .called, db =>
    match loadUpdate id companyId dto db with
    | .ok entity =>
      if dto.validTo = none then some (.goto (.saving [] (.changed entity)))
      else some (.goto (.ranged entity))
    | .error error => some (.leave (.rejected error))
  | .check, .ranged entity, db =>
    let rows := candidates entity.priceListId entity.productVariantId (some entity.validFrom) db
    match assertNoOverlap entity.uomId (some entity.validFrom) entity.validTo (some id) rows with
    | .ok _ => some (.goto (.saving rows (.changed entity)))
    | .error error => some (.leave (.rejected error))
  | .save l, .saving rows p, db =>
    (itemRow column id).saveMove id (.saving rows) .returned l p db
  | .abort, .ranged _, _ => some (.leave .aborted)
  | .abort, .saving _ _, _ => some (.leave .aborted)
  | _, _, _ => none

/-- The moves of `deactivate`. -/
def deactivateMove (id companyId : Uuid) :
    Label → Phase → PriceDb → Option (Move PriceDb Uuid Phase)
  | .read, .called, db =>
    match findByIdInCompany id companyId db with
    | .ok item => some (.goto (.saving [] (.changed (setInactive item))))
    | .error error => some (.leave (.rejected error))
  | .save l, .saving rows p, db =>
    (itemRow column id).saveMove id (.saving rows) .returned l p db
  | .abort, .saving _ _, _ => some (.leave .aborted)
  | _, _, _ => none

/-- The moves of `remove`. -/
def removeMove (id companyId : Uuid) :
    Label → Phase → PriceDb → Option (Move PriceDb Uuid Phase)
  | .read, .called, db =>
    match findByIdInCompany id companyId db with
    | .ok _ => some (.goto .removing)
    | .error error => some (.leave (.rejected error))
  | .lock, .removing, _ => some (.acquire id .removed)
  | .commit, .removed, db =>
    (db.items.find? id).map fun row =>
      .commit { db with items := db.items.save (markDeleted row) } .returned
  | .abort, .removing, _ => some (.leave .aborted)
  | .abort, .removed, _ => some (.leave .aborted)
  | _, _, _ => none

def protocol (call : ℕ → Call) : Protocol PriceDb Uuid Phase Label := fun i l p db =>
  match call i with
  | .create priceListId companyId dto => createMove column priceListId companyId dto l p db
  | .update id companyId dto => updateMove column id companyId dto l p db
  | .deactivate id companyId => deactivateMove column id companyId l p db
  | .remove id companyId => removeMove id companyId l p db

def machine (call : ℕ → Call) : Machine (Shared PriceDb Uuid Phase) (ℕ × Label) :=
  concurrent (protocol column call)

end

/-! ## The condition -/

def Meets (o r : Item) : Prop :=
  (o.InForce ∧ r.InForce ∧ o.slot = r.slot) ∧
    max o.validFrom r.validFrom ∈ upTo o.validFrom o.ends ∧
      max o.validFrom r.validFrom ∈ upTo r.validFrom r.ends

instance (o r : Item) : Decidable (Meets o r) :=
  inferInstanceAs (Decidable ((_ ∧ _ ∧ _) ∧ _ ∈ upTo _ _ ∧ _ ∈ upTo _ _))

/-- The end is not an invalid `Date`. -/
def Dated (validTo : Option JsDate) : Prop := validTo ≠ some none

instance (validTo : Option JsDate) : Decidable (Dated validTo) :=
  inferInstanceAs (Decidable (_ ≠ _))

/-- The condition on a step that writes a window: each row it meets is one the request has
checked, for this window. -/
def Respects (column : TimestampColumn) (call : ℕ → Call) (s : Shared PriceDb Uuid Phase) :
    ℕ × Label → Prop
  | (i, .commit) =>
    match call i, s.phase i with
    | .create priceListId companyId dto, .checked uomId rows =>
      ∀ validFrom ∈ dto.validFrom,
        let item := newItem column priceListId companyId dto uomId validFrom s.db.nextId
        (insertItem item s.db).isOk = true →
          ∀ o ∈ s.db.items.rows, Meets o item → o ∈ rows ∧ Dated dto.validTo
    | _, _ => True
  | (i, .save .commit) =>
    match s.phase i with
    | .saving rows (.updated entity seen _) =>
      ∀ current ∈ s.db.items.find? entity.id,
        let item := mergeItem column entity seen current
        ∀ o ∈ s.db.items.rows, o.id ≠ entity.id → Meets o item →
          o ∈ rows ∧ Dated entity.validTo ∧ item.validTo = column.store entity.validTo
    | _ => True
  | _ => True

instance (column : TimestampColumn) (call : ℕ → Call) (s : Shared PriceDb Uuid Phase)
    (l : ℕ × Label) : Decidable (Respects column call s l) := by
  unfold Respects
  split
  · split <;> infer_instance
  · haveI := @instDecidableForall
    split <;> infer_instance
  · infer_instance

/-! ## The invariant -/

structure Stored (column : TimestampColumn) (row : Item) : Prop where
  validFrom : column.keep row.validFrom = row.validFrom
  validTo : column.store row.validTo = row.validTo

/-- What holds of the table. -/
structure Good (column : TimestampColumn) (db : PriceDb) : Prop where
  apart : db.items.Apart Item.occupies
  stored : ∀ row ∈ db.items.rows, Stored column row
  fresh : ∀ row ∈ db.items.rows, row.id < db.nextId

structure Same (r r' : Item) : Prop where
  id : r'.id = r.id
  slot : r'.slot = r.slot
  validFrom : r'.validFrom = r.validFrom

theorem Same.refl (r : Item) : Same r r := ⟨rfl, rfl, rfl⟩

variable {r : Item}

theorem Same.trans {r₁ r₂ : Item} (h : Same r r₁) (h' : Same r₁ r₂) : Same r r₂ :=
  ⟨h'.id.trans h.id, h'.slot.trans h.slot, h'.validFrom.trans h.validFrom⟩

def Checked (sent : Option JsDate) (current : Item) (rows : List Item) : Prop :=
  ∀ o ∈ rows, ∃ validTo, sent = some validTo ∧
    overlapping current.uomId (some current.validFrom) (some validTo) (some current.id) o = false

/-- What is known of a save of `change`, which sends the end `sent`. -/
def SavingOk (column : TimestampColumn) (id : Uuid) (change : Item → Item) (sent : Option JsDate)
    (held : Uuid → Prop) (db : PriceDb) (rows : List Item) (p : SavePhase Item) : Prop :=
  SaveOk (itemRow column id) id Same change held db p ∧
    ∃ current, db.items.find? id = some current ∧ Checked sent current rows

def PhaseOk (column : TimestampColumn) (call : ℕ → Call) (held : Uuid → Prop) (db : PriceDb) (i : ℕ)
    (p : Phase) : Prop :=
  match call i, p with
  | .create _ _ dto, .checked uomId rows =>
    ∀ o ∈ rows, overlapping uomId dto.validFrom dto.validTo none o = false
  | .update id _ dto, .ranged entity =>
    dto.validTo ≠ none ∧ ∃ first current, entity = applyUpdate dto first ∧
      db.items.find? id = some current ∧ Same first current
  | .update id _ dto, .saving rows p =>
    SavingOk column id (applyUpdate dto) (dto.validTo.map newDate) held db rows p
  | .deactivate id _, .saving rows p => SavingOk column id setInactive none held db rows p
  | .remove id _, .removed => held id
  | _, _ => True

def Phase.Free : Phase → Prop
  | checked _ _ | ranged _ | saving _ _ | removed => False
  | _ => True

section

variable {column : TimestampColumn} {call : ℕ → Call} {db db' : PriceDb} {p : Phase}
  {i : ℕ} {held : Uuid → Prop}

theorem PhaseOk.of_free (hp : p.Free) : PhaseOk column call held db i p := by
  cases p with
  | checked | ranged | saving | removed => exact hp.elim
  | _ => unfold PhaseOk; split <;> trivial

/-! ## Windows that meet -/

theorem meets_iff {o : Item} : Meets o r ↔ ∃ x, x ∈ o.occupies ∧ x ∈ r.occupies := by
  constructor
  · rintro ⟨⟨ho, hr, hslot⟩, hmem⟩
    exact ⟨(r.slot, max o.validFrom r.validFrom), ⟨ho, hslot.symm, hmem.1⟩, hr, rfl, hmem.2⟩
  · rintro ⟨x, ⟨ho, hslot, hmem⟩, hr, hslot', hmem'⟩
    exact ⟨⟨ho, hr, hslot.symm.trans hslot'⟩, exists_mem_upTo_iff.1 ⟨x.2, hmem, hmem'⟩⟩

variable {item : Item}

theorem apart_save_iff_meets (h : db.items.Apart Item.occupies) :
    (db.items.save item).Apart Item.occupies ↔
      ∀ o ∈ db.items.rows, o.id ≠ item.id → ¬ Meets o item := by
  rw [Table.apart_save_iff h]
  constructor
  · intro hothers o ho hne hmeets
    obtain ⟨x, hx⟩ := meets_iff.1 hmeets
    exact hothers o ho hne x hx
  · intro hothers o ho hne x hx
    exact hothers o ho hne (meets_iff.2 ⟨x, hx⟩)

theorem startsBefore_some {a b : Instant} : startsBefore (some a) (some (some b)) = decide (a < b) :=
  rfl

theorem Stored.ends {row : Item} (h : Stored column row) :
    row.validTo = none ∨ ∃ e, row.validTo = some (some e) ∧ column.keep e = e := by
  have hstore := h.validTo
  cases hto : row.validTo with
  | none => exact .inl rfl
  | some validTo =>
    rw [hto] at hstore
    cases validTo with
    | none => cases hstore
    | some e => exact .inr ⟨e, rfl, Option.some.inj (Option.some.inj hstore)⟩

/-- A row that passed the check does not meet the window that was checked. The columns
round both ends of it the same way. -/
theorem not_meets_of_checked {o : Item} {uomId : Option Uuid} {validFrom : Instant}
    {validTo : Option JsDate} {excludeId : Option Uuid} (ho : Stored column o)
    (hother : some o.id ≠ excludeId) (huom : r.uomId = uomId)
    (hfrom : r.validFrom = column.keep validFrom) (hto : r.validTo = column.store validTo)
    (hdated : Dated validTo)
    (hchecked : overlapping uomId (some validFrom) validTo excludeId o = false) : ¬ Meets o r := by
  rintro ⟨⟨-, -, hslot⟩, ⟨hstart, hend⟩, hstart', hend'⟩
  have hsame : o.uomId = uomId := huom ▸ congrArg (fun slot => slot.2.2) hslot
  generalize max o.validFrom r.validFrom = t at hstart hend hstart' hend'
  simp only [overlapping, decide_eq_true hother, hsame, decide_true, Bool.true_and,
    Bool.and_eq_false_iff] at hchecked
  rcases hchecked with hbefore | hbefore
  · -- The new window ends before the row's starts.
    cases validTo with
    | none => cases hbefore
    | some validTo =>
      cases validTo with
      | none => exact hdated rfl
      | some e =>
        rw [startsBefore_some, decide_eq_false_iff_not, not_lt] at hbefore
        have hlt : t < column.keep e := hend' (column.keep e) (by rw [Item.ends, hto]; rfl)
        have hle : column.keep e ≤ o.validFrom := by
          rw [← ho.validFrom]
          exact column.keep_le _ _ hbefore
        exact absurd (lt_of_lt_of_le hlt (hle.trans hstart)) (lt_irrefl t)
  · -- The row's window ends before the new one starts.
    rcases ho.ends with hnone | ⟨e, he, hkeep⟩
    · rw [hnone] at hbefore
      cases hbefore
    · rw [he, startsBefore_some, decide_eq_false_iff_not, not_lt] at hbefore
      have hlt : t < e := hend e (by rw [Item.ends, he]; rfl)
      have hle : e ≤ r.validFrom := by
        rw [hfrom, ← hkeep]
        exact column.keep_le _ _ hbefore
      exact absurd (lt_of_lt_of_le hlt (hle.trans hstart')) (lt_irrefl t)

/-! ## What the commits do -/

/-- What a commit leaves of the rows others have read: all of them, in their slots, and
unchanged where they are held. -/
def Stands (held : Uuid → Prop) (db db' : PriceDb) : Prop :=
  ∀ id r, db.items.find? id = some r →
    ∃ r', db'.items.find? id = some r' ∧ Same r r' ∧ (held id → r' = r)

theorem Checked.mono {sent : Option JsDate} {r' : Item} {rows : List Item}
    (h : Checked sent r rows) (hsame : Same r r') : Checked sent r' rows := by
  intro o ho
  obtain ⟨validTo, hsent, hover⟩ := h o ho
  have huom : r'.uomId = r.uomId := congrArg (fun slot => slot.2.2) hsame.slot
  refine ⟨validTo, hsent, ?_⟩
  rw [huom, hsame.validFrom, hsame.id]
  exact hover

theorem SavingOk.mono {id : Uuid} {change : Item → Item} {sent : Option JsDate}
    {rows : List Item} {p : SavePhase Item} (h : SavingOk column id change sent held db rows p)
    (hstands : Stands held db db') : SavingOk column id change sent held db' rows p := by
  obtain ⟨hsave, current, hcurrent, hchecked⟩ := h
  obtain ⟨r', hr', hsame, -⟩ := hstands id current hcurrent
  refine ⟨hsave.mono (fun _ _ _ h h' => h.trans h') fun r hr => ?_, r', hr', hchecked.mono hsame⟩
  exact hstands id r hr

theorem PhaseOk.mono {j : ℕ} (h : PhaseOk column call held db j p) (hstands : Stands held db db') :
    PhaseOk column call held db' j p := by
  unfold PhaseOk at h ⊢
  split
  case h_1 hcall =>
    simp only [hcall] at h
    exact h
  case h_2 hcall =>
    simp only [hcall] at h
    obtain ⟨hsent, first, current, hentity, hcurrent, hfirst⟩ := h
    obtain ⟨r', hr', hsame, -⟩ := hstands _ current hcurrent
    exact ⟨hsent, first, r', hentity, hr', hfirst.trans hsame⟩
  case h_3 hcall =>
    simp only [hcall] at h
    exact h.mono hstands
  case h_4 hcall =>
    simp only [hcall] at h
    exact h.mono hstands
  case h_5 hcall =>
    simp only [hcall] at h
    exact h
  case h_6 => trivial

theorem stands_save {current : Item}
    (hfind : db.items.find? item.id = some current) (hsame : Same current item)
    (hheld : held item.id) :
    Stands (fun k => ¬ held k) db { db with items := db.items.save item } := by
  intro id r hr
  show ∃ r', (db.items.save item).find? id = some r' ∧ _
  rw [Table.find?_save]
  by_cases hid : key item = id
  · have hid' : item.id = id := hid
    rw [← hid', hfind] at hr
    cases hr
    exact ⟨item, if_pos hid, hsame, fun hnot => absurd hheld (hid' ▸ hnot)⟩
  · exact ⟨r, (if_neg hid).trans hr, .refl r, fun _ => rfl⟩

theorem Good.save_over (hdb : Good column db) {current : Item}
    (hfind : db.items.find? item.id = some current) (hstored : Stored column item)
    (hapart : (db.items.save item).Apart Item.occupies) :
    Good column { db with items := db.items.save item } where
  apart := hapart
  stored := Table.forall_save hdb.stored hstored
  fresh := Table.forall_save hdb.fresh <| by
    have hid : current.id = item.id := Table.key_of_find? hfind
    exact hid ▸ hdb.fresh current (Table.mem_of_find? hfind)

theorem store_store (validTo : Option JsDate) :
    column.store (column.store validTo) = column.store validTo := by
  rcases validTo with _ | _ | t
  · rfl
  · rfl
  · exact congrArg (fun t => some (some t)) (column.keep_keep t)

/-! ### A creation -/

section

variable {priceListId companyId : Uuid} {dto : CreatePriceListItemDto} {uomId : Option Uuid}
  {validFrom : Instant} {rows : List Item}

theorem stored_newItem (id : Uuid) :
    Stored column (newItem column priceListId companyId dto uomId validFrom id) :=
  ⟨column.keep_keep validFrom, store_store dto.validTo⟩

theorem insertItem_ok (h : insertItem item db = .ok db') :
    db' = { db with items := db.items.save item, nextId := db.nextId + 1 } := by
  obtain ⟨_, -, h⟩ := except_bind_eq_ok.1 h
  exact (Except.ok.inj h).symm

theorem ne_nextId (hdb : Good column db) {o : Item} (ho : o ∈ db.items.rows) : o.id ≠ db.nextId :=
  Nat.ne_of_lt (hdb.fresh o ho)

/-- The condition on a creation is exact. -/
theorem apart_insert_iff (hdb : Good column db)
    (hchecked : ∀ o ∈ rows, overlapping uomId (some validFrom) dto.validTo none o = false) :
    (db.items.save (newItem column priceListId companyId dto uomId validFrom db.nextId)).Apart
        Item.occupies ↔
      ∀ o ∈ db.items.rows,
        Meets o (newItem column priceListId companyId dto uomId validFrom db.nextId) →
          o ∈ rows ∧ Dated dto.validTo := by
  rw [apart_save_iff_meets hdb.apart]
  constructor
  · intro hothers o ho hmeets
    exact absurd hmeets (hothers o ho (ne_nextId hdb ho))
  · intro hknown o ho _ hmeets
    obtain ⟨hread, hdated⟩ := hknown o ho hmeets
    exact not_meets_of_checked (hdb.stored o ho) (by simp) rfl rfl rfl hdated (hchecked o hread)
      hmeets

theorem good_insert (hdb : Good column db)
    (hapart : (db.items.save (newItem column priceListId companyId dto uomId validFrom
      db.nextId)).Apart Item.occupies) :
    Good column { db with
      items := db.items.save (newItem column priceListId companyId dto uomId validFrom db.nextId)
      nextId := db.nextId + 1 } where
  apart := hapart
  stored := Table.forall_save hdb.stored (stored_newItem db.nextId)
  fresh := Table.forall_save (fun row hrow => Nat.lt_succ_of_lt (hdb.fresh row hrow))
    (Nat.lt_succ_self db.nextId)

theorem stands_insert (hdb : Good column db) (hid : item.id = db.nextId) :
    Stands held db { db with items := db.items.save item, nextId := db.nextId + 1 } := by
  intro id r hr
  refine ⟨r, ?_, .refl r, fun _ => rfl⟩
  have hne : key item ≠ id := by
    rw [← Table.key_of_find? hr]
    exact fun h => ne_nextId hdb (Table.mem_of_find? hr) (h.symm.trans hid)
  exact (Table.find?_save_ne _ _ _ hne).trans hr

end

/-! ### A save -/

section

variable {id : Uuid} {change : Item → Item} {sent : Option JsDate} {rows : List Item}
  {first seen current : Item}

theorem same_merge (hstored : Stored column current) (hchange : Same first (change first))
    (hseen : Same first seen) : Same current (mergeItem column (change first) seen current) := by
  have hslot : (change first).slot = seen.slot := hchange.slot.trans hseen.slot.symm
  obtain ⟨hlist, hvariant, huom⟩ : (change first).priceListId = seen.priceListId ∧
      (change first).productVariantId = seen.productVariantId ∧
        (change first).uomId = seen.uomId := by
    simpa only [Item.slot, Prod.mk.injEq] using hslot
  refine ⟨rfl, ?_, ?_⟩
  · simp only [Item.slot, mergeItem, mergeCol_of_eq hlist, mergeCol_of_eq hvariant,
      mergeCol_of_eq huom]
  · simp only [mergeItem, mergeCol_of_eq (hchange.validFrom.trans hseen.validFrom.symm)]
    exact hstored.validFrom

theorem stored_merge (entity seen current : Item) :
    Stored column (mergeItem column entity seen current) :=
  ⟨column.keep_keep _, store_store _⟩

/-- The condition on a save is exact. -/
theorem apart_merge_iff (hdb : Good column db) (hfind : db.items.find? id = some current)
    (hchange : Same first (change first)) (hseen : Same first seen) (hcurrent : Same seen current)
    (hsent : ∀ validTo, sent = some validTo → (change first).validTo = some validTo)
    (hchecked : Checked sent current rows) :
    (db.items.save (mergeItem column (change first) seen current)).Apart Item.occupies ↔
      ∀ o ∈ db.items.rows, o.id ≠ (change first).id →
        Meets o (mergeItem column (change first) seen current) →
          o ∈ rows ∧ Dated (change first).validTo ∧
            (mergeItem column (change first) seen current).validTo =
              column.store (change first).validTo := by
  have hsame := same_merge (hdb.stored current (Table.mem_of_find? hfind)) hchange hseen
  have hid : (mergeItem column (change first) seen current).id = (change first).id :=
    (hcurrent.id.trans hseen.id).trans hchange.id.symm
  rw [apart_save_iff_meets hdb.apart, hid]
  constructor
  · intro hothers o ho hne hmeets
    exact absurd hmeets (hothers o ho hne)
  · intro hknown o ho hne hmeets
    obtain ⟨hread, hdated, hto⟩ := hknown o ho hne hmeets
    obtain ⟨validTo, hvalidTo, hover⟩ := hchecked o hread
    rw [hsent validTo hvalidTo] at hdated hto
    have hstored := hdb.stored current (Table.mem_of_find? hfind)
    have huom : (mergeItem column (change first) seen current).uomId = current.uomId :=
      congrArg (fun slot => slot.2.2) hsame.slot
    refine not_meets_of_checked (hdb.stored o ho) (fun h => hne ?_) huom
      (hsame.validFrom.trans hstored.validFrom.symm) hto hdated hover hmeets
    exact (Option.some.inj h).trans (hsame.id.symm.trans hid)

end

/-! ## Steps and runs -/

structure Changes (change : Item → Item) (sent : Option JsDate) : Prop where
  same : ∀ r, Same r (change r)
  sent : ∀ r validTo, sent = some validTo → (change r).validTo = some validTo

theorem changes_applyUpdate (dto : UpdatePriceListItemDto) :
    Changes (applyUpdate dto) (dto.validTo.map newDate) where
  same _ := ⟨rfl, rfl, rfl⟩
  sent r validTo hsent := by
    obtain ⟨date, hdate, rfl⟩ := Option.map_eq_some_iff.1 hsent
    simp only [applyUpdate, nextValidTo, hdate]

theorem changes_setInactive : Changes setInactive none :=
  ⟨fun _ => ⟨rfl, rfl, rfl⟩, fun _ _ h => by cases h⟩

/-- The moves of a request: one of the three commits, or nobody sees it. -/
inductive MoveCase (column : TimestampColumn) (call : ℕ → Call) (held : Uuid → Prop) (db : PriceDb)
    (i : ℕ) : Label → Phase → Move PriceDb Uuid Phase → Prop
  | quiet {l p m} (hok : Shared.MoveOk (fun _ => False) (PhaseOk column call) held db i m) :
    MoveCase column call held db i l p m
  | inserted {priceListId companyId dto uomId rows validFrom db'}
      (hcall : call i = .create priceListId companyId dto) (hfrom : dto.validFrom = some validFrom)
      (hchecked : ∀ o ∈ rows, overlapping uomId (some validFrom) dto.validTo none o = false)
      (hinsert : insertItem
        (newItem column priceListId companyId dto uomId validFrom db.nextId) db = .ok db') :
    MoveCase column call held db i .commit (.checked uomId rows) (.commit db' .returned)
  | saved {id change sent rows first seen current entity row} (hchanges : Changes change sent)
      (hentity : entity = change first) (hfind : db.items.find? id = some current)
      (hseen : Same first seen) (hcurrent : Same seen current) (hheld : held id)
      (hchecked : Checked sent current rows)
      (hrow : row = mergeItem column (change first) seen current) :
    MoveCase column call held db i (.save .commit) (.saving rows (.updated entity seen row))
      (.commit ((itemRow column id).put row db) .returned)
  | removed {id companyId row} (hcall : call i = .remove id companyId)
      (hfind : db.items.find? id = some row) (hheld : held id) :
    MoveCase column call held db i .commit .removed
      (.commit { db with items := db.items.save (markDeleted row) } .returned)

variable {l : Label}

theorem MoveCase.leave {q : Phase} (hq : q.Free) :
    MoveCase column call held db i l p (.leave q) := by
  refine .quiet ?_
  show PhaseOk column call (fun _ => False) db i q
  exact .of_free hq

theorem MoveCase.goto {q : Phase} (hq : q.Free) : MoveCase column call held db i l p (.goto q) := by
  refine .quiet ?_
  show PhaseOk column call held db i q
  exact .of_free hq

theorem findItem_ok {id companyId : Uuid} (h : findByIdInCompany id companyId db = .ok item) :
    db.items.find? id = some item :=
  (Option.filter_eq_some_iff.1 (orRefuse_eq_ok.1 h)).1

theorem loadUpdate_ok {id companyId : Uuid} {dto : UpdatePriceListItemDto} {entity : Item}
    (h : loadUpdate id companyId dto db = .ok entity) :
    ∃ item, db.items.find? id = some item ∧ entity = applyUpdate dto item := by
  obtain ⟨item, hfind, h⟩ := except_bind_eq_ok.1 h
  obtain ⟨_, -, h⟩ := except_bind_eq_ok.1 h
  obtain ⟨_, -, h⟩ := except_bind_eq_ok.1 h
  exact ⟨item, findItem_ok hfind, (Except.ok.inj h).symm⟩

theorem assertNoOverlap_ok {uomId : Option Uuid} {validFrom : JsDate} {validTo : Option JsDate}
    {excludeId : Option Uuid} {rows : List Item} {u : Unit}
    (h : assertNoOverlap uomId validFrom validTo excludeId rows = .ok u) :
    ∀ o ∈ rows, overlapping uomId validFrom validTo excludeId o = false := by
  have hnone := refuseIf_eq_ok.1 h
  rw [Bool.not_eq_true, List.any_eq_false] at hnone
  intro o ho
  exact Bool.eq_false_iff.2 (hnone o ho)

variable {m : Move PriceDb Uuid Phase}

theorem createMove_cases {priceListId companyId : Uuid} {dto : CreatePriceListItemDto}
    (hcall : call i = .create priceListId companyId dto) (h : PhaseOk column call held db i p)
    (hm : createMove column priceListId companyId dto l p db = some m) :
    MoveCase column call held db i l p m := by
  unfold createMove at hm
  split at hm
  case h_1 =>
    split at hm
    · cases hm
      exact .goto trivial
    · cases hm
      exact .leave trivial
  case h_2 uomId =>
    dsimp only at hm
    split at hm
    · rename_i hassert
      cases hm
      refine .quiet ?_
      simp only [Shared.MoveOk, PhaseOk, hcall]
      exact assertNoOverlap_ok hassert
    · cases hm
      exact .leave trivial
  case h_3 uomId rows =>
    simp only [PhaseOk, hcall] at h
    split at hm
    · cases hm
      exact .leave trivial
    · rename_i validFrom hfrom
      split at hm
      · rename_i db' hinsert
        cases hm
        exact .inserted hcall hfrom (hfrom ▸ h) hinsert
      · cases hm
        exact .leave trivial
  case h_6 => cases hm
  all_goals
    cases hm
    exact .leave trivial

theorem saveMove_cases {l : SaveLabel} {p : SavePhase Item} {id : Uuid} {change : Item → Item} {sent : Option JsDate}
    {rows : List Item} (hchanges : Changes change sent)
    (hok : ∀ held' db' q, PhaseOk column call held' db' i (.saving rows q) =
      SavingOk column id change sent held' db' rows q)
    (h : SavingOk column id change sent held db rows p)
    (hm : (itemRow column id).saveMove id (.saving rows) .returned l p db = some m) :
    MoveCase column call held db i (.save l) (.saving rows p) m := by
  obtain ⟨hsave, current, hcurrent, hchecked⟩ := h
  rcases hsave.move Same.refl hm with ⟨q, rfl, hq⟩ | ⟨q, rfl, hq⟩ | ⟨entity, seen, row, rfl, rfl, rfl⟩
  · refine .quiet ?_
    simp only [Shared.MoveOk, hok]
    exact ⟨hq, current, hcurrent, hchecked⟩
  · refine .quiet ?_
    simp only [Shared.MoveOk, hok]
    exact ⟨hq, current, hcurrent, hchecked⟩
  · obtain ⟨first, current', hentity, hfind, hseen, hsame, hheld, hrow⟩ := hsave
    obtain rfl := Option.some.inj (hcurrent.symm.trans hfind)
    exact .saved hchanges hentity hcurrent hseen hsame hheld hchecked (hentity ▸ hrow)

theorem updateMove_cases {id companyId : Uuid} {dto : UpdatePriceListItemDto}
    (hcall : call i = .update id companyId dto) (h : PhaseOk column call held db i p)
    (hm : updateMove column id companyId dto l p db = some m) :
    MoveCase column call held db i l p m := by
  unfold updateMove at hm
  split at hm
  case h_1 =>
    split at hm
    · rename_i entity hload
      obtain ⟨item, hfind, rfl⟩ := loadUpdate_ok hload
      split at hm
      · cases hm
        refine .quiet ?_
        simp only [Shared.MoveOk, PhaseOk, hcall]
        exact ⟨⟨item, item, rfl, hfind, .refl item⟩, item, hfind, fun _ h => (List.not_mem_nil h).elim⟩
      · rename_i hsent
        cases hm
        refine .quiet ?_
        simp only [Shared.MoveOk, PhaseOk, hcall]
        exact ⟨hsent, item, item, rfl, hfind, .refl item⟩
    · cases hm
      exact .leave trivial
  case h_2 entity =>
    simp only [PhaseOk, hcall] at h
    obtain ⟨hsent, first, current, rfl, hfind, hsame⟩ := h
    dsimp only at hm
    split at hm
    · rename_i hassert
      cases hm
      have hpassed := assertNoOverlap_ok hassert
      obtain ⟨date, hdate⟩ := Option.ne_none_iff_exists'.1 hsent
      have hid : current.id = id := Table.key_of_find? hfind
      have hto : (applyUpdate dto first).validTo = some (newDate date) := by
        simp only [applyUpdate, nextValidTo, hdate]
      have huom : current.uomId = first.uomId := congrArg (fun slot => slot.2.2) hsame.slot
      refine .quiet ?_
      simp only [Shared.MoveOk, PhaseOk, hcall]
      refine ⟨⟨first, current, rfl, hfind, hsame⟩, current, hfind, fun o ho => ?_⟩
      refine ⟨newDate date, by rw [hdate]; rfl, ?_⟩
      rw [huom, hsame.validFrom, hid, ← hto]
      exact hpassed o ho
    · cases hm
      exact .leave trivial
  case h_3 l rows p =>
    simp only [PhaseOk, hcall] at h
    exact saveMove_cases (changes_applyUpdate dto) (fun _ _ _ => by simp only [PhaseOk, hcall]) h hm
  case h_6 => cases hm
  all_goals
    cases hm
    exact .leave trivial

theorem deactivateMove_cases {id companyId : Uuid} (hcall : call i = .deactivate id companyId)
    (h : PhaseOk column call held db i p) (hm : deactivateMove column id companyId l p db = some m) :
    MoveCase column call held db i l p m := by
  unfold deactivateMove at hm
  split at hm
  case h_1 =>
    split at hm
    · rename_i item hread
      have hfind := findItem_ok hread
      cases hm
      refine .quiet ?_
      simp only [Shared.MoveOk, PhaseOk, hcall]
      exact ⟨⟨item, item, rfl, hfind, .refl item⟩, item, hfind, fun _ h => (List.not_mem_nil h).elim⟩
    · cases hm
      exact .leave trivial
  case h_2 l rows p =>
    simp only [PhaseOk, hcall] at h
    exact saveMove_cases changes_setInactive (fun _ _ _ => by simp only [PhaseOk, hcall]) h hm
  case h_3 =>
    cases hm
    exact .leave trivial
  case h_4 => cases hm

theorem removeMove_cases {id companyId : Uuid} (hcall : call i = .remove id companyId)
    (h : PhaseOk column call held db i p) (hm : removeMove id companyId l p db = some m) :
    MoveCase column call held db i l p m := by
  unfold removeMove at hm
  split at hm
  case h_1 =>
    split at hm
    · cases hm
      exact .goto trivial
    · cases hm
      exact .leave trivial
  case h_2 =>
    cases hm
    refine .quiet ?_
    simp only [Shared.MoveOk, PhaseOk, hcall, true_or]
  case h_3 =>
    simp only [PhaseOk, hcall] at h
    obtain ⟨row, hfind, rfl⟩ := Option.map_eq_some_iff.1 hm
    exact .removed hcall hfind h
  case h_6 => cases hm
  all_goals
    cases hm
    exact .leave trivial

theorem protocol_cases (h : PhaseOk column call held db i p)
    (hm : protocol column call i l p db = some m) : MoveCase column call held db i l p m := by
  unfold protocol at hm
  split at hm
  · exact createMove_cases ‹_› h hm
  · exact updateMove_cases ‹_› h hm
  · exact deactivateMove_cases ‹_› h hm
  · exact removeMove_cases ‹_› h hm

def Inv (column : TimestampColumn) (call : ℕ → Call) (s : Shared PriceDb Uuid Phase) : Prop :=
  s.Inv (Good column) (PhaseOk column call)

variable {s : Shared PriceDb Uuid Phase}

theorem respects_of_quiet (hp : s.phase i = p) (hm : protocol column call i l p s.db = some m)
    (hquiet : ∀ db p, m ≠ .commit db p) : Respects column call s (i, l) := by
  cases l with
  | commit =>
    simp only [Respects]
    split
    · rename_i priceListId companyId dto uomId rows hcall hphase
      intro validFrom hfrom hok
      obtain rfl := hp.symm.trans hphase
      simp only [protocol, hcall, createMove, Option.mem_def.1 hfrom] at hm
      split at hm
      · exact absurd (Option.some.inj hm).symm (hquiet _ _)
      · rename_i herror
        rw [herror] at hok
        cases hok
    · trivial
  | save l =>
    cases l with
    | commit =>
      simp only [Respects]
      split
      · rename_i hphase
        obtain rfl := hp.symm.trans hphase
        unfold protocol at hm
        split at hm
        · cases hm
        · exact absurd (Option.some.inj hm).symm (hquiet _ _)
        · exact absurd (Option.some.inj hm).symm (hquiet _ _)
        · cases hm
      · trivial
    | _ => trivial
  | _ => trivial

/-- What a commit comes to: the rows stay apart exactly when it meets the condition, and if
they do, everything else that is known stays so. -/
theorem commit_ok {db' : PriceDb} {q : Phase} (h : Inv column call s)
    (hm : protocol column call i l (s.phase i) s.db = some (.commit db' q)) :
    (db'.items.Apart Item.occupies ↔ Respects column call s (i, l)) ∧
      (db'.items.Apart Item.occupies →
        Good column db' ∧ q.Free ∧ Stands (fun k => ¬ s.Holds i k) s.db db') := by
  have hi := h.phase i
  generalize hp : s.phase i = p at hi hm
  generalize hmove : Move.commit db' q = m at hm
  cases protocol_cases hi hm with
  | quiet hok =>
    subst hmove
    exact hok.1.elim
  | @inserted priceListId companyId dto uomId rows validFrom db₁ hcall hfrom hchecked hinsert =>
    obtain ⟨rfl, rfl⟩ := Move.commit.inj hmove
    have hok : (insertItem (newItem column priceListId companyId dto uomId validFrom
        s.db.nextId) s.db).isOk = true := by
      rw [hinsert]
      rfl
    obtain rfl := insertItem_ok hinsert
    constructor
    · simp only [Respects, hcall, hp, hfrom, Option.mem_def, Option.some.injEq, forall_eq', hok,
        forall_true_left]
      exact apart_insert_iff h.db hchecked
    · intro hapart
      exact ⟨good_insert h.db hapart, trivial, stands_insert h.db rfl⟩
  | @saved id change sent rows first seen current entity row hchanges hentity hfind hseen hcurrent
      hheld hchecked hrow =>
    obtain ⟨rfl, rfl⟩ := Move.commit.inj hmove
    subst hentity hrow
    have hsame := same_merge (h.db.stored current (Table.mem_of_find? hfind)) (hchanges.same first)
      hseen
    have hid : current.id = id := Table.key_of_find? hfind
    have hmerged : (mergeItem column (change first) seen current).id = id := hid
    have hfirst : (change first).id = id := by
      rw [(hchanges.same first).id, ← hseen.id, ← hcurrent.id, hid]
    have hfind' : s.db.items.find? (mergeItem column (change first) seen current).id =
        some current := hmerged ▸ hfind
    constructor
    · simp only [Respects, hp, hfirst, hfind, Option.mem_def, Option.some.injEq, forall_eq']
      have hexact := apart_merge_iff h.db hfind (hchanges.same first) hseen hcurrent
        (hchanges.sent first) hchecked
      rw [hfirst] at hexact
      exact hexact
    · intro hapart
      exact ⟨h.db.save_over hfind' (stored_merge _ _ _) hapart, trivial,
        stands_save hfind' hsame (hmerged ▸ hheld)⟩
  | @removed id companyId row hcall hfind hheld =>
    obtain ⟨rfl, rfl⟩ := Move.commit.inj hmove
    have hid : row.id = id := Table.key_of_find? hfind
    have hfind' : s.db.items.find? (markDeleted row).id = some row :=
      show s.db.items.find? row.id = some row by rw [hid]; exact hfind
    have hapart : (s.db.items.save (markDeleted row)).Apart Item.occupies := by
      refine h.db.apart.save_shrink hfind' fun x hx => ?_
      -- A removed row takes up nothing.
      exact absurd hx.1.2 Bool.noConfusion
    have hstored := h.db.stored row (Table.mem_of_find? hfind)
    constructor
    · simp only [Respects, hcall, hp, iff_true]
      exact hapart
    · intro _
      refine ⟨h.db.save_over hfind' ⟨hstored.validFrom, hstored.validTo⟩ hapart, trivial, ?_⟩
      refine stands_save hfind' ⟨rfl, rfl, rfl⟩ ?_
      show s.Holds i row.id
      rw [hid]
      exact hheld

theorem Stands.weaken {held' : Uuid → Prop} (h : Stands held db db')
    (hheld : ∀ k, held' k → held k) : Stands held' db db' := by
  intro id r hr
  obtain ⟨r', hr', hsame, hkept⟩ := h id r hr
  exact ⟨r', hr', hsame, fun hid => hkept (hheld id hid)⟩

theorem commitLaw (column : TimestampColumn) (call : ℕ → Call) :
    CommitLaw (protocol column call) (Good column) (PhaseOk column call) Stands
      (fun db => db.items.Apart Item.occupies) (Respects column call) where
  good := Good.apart
  mono := PhaseOk.mono
  weaken := Stands.weaken
  quiet {s i l m} h hm hquiet := by
    have hi := h.phase i
    generalize hp : s.phase i = p at hi hm
    refine ⟨?_, respects_of_quiet hp hm hquiet⟩
    cases protocol_cases hi hm with
    | quiet hok => exact hok
    | _ => exact absurd rfl (hquiet _ _)
  commit h hm := by
    obtain ⟨hexact, hkept⟩ := commit_ok h hm
    refine ⟨hexact, fun hapart => ?_⟩
    obtain ⟨hgood, hfree, hstands⟩ := hkept hapart
    exact ⟨⟨hgood, .of_free hfree⟩, hstands⟩

/-- One price at a time, in every state of a run of any creations, updates, deactivations and
removals, exactly when whatever row meets a window that is written was among the rows its
request has checked, for this window, whose end is no invalid `Date`. -/
theorem one_price_iff (column : TimestampColumn) (call : ℕ → Call) {db : PriceDb}
    {ls : List (ℕ × Label)} {s : Shared PriceDb Uuid Phase} (hdb : Good column db)
    (hrun : (machine column call).Run (.start db .called) ls s) :
    (∀ ks, ks <+: ls → ∀ s', (machine column call).Run (.start db .called) ks s' →
      OnePrice s'.db) ↔
      (machine column call).RunWith (Respects column call) (.start db .called) ls s := by
  have hstart : Inv column call (.start db .called) :=
    Shared.inv_start hdb fun _ _ => .of_free (p := .called) trivial
  have hiff := (commitLaw column call).run_iff hstart hrun
  rw [machine, ← hiff]
  constructor
  · intro hone ks hks s' hrun'
    exact (hone ks hks s' hrun').apart
  · intro hapart ks hks s' hrun'
    exact .of_apart (hapart ks hks s' hrun')

end

/-! Two open-ended prices for one variant. -/

namespace PriceDemo

def column : TimestampColumn := ⟨id, fun _ _ h => h, fun _ => rfl⟩

def db : PriceDb :=
  { base :=
      { master :=
          { priceLists := .ofRows [{ id := 30, companyId := 10, status := .Active }]
            productVariants := .ofRows [{ id := 40, companyId := 10, status := .Active }] } }
    nextId := 100 }

def march : Instant := { date := ⟨2026, 3, 1⟩, millis := 0 }

def april : Instant := { date := ⟨2026, 4, 1⟩, millis := 0 }

def priceFrom (validFrom : Instant) (price : Cents) : CreatePriceListItemDto :=
  { productVariantId := 40, price, validFrom := some validFrom }

def calls : ℕ → Call
  | 0 => .create 30 10 (priceFrom march 2500)
  | _ => .create 30 10 (priceFrom april 2700)

def inTurn : List (ℕ × Label) := [(0, .read), (0, .check), (0, .commit), (1, .read), (1, .check)]

def atOnce : List (ℕ × Label) :=
  [(0, .read), (1, .read), (0, .check), (1, .check), (0, .commit), (1, .commit)]

def inMay (s : Shared PriceDb Uuid Phase) : ℕ :=
  s.db.items.rows.countP fun row =>
    ((30, 40, none), { date := ⟨2026, 5, 1⟩, millis := 0 }) ∈ row.occupies

theorem good_db : Good column db :=
  ⟨Table.apart_empty _, fun _ h => (List.not_mem_nil h).elim, fun _ h => (List.not_mem_nil h).elim⟩

end PriceDemo

open PriceDemo in
theorem one_price_iff_in_turn :
    ∃ s, inMay s = 1 ∧ ∀ ks, ks <+: inTurn → ∀ s',
      (machine column calls).Run (.start db .called) ks s' → OnePrice s'.db := by
  obtain ⟨s, hrun, hs⟩ := Machine.exists_runWith (machine column calls) (Respects column calls)
    (.start db .called) inTurn (fun s => inMay s = 1) (by decide +kernel)
  exact ⟨s, of_decide_eq_true hs, (one_price_iff column calls good_db hrun.run).2 hrun⟩

open PriceDemo in
theorem two_prices :
    ∃ s, (machine column calls).Run (.start db .called) atOnce s ∧ inMay s = 2 ∧
      ¬ OnePrice s.db := by
  obtain ⟨s, hrun, hs⟩ := Machine.exists_runWith (machine column calls) (fun _ _ => True)
    (.start db .called) atOnce (fun s => inMay s = 2) (by decide +kernel)
  have htwo := of_decide_eq_true hs
  refine ⟨s, hrun, htwo, fun hone => ?_⟩
  have hle : inMay s ≤ 1 := hone.once ((30, 40, none), { date := ⟨2026, 5, 1⟩, millis := 0 })
  omega

end FashionErp.PriceRace
